/-!
# Patterns

A pattern describes texts: characters and sets of characters, one after another, repeated or
as alternatives, with groups that remember what they matched and tests that look around
without moving. How characters are compared depends on flags, which may change inside a
group.

Characters of a pattern are kept as code points, since a pattern may name code points that
are no characters.
-/

namespace ComponentAtlas.Pattern

/-- What changes how a pattern reads or matches. -/
inductive Flag where
  | ignoreCase
  | multiLine
  | dotAll
  | verbose
  | ascii
  | unicode
  deriving Repr, DecidableEq

/-- The letter of a flag. -/
def Flag.ofChar? : Char → Option Flag
  | 'i' => some .ignoreCase
  | 'm' => some .multiLine
  | 's' => some .dotAll
  | 'x' => some .verbose
  | 'a' => some .ascii
  | 'u' => some .unicode
  | _ => none

/-- A flag that chooses the alphabet, of which only one can be in force. -/
def Flag.choosesAlphabet : Flag → Bool
  | .ascii | .unicode => true
  | _ => false

/-- The flags in force where a part of a pattern is matched. -/
structure Setting where
  ignoreCase : Bool
  multiLine : Bool
  dotAll : Bool
  ascii : Bool
  deriving Repr, DecidableEq

namespace Setting

/-- The setting of given flags. -/
def ofFlags (flags : List Flag) : Setting :=
  ⟨flags.contains .ignoreCase, flags.contains .multiLine, flags.contains .dotAll,
    flags.contains .ascii⟩

/-- The setting after some flags are turned on and some off. -/
def change (setting : Setting) (on off : List Flag) : Setting :=
  let turn := fun (flag : Flag) (value : Bool) =>
    if off.contains flag then false else on.contains flag || value
  { ignoreCase := turn .ignoreCase setting.ignoreCase
    multiLine := turn .multiLine setting.multiLine
    dotAll := turn .dotAll setting.dotAll
    ascii := if on.contains .unicode then false else turn .ascii setting.ascii }

end Setting

/-- Classes of characters that have a name. -/
inductive Category where
  | digit
  | space
  | word
  deriving Repr, DecidableEq

/-- A part of a set of characters. -/
inductive Item where
  | code (value : Nat)
  | range (first last : Nat)
  | category (kind : Category) (negated : Bool)
  deriving Repr, DecidableEq

/-- Tests of a place that match no character. -/
inductive Anchor where
  | lineStart
  | lineEnd
  | textStart
  | textEnd
  | boundary
  | nonBoundary
  deriving Repr, DecidableEq

/-- Which number of repetitions is tried first, and whether others are tried. -/
inductive Greed where
  | greedy
  | reluctant
  | possessive
  deriving Repr, DecidableEq

/-- The least and the greatest number of characters that something matches. -/
structure Width where
  least : Nat
  most : Nat
  deriving Repr, DecidableEq

/-- The greatest number of repetitions, which also stands for no limit. -/
def countLimit : Nat := 4294967295

/-- The parts of a pattern. -/
inductive Node where
  | empty
  | literal (code : Nat)
  | any
  | set (negated : Bool) (items : List Item)
  | anchor (kind : Anchor)
  | both (first second : Node)
  | either (first second : Node)
  | repeated (least : Nat) (most : Option Nat) (greed : Greed) (body : Node)
  | capture (index : Nat) (body : Node)
  | flagged (on off : List Flag) (body : Node)
  | atomic (body : Node)
  | ahead (negated : Bool) (body : Node)
  | behind (negated : Bool) (body : Node)
  | reference (group : Nat) (width : Width)
  | conditional (group : Nat) (whenSet whenUnset : Node)
  deriving Repr

namespace Node

/-- One part after another. -/
def sequence (nodes : List Node) : Node := nodes.foldr .both .empty

/-- How many characters a part matches. -/
def width : Node → Width
  | empty | anchor _ | ahead .. | behind .. => ⟨0, 0⟩
  | literal _ | any | set .. => ⟨1, 1⟩
  | both first second => ⟨first.width.least + second.width.least,
      first.width.most + second.width.most⟩
  | either first second => ⟨min first.width.least second.width.least,
      max first.width.most second.width.most⟩
  | repeated least most _ body =>
    ⟨body.width.least * least, body.width.most * most.getD countLimit⟩
  | capture _ body | flagged _ _ body | atomic body => body.width
  | reference _ width => width
  | conditional _ whenSet whenUnset =>
    ⟨min whenSet.width.least whenUnset.width.least,
      max whenSet.width.most whenUnset.width.most⟩

/-- What looks behind matches a fixed number of characters everywhere in the part. -/
def looksBehindFixed : Node → Bool
  | behind _ body =>
    body.width.least == body.width.most && body.width.least ≤ countLimit
      && body.looksBehindFixed
  | both first second | either first second | conditional _ first second =>
    first.looksBehindFixed && second.looksBehindFixed
  | repeated _ _ _ body | capture _ body | flagged _ _ body | atomic body | ahead _ body =>
    body.looksBehindFixed
  | _ => true

end Node

/-- Why a text is no pattern. -/
inductive Refusal where
  | malformed
  | countTooLarge
  | clashingAlphabets
  deriving Repr, DecidableEq

/-- The refusal in words. -/
def Refusal.message : Refusal → String
  | .malformed => "malformed pattern"
  | .countTooLarge => "the repetition number is too large"
  | .clashingAlphabets => "ASCII and UNICODE flags are incompatible"

/-- A whole pattern with the setting that it starts with. -/
structure Compiled where
  setting : Setting
  body : Node
  deriving Repr

end ComponentAtlas.Pattern
