import ComponentAtlas.Pattern.Basic
import ComponentAtlas.Text.Case
import ComponentAtlas.Text.Digit
import ComponentAtlas.Text.Word

/-!
# Matching patterns

A place in a text is what stands before it and after it. Matching a part of a pattern at a
place tries its possibilities in order and hands each place that it reaches to what is to be
matched next; the first possibility whose continuation succeeds counts. Atomic parts and
tests take the first place that they reach and never try another.

A repetition with no required number left goes on only while it moves, so the characters
that are left bound it.
-/

namespace ComponentAtlas.Pattern

/-- A place in a text, with what the groups have matched on the way to it. -/
structure Place where
  /-- The characters before the place, the nearest first. -/
  before : List Char
  after : List Char
  groups : List (Nat × List Char)
  deriving Repr

namespace Place

/-- The place behind the next character. -/
def step (place : Place) (c : Char) (rest : List Char) : Place :=
  { place with before := c :: place.before, after := rest }

/-- The place so many characters back. -/
def back? : Nat → Place → Option Place
  | 0, place => some place
  | count + 1, place =>
    match place.before with
    | [] => none
    | c :: earlier => back? count { place with before := earlier, after := c :: place.after }

/-- The characters from one place to a later one. -/
def upTo (start stop : Place) : List Char :=
  start.after.take (start.after.length - stop.after.length)

/-- A group has matched what lies between two places. -/
def remember (stop : Place) (group : Nat) (start : Place) : Place :=
  { stop with groups := (group, start.upTo stop) :: stop.groups }

end Place

/-! ## Characters -/

/-- White space of the first alphabet. -/
def isPlainSpace (c : Char) : Bool := (9 ≤ c.toNat && c.toNat ≤ 13) || c == ' '

/-- A letter or digit of the first alphabet, or an underscore. -/
def isPlainWord (c : Char) : Bool := c.isAlphanum || c == '_'

/-- A character of a class. -/
def Category.holds (setting : Setting) : Category → Char → Bool
  | .digit, c => if setting.ascii then c.isDigit else Text.isDecimalDigit c
  | .space, c => if setting.ascii then isPlainSpace c else Text.isBlank c
  | .word, c => if setting.ascii then isPlainWord c else Text.isWord c

/-- The code points that count as a character. -/
def counted (setting : Setting) (c : Char) : List Nat :=
  if setting.ignoreCase then
    if setting.ascii then Text.Case.variantsAscii c.toNat else Text.Case.variants c.toNat
  else [c.toNat]

/-- A part of a set holds a character. -/
def Item.holds (setting : Setting) (c : Char) : Item → Bool
  | .code value => (counted setting c).contains value
  | .range first last => (counted setting c).any fun code => first ≤ code && code ≤ last
  | .category kind negated => kind.holds setting c != negated

/-- Two characters are the same when they are compared with what a group has matched. -/
def sameAgain (setting : Setting) (a b : Char) : Bool :=
  if setting.ignoreCase then
    let lower := if setting.ascii then Text.Case.lowerAscii else Text.Case.lower
    lower a.toNat == lower b.toNat
  else a == b

/-- Characters at the head of others, compared one by one. -/
def dropSame? (setting : Setting) : List Char → Place → Option Place
  | [], place => some place
  | c :: rest, place =>
    match place.after with
    | [] => none
    | d :: later =>
      if sameAgain setting c d then dropSame? setting rest (place.step d later) else none

/-! ## Places -/

/-- One of two neighbours is a word character and the other is not. A text without
characters has no boundary. -/
def wordEdge (setting : Setting) (place : Place) : Bool :=
  let isWordAt := fun (c? : Option Char) => c?.any (Category.word.holds setting)
  isWordAt place.before.head? != isWordAt place.after.head?

/-- An anchor holds at a place. -/
def Anchor.holds (setting : Setting) (place : Place) : Anchor → Bool
  | .textStart => place.before.isEmpty
  | .textEnd => place.after.isEmpty
  | .lineStart =>
    place.before.isEmpty || (setting.multiLine && place.before.head? == some '\n')
  | .lineEnd =>
    place.after.isEmpty || place.after == ['\n'] ||
      (setting.multiLine && place.after.head? == some '\n')
  | .boundary => wordEdge setting place
  | .nonBoundary =>
    !(place.before.isEmpty && place.after.isEmpty) && !wordEdge setting place

/-! ## Parts -/

/-- What is to be matched next. -/
abbrev Next := Place → Option Place

/-- How a part is matched, given what is to be matched next. -/
abbrev Matching := Place → Next → Option Place

/-- The place behind the next character, if it passes a test. -/
def matchChar (test : Char → Bool) : Matching := fun place next =>
  match place.after with
  | c :: rest => if test c then next (place.step c rest) else none
  | [] => none

/-- Matches a part so many times. -/
def times (body : Matching) : Nat → Matching
  | 0, place, next => next place
  | count + 1, place, next => body place fun reached => times body count reached next

/-- One repetition fewer is allowed. -/
def oneLess (allowed : Option Nat) : Option Nat := allowed.map (· - 1)

/-- Matches a part as often as wanted, at most as often as allowed. A repetition that does not
move is the last. -/
def loop (body : Matching) (reluctant : Bool) : Nat → Option Nat → Matching
  | 0, _, place, next => next place
  | room + 1, allowed, place, next =>
    if allowed == some 0 then next place
    else
      let again := fun (_ : Unit) => body place fun reached =>
        if reached.after.length == place.after.length then next reached
        else loop body reluctant room (oneLess allowed) reached next
      if reluctant then (next place).or (again ()) else (again ()).or (next place)

/-- Matches a part as often as possible, each time in the first way that succeeds. -/
def exhaust (body : Matching) : Nat → Option Nat → Place → Place
  | 0, _, place => place
  | room + 1, allowed, place =>
    if allowed == some 0 then place
    else
      match body place some with
      | some reached =>
        if reached.after.length == place.after.length then reached
        else exhaust body room (oneLess allowed) reached
      | none => place

/-- Matches a part a required number of times, each time in the first way that succeeds. -/
def insist (body : Matching) : Nat → Place → Option Place
  | 0, place => some place
  | count + 1, place => (body place some).bind (insist body count)

/-- Matches a repetition. -/
def repetition (body : Matching) (least : Nat) (most : Option Nat) (greed : Greed) : Matching :=
  let allowed := most.map (· - least)
  fun place next =>
    match greed with
    | .possessive =>
      (insist body least place).bind fun reached =>
        next (exhaust body (reached.after.length + 1) allowed reached)
    | _ =>
      times body least place fun reached =>
        loop body (greed == .reluctant) (reached.after.length + 1) allowed reached next

/-- Matches a part of a pattern. -/
def Node.run (setting : Setting) : Node → Matching
  | .empty, place, next => next place
  | .literal code, place, next =>
    matchChar (fun c => (counted setting c).contains code) place next
  | .any, place, next => matchChar (fun c => setting.dotAll || c != '\n') place next
  | .set negated items, place, next =>
    matchChar (fun c => items.any (Item.holds setting c) != negated) place next
  | .anchor kind, place, next => if kind.holds setting place then next place else none
  | .both first second, place, next =>
    first.run setting place fun reached => second.run setting reached next
  | .either first second, place, next =>
    (first.run setting place next).or (second.run setting place next)
  | .repeated least most greed body, place, next =>
    repetition (body.run setting) least most greed place next
  | .capture index body, place, next =>
    body.run setting place fun reached => next (reached.remember index place)
  | .flagged on off body, place, next => body.run (setting.change on off) place next
  | .atomic body, place, next => (body.run setting place some).bind next
  | .ahead negated body, place, next =>
    match body.run setting place some, negated with
    | some reached, false => next { place with groups := reached.groups }
    | none, true => next place
    | _, _ => none
  | .behind negated body, place, next =>
    match (place.back? body.width.least).bind fun start => body.run setting start some, negated with
    | some reached, false => next { place with groups := reached.groups }
    | none, true => next place
    | _, _ => none
  | .reference group _, place, next =>
    match place.groups.lookup group with
    | some chars => (dropSame? setting chars place).bind next
    | none => none
  | .conditional group whenSet whenUnset, place, next =>
    if (place.groups.lookup group).isSome then whenSet.run setting place next
    else whenUnset.run setting place next

/-- A pattern matches somewhere from a place on. -/
def searchFrom (pattern : Compiled) (before : List Char) : List Char → Bool
  | [] => (pattern.body.run pattern.setting ⟨before, [], []⟩ some).isSome
  | c :: rest =>
    (pattern.body.run pattern.setting ⟨before, c :: rest, []⟩ some).isSome
      || searchFrom pattern (c :: before) rest

/-- A pattern matches somewhere in a text. -/
def Compiled.matchesIn (pattern : Compiled) (text : String) : Bool :=
  searchFrom pattern [] text.toList

end ComponentAtlas.Pattern
