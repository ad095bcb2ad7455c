import Mathlib.Data.List.Forall2
import ComponentAtlas.Syntax.Shape

/-!
# Redundant parentheses

Where an expression may stand in parentheses without a difference to its meaning, a tree with
the parentheses and the tree without them are read alike: the names that are recognised, the
calls that forward, the superclass, the names of tags, and every visit that passes through
parentheses.

`Parenthesized` is one such change, anywhere in a tree. `Alike` is what it leaves of a node: the
node itself as it was, with children that have turned into others in one of three ways. A reading
that goes down a tree follows this one level at a time.
-/

namespace ComponentAtlas.Syntax.Node

/-! ## Parentheses -/

/-- A comment or a token, which says nothing between the nodes that do. -/
structure IsTrivia (node : Node) : Prop where
  leaf : node.children = []
  silent : node.kind = "comment" ∨ node.named = false
  bare : node.isMarkup = false

/-- What makes a node trivia is looked up in the node itself. -/
instance (node : Node) : Decidable node.IsTrivia :=
  decidable_of_iff (node.children.isEmpty ∧ (node.kind = "comment" ∨ node.named = false) ∧
      node.isMarkup = false)
    ⟨fun ⟨leaf, silent, bare⟩ => ⟨List.isEmpty_iff.mp leaf, silent, bare⟩,
      fun trivia => ⟨List.isEmpty_iff.mpr trivia.leaf, trivia.silent, trivia.bare⟩⟩

/-- A node has a child, and besides it only comments and tokens. -/
def Holds (outer inner : Node) : Prop :=
  ∃ before after, outer.children = before ++ inner :: after ∧
    (∀ node ∈ before, node.IsTrivia) ∧ ∀ node ∈ after, node.IsTrivia

/-- Parentheses around an expression. They fill its field, and hold nothing else that counts. -/
structure Encloses (outer inner : Node) : Prop where
  kind : outer.kind = "parenthesized_expression"
  named : outer.named = true
  field : outer.field = inner.field
  expression : inner.named = true ∧ inner.kind ≠ "comment"
  inside : ∃ field, outer.Holds { inner with field }

/-- Where parentheses are redundant: around the initializer of a variable, the callee of a call,
an argument of a call, and the superclass in an extends clause. A call has its arguments in a
list or in a template. -/
inductive Enclosable (parent child : Node) : Prop
  | initializer (declares : parent.isDeclarator = true) (value : child.field = some "value")
  | callee (call : parent.kind = "call_expression") (function : child.field = some "function")
  | argument (list : parent.kind = "arguments" ∨ parent.kind = "template_string")
  | superclass (clause : parent.kind = "extends_clause") (value : child.field = some "value")

/-- One expression, somewhere in a tree, is put in redundant parentheses. -/
inductive Parenthesized : Node → Node → Prop
  | here {parent child outer : Node} {before after : List Node}
      (split : parent.children = before ++ child :: after) (place : Enclosable parent child)
      (wraps : Encloses outer child) :
      Parenthesized parent { parent with children := before ++ outer :: after }
  | deeper {parent child changed : Node} {before after : List Node}
      (split : parent.children = before ++ child :: after)
      (inside : Parenthesized child changed) :
      Parenthesized parent { parent with children := before ++ changed :: after }

/-! ## What the change leaves of a node -/

/-- What has become of a child: it is the same, or the change is below it, or it stands in
parentheses now. -/
inductive Turns (parent child : Node) : Node → Prop
  | same : Turns parent child child
  | inside {changed : Node} (step : Parenthesized child changed) : Turns parent child changed
  | enclosed {outer : Node} (place : Enclosable parent child) (wraps : Encloses outer child) :
      Turns parent child outer

/-- Nodes of one kind and one spelling, where the children of the second are what has become of
those of the first. They need not fill the same field. -/
structure Alike (old new : Node) : Prop where
  kind : new.kind = old.kind
  named : new.named = old.named
  spelling : new.spelling = old.spelling
  children : List.Forall₂ (Turns old) old.children new.children

/-- Children that are the same have turned into each other. -/
theorem forall₂_turns_self (parent : Node) (children : List Node) :
    List.Forall₂ (Turns parent) children children :=
  List.forall₂_same.mpr fun _ _ => .same

/-- One child has turned into another. -/
theorem forall₂_turns_split {parent child changed : Node} (turned : Turns parent child changed)
    (before after : List Node) :
    List.Forall₂ (Turns parent) (before ++ child :: after) (before ++ changed :: after) :=
  List.rel_append (forall₂_turns_self parent before)
    (.cons turned (forall₂_turns_self parent after))

/-- A node is like itself. -/
theorem Alike.refl (node : Node) : Alike node node :=
  ⟨rfl, rfl, rfl, forall₂_turns_self node node.children⟩

/-- The field in which a node stands is no part of what it is. -/
theorem Alike.of_field (node : Node) (field : Option String) : Alike node { node with field } :=
  ⟨rfl, rfl, rfl, forall₂_turns_self node node.children⟩

/-- The change leaves a node alike. -/
theorem Parenthesized.alike {old new : Node} (step : Parenthesized old new) : Alike old new := by
  cases step with
  | here split place wraps =>
    refine ⟨rfl, rfl, rfl, ?_⟩
    rw [split]
    exact forall₂_turns_split (.enclosed place wraps) _ _
  | deeper split inside =>
    refine ⟨rfl, rfl, rfl, ?_⟩
    rw [split]
    exact forall₂_turns_split (.inside inside) _ _

/-- The change is below a node, and its field stays what it is. -/
theorem Parenthesized.field_eq {old new : Node} (step : Parenthesized old new) :
    new.field = old.field := by
  cases step <;> rfl

section turns

variable {parent child changed : Node}

/-- What becomes of a child fills its field. -/
theorem Turns.field_eq (turned : Turns parent child changed) : changed.field = child.field := by
  cases turned with
  | same => rfl
  | inside step => exact step.field_eq
  | enclosed place wraps => exact wraps.field

/-- What becomes of a named child is named. -/
theorem Turns.named_eq (turned : Turns parent child changed) : changed.named = child.named := by
  cases turned with
  | same => rfl
  | inside step => exact step.alike.named
  | enclosed place wraps => rw [wraps.named, wraps.expression.1]

/-- Only a comment becomes a comment. -/
theorem Turns.comment_iff (turned : Turns parent child changed) :
    changed.kind = "comment" ↔ child.kind = "comment" := by
  cases turned with
  | same => rfl
  | inside step => rw [step.alike.kind]
  | enclosed place wraps => simp [wraps.kind, wraps.expression.2]

/-- The kinds of nodes in which children are put in parentheses. -/
def enclosingKinds : List String :=
  ["variable_declarator", "call_expression", "arguments", "template_string", "extends_clause"]

/-- Only nodes of these kinds have children that may be put in parentheses. -/
theorem Enclosable.kind_mem (place : Enclosable parent child) : parent.kind ∈ enclosingKinds := by
  cases place with
  | initializer declares => simp [enclosingKinds, eq_of_beq declares]
  | callee call => simp [enclosingKinds, call]
  | argument list => rcases list with kind | kind <;> simp [enclosingKinds, kind]
  | superclass clause => simp [enclosingKinds, clause]

/-- Where nothing is put in parentheses, a child becomes one alike. -/
theorem Turns.alike (closed : ¬Enclosable parent child) (turned : Turns parent child changed) :
    Alike child changed := by
  cases turned with
  | same => exact .refl child
  | inside step => exact step.alike
  | enclosed place => exact absurd place closed

/-- Below a node of any other kind a child becomes one alike. -/
theorem Turns.alike_of_kind (closed : parent.kind ∉ enclosingKinds)
    (turned : Turns parent child changed) : Alike child changed :=
  turned.alike fun place => closed place.kind_mem

/-- Nothing is put in parentheses right below a node of other kinds. -/
theorem closed_of_kinds {node : Node} {kinds : List String}
    (apart : ∀ kind ∈ kinds, kind ∉ enclosingKinds) (member : decide (node.kind ∈ kinds) = true) :
    node.kind ∉ enclosingKinds :=
  apart node.kind (of_decide_eq_true member)

end turns

/-! ## Children -/

/-- The first elements of related lists are related. -/
theorem rel_head? {α β : Type} {R : α → β → Prop} {as : List α} {bs : List β}
    (related : List.Forall₂ R as bs) : Option.Rel R as.head? bs.head? := by
  cases related with
  | nil => exact .none
  | cons first => exact .some first

/-- The last elements of related lists are related. -/
theorem rel_getLast? {α β : Type} {R : α → β → Prop} {as : List α} {bs : List β}
    (related : List.Forall₂ R as bs) : Option.Rel R as.getLast? bs.getLast? := by
  rw [List.getLast?_eq_head?_reverse, List.getLast?_eq_head?_reverse]
  exact rel_head? (List.rel_reverse related)

/-- What is read off related values, if there are any, is related. -/
theorem rel_bind {α β γ δ : Type} {R : α → β → Prop} {S : γ → δ → Prop} {a : Option α}
    {b : Option β} {f : α → Option γ} {g : β → Option δ} (related : Option.Rel R a b)
    (read : ∀ x y, R x y → Option.Rel S (f x) (g y)) : Option.Rel S (a.bind f) (b.bind g) := by
  cases related with
  | none => exact .none
  | some pair => exact read _ _ pair

/-- What is read off related values, if there are any, is the same if it is off each pair. -/
theorem bind_eq_of_rel {α β γ : Type} {R : α → β → Prop} {a : Option α} {b : Option β}
    {f : α → Option γ} {g : β → Option γ} (related : Option.Rel R a b)
    (same : ∀ x, a = some x → ∀ y, R x y → g y = f x) : b.bind g = a.bind f := by
  cases related with
  | none => rfl
  | some pair => exact same _ rfl _ pair

namespace Alike

variable {old new : Node}

/-- What fills a field turns into what fills it. -/
theorem child? (alike : Alike old new) (name : String) :
    Option.Rel (Turns old) (old.child? name) (new.child? name) := by
  rw [Node.child?, Node.child?, ← List.head?_filter, ← List.head?_filter]
  apply rel_head?
  apply List.rel_filter _ alike.children
  intro child changed turned
  simp [turned.field_eq]

/-- The named children turn one by one, since parentheses are named as well. -/
theorem namedChildren (alike : Alike old new) :
    List.Forall₂ (Turns old) old.namedChildren new.namedChildren := by
  apply List.rel_filter _ alike.children
  intro child changed turned
  simp [turned.named_eq]

/-- So do significant children, since no parentheses are a comment. -/
theorem significantChildren (alike : Alike old new) :
    List.Forall₂ (Turns old) old.significantChildren new.significantChildren := by
  apply List.rel_filter _ alike.namedChildren
  intro child changed turned
  simp [turned.comment_iff]

/-- Nodes that are spelled alike have the same text. -/
theorem text (alike : Alike old new) : new.text = old.text := by
  rw [Node.text, Node.text, alike.spelling]

end Alike

/-! ## Looking through parentheses -/

/-- What is trivia is no significant child. -/
theorem IsTrivia.not_significant {node : Node} (trivia : node.IsTrivia) :
    (node.named && node.kind != "comment") = false := by
  rcases trivia.silent with comment | token
  · simp [comment]
  · simp [token]

/-- Parentheses hold the expression, and nothing else that counts. -/
theorem Encloses.significantChildren {outer inner : Node} (wraps : Encloses outer inner) :
    ∃ field, outer.significantChildren = [{ inner with field }] := by
  obtain ⟨field, before, after, children, front, back⟩ := wraps.inside
  refine ⟨field, ?_⟩
  have silent {nodes : List Node} (trivia : ∀ node ∈ nodes, node.IsTrivia) :
      nodes.filter (fun node => node.named && node.kind != "comment") = [] := by
    rw [List.filter_eq_nil_iff]
    intro node member
    simpa using (trivia node member).not_significant
  rw [Node.significantChildren, Node.namedChildren, children, List.filter_filter]
  simp only [Bool.and_comm _ (Node.named _)]
  rw [List.filter_append, silent front, List.filter_cons_of_pos, silent back, List.nil_append]
  simpa using wraps.expression

/-- Looking through the parentheses of alike nodes shows alike expressions. -/
theorem Alike.unwrapped {old new : Node} (alike : Alike old new) :
    Alike old.unwrapped new.unwrapped := by
  fun_induction Node.unwrapped old generalizing new with
  | case1 old wrapped inner alone ih =>
    have pair := alone ▸ alike.significantChildren
    have kind : old.kind = "parenthesized_expression" := eq_of_beq wrapped
    obtain ⟨changed, rest, turned, none, single⟩ := List.forall₂_cons_left_iff.mp pair
    rw [List.forall₂_nil_left_iff.mp none] at single
    rw [unwrapped_of_single (alike.kind.trans kind) single]
    exact ih (turned.alike_of_kind (by simp [kind, enclosingKinds]))
  | case2 old wrapped several =>
    rw [unwrapped_of_not_single]
    · exact alike
    · intro child alone
      have pair := alone ▸ alike.significantChildren
      obtain ⟨inner, rest, -, none, split⟩ := List.forall₂_cons_right_iff.mp pair
      rw [List.forall₂_nil_right_iff.mp none] at split
      exact several inner split
  | case3 old bare =>
    rw [unwrapped_of_kind_ne]
    · exact alike
    · rw [alike.kind]
      simpa using bare

/-- Nodes that are alike once parentheses are looked through. -/
def AlikeInside (old new : Node) : Prop := Alike old.unwrapped new.unwrapped

/-- A child and what becomes of it are alike inside their parentheses. -/
theorem Turns.alikeInside {parent child changed : Node} (turned : Turns parent child changed) :
    AlikeInside child changed := by
  cases turned with
  | same => exact .refl _
  | inside step => exact step.alike.unwrapped
  | enclosed place wraps =>
    obtain ⟨field, single⟩ := wraps.significantChildren
    rw [AlikeInside, unwrapped_of_single wraps.kind single]
    exact (Alike.of_field child field).unwrapped

/-! ## Readings -/

namespace Alike

variable {old new : Node}

/-- A function expression is told by its kind. -/
theorem isFunctionExpression (alike : Alike old new) :
    new.isFunctionExpression = old.isFunctionExpression := by
  rw [Node.isFunctionExpression, Node.isFunctionExpression, alike.kind]

/-- A function declaration is told by its kind. -/
theorem isFunctionDeclaration (alike : Alike old new) :
    new.isFunctionDeclaration = old.isFunctionDeclaration := by
  rw [Node.isFunctionDeclaration, Node.isFunctionDeclaration, alike.kind]

/-- A class declaration is told by its kind. -/
theorem isClassDeclaration (alike : Alike old new) :
    new.isClassDeclaration = old.isClassDeclaration := by
  rw [Node.isClassDeclaration, Node.isClassDeclaration, alike.kind]

/-- A declarator is told by its kind. -/
theorem isDeclarator (alike : Alike old new) : new.isDeclarator = old.isDeclarator := by
  rw [Node.isDeclarator, Node.isDeclarator, alike.kind]

/-- A field of a node in which nothing is put in parentheses is filled by alike nodes. -/
theorem child?_alike (alike : Alike old new) {name : String}
    (closed : ∀ child, child.field = some name → ¬Enclosable old child) :
    Option.Rel Alike (old.child? name) (new.child? name) := by
  have related := alike.child? name
  generalize found : old.child? name = first, new.child? name = second at related
  cases related with
  | none => exact .none
  | some turned =>
    have fills := List.find?_some found
    exact .some (turned.alike (closed _ (by simpa using fills)))

/-- Below a node of other kinds the fields are filled by alike nodes. -/
theorem child?_alike_of_kind (alike : Alike old new) (closed : old.kind ∉ enclosingKinds)
    (name : String) : Option.Rel Alike (old.child? name) (new.child? name) :=
  alike.child?_alike fun _ _ place => closed place.kind_mem

/-- Where nothing is put in parentheses, what fills a field is spelled as it was. -/
theorem map_text_child? (alike : Alike old new) (closed : old.kind ∉ enclosingKinds)
    (name : String) : (new.child? name).map Node.text = (old.child? name).map Node.text := by
  rw [Option.map_eq_bind, Option.map_eq_bind]
  apply bind_eq_of_rel (alike.child?_alike_of_kind closed name)
  intro child _ changed same
  rw [Function.comp_apply, Function.comp_apply, same.text]

/-- Alike nodes refer to the same framework names. -/
theorem refersTo (alike : Alike old new) (conventions : Conventions) (names : List String) :
    new.refersTo conventions names = old.refersTo conventions names := by
  unfold Node.refersTo
  rw [alike.kind, alike.text]
  split
  · rfl
  · split
    case isTrue chain =>
      have kind : old.kind = "member_expression" := eq_of_beq chain
      have closed : old.kind ∉ enclosingKinds := by simp [kind, enclosingKinds]
      have object := alike.child?_alike_of_kind closed "object"
      rw [alike.map_text_child? closed "property"]
      generalize old.child? "object" = first, new.child? "object" = second at object ⊢
      cases object with
      | none => rfl
      | some same => simp only [same.kind, same.text]
    case isFalse => rfl

/-- Alike nodes are both calls that forward a reference, or neither is. -/
theorem isForwardingCall (alike : Alike old new) (conventions : Conventions) :
    new.isForwardingCall conventions = old.isForwardingCall conventions := by
  unfold Node.isForwardingCall
  rw [alike.kind]
  congr 1
  have related := alike.child? "function"
  generalize old.child? "function" = first, new.child? "function" = second at related ⊢
  cases related with
  | none => rfl
  | some turned => exact turned.alikeInside.refersTo conventions _

/-- Alike calls have first arguments that are alike inside their parentheses. -/
theorem firstArgument? (alike : Alike old new) (call : old.kind = "call_expression") :
    Option.Rel AlikeInside old.firstArgument? new.firstArgument? := by
  have closed : ∀ child, child.field = some "arguments" → ¬Enclosable old child := by
    intro child fills place
    cases place <;> simp_all
  apply rel_bind (alike.child?_alike closed)
  intro list changed same
  exact rel_head? (same.significantChildren.imp fun _ _ => Turns.alikeInside)

/-- The children of a node in which nothing is put in parentheses turn into alike ones. -/
theorem children_alike (alike : Alike old new) (closed : old.kind ∉ enclosingKinds) :
    List.Forall₂ Alike old.children new.children :=
  alike.children.imp fun _ _ => Turns.alike_of_kind closed

/-- Below a node of other kinds the named children are alike one by one. -/
theorem namedChildren_alike (alike : Alike old new) (closed : old.kind ∉ enclosingKinds) :
    List.Forall₂ Alike old.namedChildren new.namedChildren :=
  alike.namedChildren.imp fun _ _ => Turns.alike_of_kind closed

/-- The heritages of alike classes have alike parts. -/
theorem heritage (alike : Alike old new) (closed : old.kind ∉ enclosingKinds) :
    List.Forall₂ Alike
      ((old.children.filter (·.kind == "class_heritage")).flatMap Node.namedChildren)
      ((new.children.filter (·.kind == "class_heritage")).flatMap Node.namedChildren) := by
  have listed : List.Forall₂ Alike (old.children.filter (·.kind == "class_heritage"))
      (new.children.filter (·.kind == "class_heritage")) := by
    apply List.rel_filter _ (alike.children_alike closed)
    intro child changed same
    simp [same.kind]
  have marked := (List.forall₂_and_left (p := fun part => part.kind = "class_heritage") _ _).mpr
    ⟨fun part member => by simpa using (List.mem_filter.mp member).2, listed⟩
  apply List.rel_flatMap marked
  rintro part changed ⟨kind, same⟩
  exact same.namedChildren_alike (by simp [kind, enclosingKinds])

/-- Alike classes have superclasses that are alike inside their parentheses. -/
theorem superclass? (alike : Alike old new) (declares : old.isClassDeclaration = true) :
    Option.Rel AlikeInside old.superclass? new.superclass? := by
  have parts := alike.heritage (closed_of_kinds (by decide) declares)
  rw [Node.superclass?, Node.superclass?, ← List.head?_filter, ← List.head?_filter]
  apply rel_bind (R := Alike)
  · apply rel_head?
    apply List.rel_filter _ parts
    intro part changed same
    simp [tellsSuperclass, same.kind]
  · intro part changed same
    rw [same.kind]
    split
    case isTrue clause =>
      have value := same.child? "value"
      have first := rel_head? same.namedChildren
      generalize part.child? "value" = a, changed.child? "value" = b at value ⊢
      cases value with
      | some turned => exact .some turned.alikeInside
      | none =>
        generalize part.namedChildren.head? = a, changed.namedChildren.head? = b at first ⊢
        cases first with
        | some turned => exact .some turned.alikeInside
        | none => exact .none
    case isFalse => exact .some same.unwrapped

end Alike

/-- The name of a member expression is that of its property. -/
theorem tagName?_of_member {node : Node} (chain : node.kind = "member_expression") :
    node.tagName? = (node.child? "property").bind tagName? := by
  rw [tagName?, if_neg (by simp [chain]), if_pos (by simp [chain])]
  split <;> simp [*]

/-- The name of a nested name is that of its last part. -/
theorem tagName?_of_nested {node : Node} (chain : node.kind = "nested_identifier") :
    node.tagName? = node.namedChildren.getLast?.bind tagName? := by
  rw [tagName?, if_neg (by simp [chain]), if_neg (by simp [chain]), if_pos (by simp [chain])]
  split <;> simp [*]

/-- Alike nodes name the same tag.

Induction on the size of the name. A name is read off its property or its last part, and nothing
is put in parentheses right below it. -/
theorem Alike.tagName? {old new : Node} (alike : Alike old new) : new.tagName? = old.tagName? := by
  induction bound : old.size using Nat.strongRecOn generalizing old new with
  | ind size ih =>
  by_cases member : old.kind = "member_expression"
  · rw [tagName?_of_member member, tagName?_of_member (alike.kind.trans member)]
    apply bind_eq_of_rel (alike.child?_alike_of_kind (by simp [member, enclosingKinds]) "property")
    intro property found changed same
    exact ih property.size (bound ▸ size_lt_of_child found) same rfl
  · by_cases nested : old.kind = "nested_identifier"
    · rw [tagName?_of_nested nested, tagName?_of_nested (alike.kind.trans nested)]
      apply bind_eq_of_rel
        (rel_getLast? (alike.namedChildren_alike (by simp [nested, enclosingKinds])))
      intro part found changed same
      have smaller := size_lt_of_named (List.mem_of_getLast? found)
      exact ih part.size (bound ▸ smaller) same rfl
    · rw [Node.tagName?, Node.tagName?, alike.kind, alike.text]
      simp [member, nested]

/-! ## Visits -/

/-- Related lists have the same parts, if related elements have the same part. -/
theorem flatMap_eq_of_forall₂ {α β γ : Type} {R : α → β → Prop} {as : List α} {bs : List β}
    {f : α → List γ} {g : β → List γ} (related : List.Forall₂ R as bs)
    (same : ∀ a ∈ as, ∀ b, R a b → g b = f a) : bs.flatMap g = as.flatMap f := by
  induction related with
  | nil => rfl
  | cons first rest ih =>
    rw [List.flatMap_cons, List.flatMap_cons, same _ List.mem_cons_self _ first,
      ih fun a member => same a (List.mem_cons_of_mem _ member)]

/-- What a visit reads off a node and what it enters below it. -/
def readings {α : Type} (keep : Node → Bool) (read : Node → Option α) (node : Node) : List α :=
  if keep node then (node.reached keep).filterMap read else []

section visits

variable {α : Type} {keep : Node → Bool} {read : Node → Option α}

/-- What a visit of the children of a node reads is what it reads off each of them. -/
theorem filterMap_walk (nodes : List Node) :
    (walk keep (nodes.filter keep)).filterMap read = nodes.flatMap (readings keep read) := by
  rw [walk_eq_reached, ← reachedBelow_eq, reachedBelow_eq_flatMap, List.filterMap_flatMap]
  congr 1
  funext node
  rw [readings]
  split <;> rfl

/-- The readings of a node are its own and those below it, unless it is not entered. -/
theorem readings_eq (node : Node) :
    readings keep read node =
      if keep node then (read node).toList ++ node.children.flatMap (readings keep read)
      else [] := by
  rw [readings, reached_eq, reachedBelow_eq, ← walk_eq_reached, List.filterMap_cons,
    filterMap_walk]
  cases read node <;> rfl

/-- A visit that sees no parentheses: it treats alike nodes in the same way, passes through
parentheses, and reads nothing off them, nor off comments and tokens. -/
structure Blind (keep : Node → Bool) (read : Node → Option α) : Prop where
  enters : ∀ {old new : Node}, Alike old new → keep new = keep old
  reads : ∀ {old new : Node}, Alike old new → read new = read old
  passes : ∀ {node : Node}, node.kind = "parenthesized_expression" → keep node = true
  skips : ∀ {node : Node}, node.kind = "parenthesized_expression" → read node = none
  ignores : ∀ {node : Node}, node.IsTrivia → read node = none

namespace Blind

/-- Comments and tokens add nothing to what is read. -/
theorem readings_trivia (blind : Blind keep read) {nodes : List Node}
    (trivia : ∀ node ∈ nodes, node.IsTrivia) : nodes.flatMap (readings keep read) = [] := by
  rw [List.flatMap_eq_nil_iff]
  intro node member
  rw [readings_eq, blind.ignores (trivia node member), (trivia node member).leaf]
  split <;> rfl

/-- A node that is passed and off which nothing is read adds nothing to what it holds. -/
theorem readings_holds (blind : Blind keep read) {outer inner : Node} (holds : outer.Holds inner)
    (passed : keep outer = true) (silent : read outer = none) :
    readings keep read outer = readings keep read inner := by
  obtain ⟨before, after, children, front, back⟩ := holds
  rw [readings_eq, if_pos passed, silent, children, List.flatMap_append, List.flatMap_cons,
    blind.readings_trivia front, blind.readings_trivia back]
  simp

/-- Below alike nodes the same is read.

Induction on the size of the tree. A child that has turned into one alike is entered or left out
as that one is, and below it the same is read. Parentheses are passed. -/
theorem readings_below (blind : Blind keep read) {old new : Node} (alike : Alike old new) :
    new.children.flatMap (readings keep read) = old.children.flatMap (readings keep read) := by
  induction bound : old.size using Nat.strongRecOn generalizing old new with
  | ind size ih =>
  have step {child changed : Node} (member : child ∈ old.children) (same : Alike child changed) :
      readings keep read changed = readings keep read child := by
    have smaller : child.size < size := by
      have listed := size_lt_of_mem member
      have whole := size_eq old
      omega
    rw [readings_eq, readings_eq, blind.enters same, blind.reads same,
      ih child.size smaller same rfl]
  apply flatMap_eq_of_forall₂ alike.children
  intro child member changed turned
  cases turned with
  | same => rfl
  | inside inner => exact step member inner.alike
  | enclosed place wraps =>
    obtain ⟨field, holds⟩ := wraps.inside
    rw [blind.readings_holds holds (blind.passes wraps.kind) (blind.skips wraps.kind)]
    exact step member (Alike.of_field child field)

/-- Off alike nodes the same is read. -/
theorem readings_alike (blind : Blind keep read) {old new : Node} (alike : Alike old new) :
    readings keep read new = readings keep read old := by
  rw [readings_eq, readings_eq, blind.enters alike, blind.reads alike, blind.readings_below alike]

end Blind

end visits

/-- Markup is told from what is none without seeing parentheses. -/
theorem blind_markup :
    Blind (fun _ => true) fun node => if node.isMarkup then some () else none where
  enters _ := rfl
  reads alike := by simp [isMarkup, alike.kind]
  passes _ := rfl
  skips kind := by simp [isMarkup, kind]
  ignores trivia := by simp [trivia.bare]

/-- Alike nodes both contain markup, or neither does. -/
theorem Alike.containsMarkup {old new : Node} (alike : Alike old new) :
    new.containsMarkup = old.containsMarkup := by
  have counted (node : Node) : node.containsMarkup =
      !(node.children.flatMap (readings (fun _ => true) fun node =>
        if node.isMarkup then some () else none)).isEmpty := by
    rw [← filterMap_walk, List.filter_true, Node.containsMarkup, descendants]
    rw [Bool.eq_iff_iff]
    simp
  rw [counted, counted, blind_markup.readings_below alike]

end ComponentAtlas.Syntax.Node
