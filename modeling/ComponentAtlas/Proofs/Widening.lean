import ComponentAtlas.Proofs.OwnTags

/-!
# Wider conventions

Conventions are wider when they know more wrappers, namespaces and base classes. What is recognised
by the narrower ones is recognised by the wider ones too, and this has two effects that run against
each other. A declaration that makes a definition makes the same one still, so no definition gets
lost. And a node that opens a scope opens one still, so less of a body belongs to it, and a body
renders nothing that it did not render before.

The nodes that belong to a body are a sublist of those that did. What the body renders is only a
subset: with a scope, the first occurrence of a name may disappear and a later one remain.
-/

namespace ComponentAtlas

namespace Syntax

variable {fewer more : Conventions} {node : Node}

/-- Every name that some conventions know is known to others, and both look equally deep. -/
structure Conventions.Within (fewer more : Conventions) : Prop where
  wrappers : fewer.refForwardingWrappers ⊆ more.refForwardingWrappers
  namespaces : fewer.frameworkNamespaces ⊆ more.frameworkNamespaces
  baseClasses : fewer.componentBaseClasses ⊆ more.componentBaseClasses
  includeNested : fewer.includeNested = more.includeNested

/-- A framework name stays one when there are more names and more namespaces. -/
theorem Node.refersTo_of_within (within : fewer.Within more) {names others : List String}
    (known : names ⊆ others) (refers : node.refersTo fewer names = true) :
    node.refersTo more others = true := by
  have listed : ∀ {few many : List String}, few ⊆ many → ∀ {name},
      few.contains name = true → many.contains name = true := by
    intro few many inside name member
    exact List.contains_iff_mem.mpr (inside (List.contains_iff_mem.mp member))
  unfold refersTo at refers ⊢
  split at refers
  case isTrue bare =>
    rw [if_pos bare]
    exact listed known refers
  case isFalse bare =>
    rw [if_neg bare]
    split at refers
    case isTrue chain =>
      rw [if_pos chain]
      split at refers
      case h_1 object found =>
        simp only [Bool.and_eq_true] at refers ⊢
        obtain ⟨⟨simple, space⟩, name⟩ := refers
        exact ⟨⟨simple, listed within.namespaces space⟩, listed known name⟩
      case h_2 => cases refers
    case isFalse => cases refers

/-- A call that forwards by fewer wrappers does by more. -/
theorem Node.isForwardingCall_of_within (within : fewer.Within more)
    (forwards : node.isForwardingCall fewer = true) : node.isForwardingCall more = true := by
  unfold isForwardingCall at forwards ⊢
  rw [Bool.and_eq_true] at forwards ⊢
  obtain ⟨call, named⟩ := forwards
  refine ⟨call, ?_⟩
  split at named
  case h_1 callee found => exact refersTo_of_within within within.wrappers named
  case h_2 => cases named

end Syntax

namespace Component

open Syntax

variable {fewer more : Conventions} {node : Node} {definition : Definition}

/-! ## Definitions -/

namespace Definition

/-- A value that defines a component by fewer conventions defines the same by more. -/
theorem ofValue?_of_within (within : fewer.Within more) {name : String}
    (found : ofValue? fewer name node = some definition) :
    ofValue? more name node = some definition := by
  unfold ofValue? at found ⊢
  split at found
  case isTrue function => rwa [if_pos function]
  case isFalse other =>
    rw [if_neg other]
    split at found
    case isTrue forwards => rwa [if_pos (Node.isForwardingCall_of_within within forwards)]
    case isFalse => cases found

/-- So does a declared variable. -/
theorem ofDeclarator?_of_within (within : fewer.Within more)
    (found : ofDeclarator? fewer node = some definition) :
    ofDeclarator? more node = some definition := by
  simp only [ofDeclarator?, Option.bind_eq_bind, Option.bind_eq_some_iff] at found ⊢
  obtain ⟨name, named, _, simple, _, capital, value, bound, made⟩ := found
  exact ⟨name, named, _, simple, _, capital, value, bound, ofValue?_of_within within made⟩

/-- So does a class. -/
theorem ofClass?_of_within (within : fewer.Within more)
    (found : ofClass? fewer node = some definition) : ofClass? more node = some definition := by
  simp only [ofClass?, Option.bind_eq_bind, Option.bind_eq_some_iff,
    Option.guard_eq_some'] at found ⊢
  obtain ⟨_, capital, superclass, extended, _, refers, made⟩ := found
  exact ⟨(), capital, superclass, extended, (),
    Node.refersTo_of_within within within.baseClasses refers, made⟩

/-- A declaration that makes a definition makes the same one by wider conventions. A function
declaration does so by any. -/
theorem ofNode?_of_within (within : fewer.Within more)
    (found : ofNode? fewer node = some definition) : ofNode? more node = some definition := by
  unfold ofNode? at found ⊢
  split at found
  case isTrue declares => rwa [if_pos declares]
  case isFalse noFunction =>
    rw [if_neg noFunction]
    split at found
    case isTrue declares =>
      rw [if_pos declares]
      exact ofDeclarator?_of_within within found
    case isFalse noVariable =>
      rw [if_neg noVariable]
      split at found
      case isTrue declares =>
        rw [if_pos declares]
        exact ofClass?_of_within within found
      case isFalse => cases found

end Definition

/-! ### Definitions with their places -/

/-- A site by narrower conventions is one by wider ones, with the same places and the same
definition. -/
def Site.widen (within : fewer.Within more) {tree : Node} (site : Site fewer tree) :
    Site more tree where
  declaration := site.declaration
  definition := site.definition
  body := site.body
  defined := Definition.ofNode?_of_within within site.defined
  located := site.located

/-- A site is found at its declaration. -/
theorem siteAt?_declaration {conventions : Conventions} {tree : Node}
    (site : Site conventions tree) : siteAt? conventions site.declaration = some site := by
  obtain ⟨declaration, definition, body, defined, located⟩ := site
  unfold siteAt?
  split
  case h_1 other found =>
    obtain rfl : other = definition := Option.some.inj (found.symm.trans defined)
    split
    case h_1 place there =>
      obtain rfl : place = body := Option.some.inj (there.symm.trans located)
      rfl
    case h_2 missing => cases missing.symm.trans located
  case h_2 undefined => cases undefined.symm.trans defined

/-- If whatever one reading makes of an element another makes of it too, then what the one makes
of a list is a sublist of what the other makes. -/
theorem filterMap_sublist_filterMap {α β : Type} {first second : α → Option β}
    (kept : ∀ element result, first element = some result → second element = some result)
    (elements : List α) : (elements.filterMap first).Sublist (elements.filterMap second) := by
  induction elements with
  | nil => exact List.Sublist.slnil
  | cons element rest ih =>
    cases found : first element with
    | none =>
      rw [List.filterMap_cons_none found, ← List.singleton_append, List.filterMap_append]
      exact ih.trans (List.sublist_append_right _ _)
    | some result =>
      rw [List.filterMap_cons_some found, List.filterMap_cons_some (kept element result found)]
      exact ih.cons_cons result

/-- The sites of a module are among those by wider conventions, in the same order. -/
theorem sublist_sites (within : fewer.Within more) (tree : Node) :
    ((sites fewer tree).map (Site.widen within)).Sublist (sites more tree) := by
  have candidates : candidatesAt more tree = candidatesAt fewer tree := by
    rw [candidatesAt, candidatesAt, within.includeNested]
  rw [sites, sites, candidates, List.map_filterMap]
  apply filterMap_sublist_filterMap
  intro declaration widened found
  obtain ⟨site, here, rfl⟩ := Option.map_eq_some_iff.mp found
  rw [← declaration_of_siteAt? here]
  exact siteAt?_declaration (site.widen within)

/-- The definitions that fewer conventions find in a tree are among those that more find, in the
same order. -/
theorem sublist_definitions (within : fewer.Within more) (tree : Node) :
    (definitions fewer tree).Sublist (definitions more tree) := by
  have same : ((sites fewer tree).map (Site.widen within)).map Site.definition =
      definitions fewer tree := by
    rw [List.map_map, ← map_definition_sites]
    rfl
  rw [← same, ← map_definition_sites more]
  exact (sublist_sites within tree).map Site.definition

/-! ## Bodies -/

/-- A scope by fewer conventions is one by more. -/
theorem Scope.of_within (within : fewer.Within more) (scope : Scope fewer node) :
    Scope more node := by
  cases scope with
  | functionDeclaration declares => exact .functionDeclaration declares
  | classDeclaration declares => exact .classDeclaration declares
  | boundFunction declares bound function => exact .boundFunction declares bound function
  | boundCall declares bound forwards =>
    exact .boundCall declares bound (Node.isForwardingCall_of_within within forwards)
  | call forwards => exact .call (Node.isForwardingCall_of_within within forwards)

/-- By wider conventions fewer nodes belong to a body, in the same order. -/
theorem sublist_ownNodes (within : fewer.Within more) (body : Node) :
    (ownNodes more body).Sublist (ownNodes fewer body) := by
  rw [ownNodes_eq, ownNodes_eq, nodesOutsideScopes, nodesOutsideScopes]
  apply List.Sublist.map
  apply List.monotone_filter_right
  rintro ⟨passed, node⟩ outside
  simp only [List.all_eq_true, Bool.not_eq_true'] at outside ⊢
  intro met member
  have closed := outside met member
  rw [← Bool.not_eq_true, opensScope_iff] at closed ⊢
  exact fun scope => closed (scope.of_within within)

/-- By wider conventions a body renders nothing that it did not render before. -/
theorem childComponents_subset (within : fewer.Within more) (body : Node) :
    childComponents more body ⊆ childComponents fewer body := by
  intro name rendered
  rw [childComponents, mem_firstOccurrences] at rendered ⊢
  exact ((sublist_ownNodes within body).filterMap rendered?).subset rendered

/-- Wider conventions keep every definition at its place, with its name, its form and its body, in
the same order. Of what bodies render they add nothing.

Conventions are only asked whether an expression refers to a framework name, and by that whether a
call is to a wrapper; no such answer turns from yes to no. A yes makes definitions, and it also
makes the scopes that are left out of a body. -/
theorem wider_conventions_monotone (within : fewer.Within more) (tree : Node) :
    ((sites fewer tree).map (Site.widen within)).Sublist (sites more tree) ∧
      (definitions fewer tree).Sublist (definitions more tree) ∧
      (∀ definition ∈ definitions fewer tree,
        childComponents more definition.body ⊆ childComponents fewer definition.body) ∧
      ∀ body, (ownNodes more body).Sublist (ownNodes fewer body) :=
  ⟨sublist_sites within tree, sublist_definitions within tree,
    fun definition _ => childComponents_subset within definition.body, sublist_ownNodes within⟩

/-- A component that is bound inside a function component to a call of `Preact.memo`, with a tag
that the function component renders further down as well. -/
def memoizedInside : Node :=
  let tag := fun name => Node.branch "jsx_self_closing_element"
    [(Node.leaf "identifier" name).inField "name"]
  let callee := Node.branch "member_expression"
    [(Node.leaf "identifier" "Preact").inField "object",
      (Node.leaf "property_identifier" "memo").inField "property"]
  let call := Node.branch "call_expression"
    [callee.inField "function",
      (Node.branch "arguments"
        [Node.branch "arrow_function" [(tag "Icon").inField "body"]]).inField "arguments"]
  let row := Node.branch "variable_declarator"
    [(Node.leaf "identifier" "Row").inField "name", call.inField "value"]
  Node.branch "program"
    [Node.branch "function_declaration"
      [(Node.leaf "identifier" "Page").inField "name",
        (Node.branch "statement_block"
          [Node.branch "lexical_declaration" [row],
            Node.branch "return_statement"
              [Node.branch "array" [tag "Title", tag "Icon"]]]).inField "body"]]

/-- With the wrapper and its namespace known, the inner component is found too. Its scope takes the
first of two equal tags away, and the tags of the outer one change their order. -/
theorem wider_conventions_monotone_memo :
    let fewer := { Conventions.standard with includeNested := true }
    let more := { fewer with
      refForwardingWrappers := ["memo", "forwardRef"], frameworkNamespaces := ["React", "Preact"] }
    fewer.Within more ∧
      (definitions fewer memoizedInside).map (·.name) = ["Page"] ∧
      (definitions more memoizedInside).map (·.name) = ["Page", "Row"] ∧
      (definitions fewer memoizedInside).map (childComponents fewer ·.body) =
        [["Icon", "Title"]] ∧
      (definitions fewer memoizedInside).map (childComponents more ·.body) =
        [["Title", "Icon"]] ∧
      (definitions fewer memoizedInside).Sublist (definitions more memoizedInside) ∧
      ∀ definition ∈ definitions fewer memoizedInside,
        childComponents more definition.body ⊆ childComponents fewer definition.body := by
  intro fewer more
  have within : fewer.Within more := ⟨by decide, by decide, by decide, rfl⟩
  obtain ⟨-, kept, rendered, -⟩ := wider_conventions_monotone within memoizedInside
  exact ⟨within, by decide +kernel, by decide +kernel, by decide +kernel, by decide +kernel, kept,
    rendered⟩

end Component

end ComponentAtlas
