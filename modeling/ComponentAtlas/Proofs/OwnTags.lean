import ComponentAtlas.Component.Usage
import ComponentAtlas.Proofs.Sites

/-!
# The tags of a body

A body is visited with a row of pending nodes, and what opens a scope is left out of the row. So
a node is visited exactly if neither it nor any node that is passed on the way down to it opens a
scope, and the visit meets such nodes in the order of the source. What the body renders is told
by the tags among them: the last segments of their names, those that are component names, each at
its first occurrence.

`Node.descents` lists all ways down from a node, whether or not a visit takes them, and is the
other side of these laws.
-/

namespace ComponentAtlas.Syntax.Node

/-! ## Ways down -/

/-- The ways down from a node, in document order: for each strict descendant the nodes that are
passed on the way to it, and the descendant itself. -/
def descents : Node → List (List Node × Node)
  | ⟨_, _, _, _, _, _, _, children⟩ => descentsTo children
where
  /-- The ways to the nodes of a list and down from each. -/
  descentsTo : List Node → List (List Node × Node)
    | [] => []
    | child :: rest =>
      ([], child) :: (descents child).map (fun (passed, lower) => (child :: passed, lower)) ++
        descentsTo rest

/-- The ways down from a node lead to a child, or through it and down from there. -/
theorem descents_eq (node : Node) :
    node.descents = node.children.flatMap fun child =>
      ([], child) :: child.descents.map fun (passed, lower) => (child :: passed, lower) := by
  have listed (children : List Node) :
      descents.descentsTo children = children.flatMap fun child =>
        ([], child) :: child.descents.map fun (passed, lower) => (child :: passed, lower) := by
    induction children with
    | nil => rfl
    | cons child rest ih => rw [descents.descentsTo, ih, List.flatMap_cons]
  cases node
  rw [descents, listed]

/-- A way down that a visit takes: every node on it is entered. -/
def isTaken (keep : Node → Bool) (descent : List Node × Node) : Bool :=
  (descent.1 ++ [descent.2]).all keep

/-- A way to a child is taken if the child is entered. -/
theorem isTaken_nil (keep : Node → Bool) (child : Node) :
    isTaken keep ([], child) = keep child := by
  simp [isTaken]

/-- A way through a child is taken if the child is entered and the rest of the way is taken. -/
theorem isTaken_cons (keep : Node → Bool) (child : Node) (descent : List Node × Node) :
    isTaken keep (child :: descent.1, descent.2) = (keep child && isTaken keep descent) := by
  simp [isTaken]

/-- A visit below a node goes where the ways down lead that it takes, in document order.

Induction on the size of the tree. Below a child that is not entered no way is taken. Below one
that is entered, the ways that are taken are those that are taken from there. -/
theorem map_snd_filter_isTaken (keep : Node → Bool) (node : Node) :
    (node.descents.filter (isTaken keep)).map Prod.snd =
      reached.reachedBelow keep node.children := by
  induction bound : node.size using Nat.strong_induction_on generalizing node with
  | _ size ih =>
  rw [descents_eq, List.filter_flatMap, List.map_flatMap, reachedBelow_eq_flatMap]
  apply List.flatMap_congr
  intro child member
  have smaller : child.size < size := by
    have listed := size_lt_of_mem member
    have whole := size_eq node
    omega
  by_cases kept : keep child = true
  · have onward : isTaken keep ∘ (fun (passed, lower) => (child :: passed, lower)) =
        isTaken keep := by
      funext descent
      exact (isTaken_cons keep child descent).trans (by rw [kept, Bool.true_and])
    rw [List.filter_cons_of_pos (by rw [isTaken_nil, kept]), List.filter_map, onward,
      List.map_cons, List.map_map, if_pos kept, reached_eq, ← ih child.size smaller child rfl]
    rfl
  · have closed : isTaken keep ∘ (fun (passed, lower) => (child :: passed, lower)) =
        fun _ => false := by
      funext descent
      exact (isTaken_cons keep child descent).trans (by simp [kept])
    rw [List.filter_cons_of_neg (by simpa [isTaken_nil] using kept), List.filter_map, closed,
      List.filter_false, if_neg kept]
    rfl

/-- The ways down lead to the strict descendants, in document order. -/
theorem map_snd_descents (node : Node) : node.descents.map Prod.snd = node.descendants := by
  have every : node.descents.filter (isTaken fun _ => true) = node.descents := by
    simp [isTaken]
  rw [descendants, walk_eq_reached, ← every, map_snd_filter_isTaken, reachedBelow_eq,
    List.filter_true]

/-! ## Segments of names -/

/-- The last segment of a tag's name. A single name is its own. Of a member expression it is that
of the property, and of a nested name that of the last part. -/
inductive LastSegment : Node → Node → Prop
  | single {name : Node}
      (simple : name.kind ∈ ["identifier", "property_identifier", "jsx_identifier"]) :
      LastSegment name name
  | member {name property segment : Node} (chain : name.kind = "member_expression")
      (last : name.child? "property" = some property) (inside : LastSegment property segment) :
      LastSegment name segment
  | nested {name part segment : Node} (chain : name.kind = "nested_identifier")
      (last : name.namedChildren.getLast? = some part) (inside : LastSegment part segment) :
      LastSegment name segment

/-- A last segment spells the name of the tag. -/
theorem LastSegment.tagName? {name segment : Node} (last : LastSegment name segment) :
    name.tagName? = some segment.text := by
  induction last with
  | single simple => rw [Node.tagName?, if_pos (by simpa using simple)]
  | member chain last inside ih =>
    rw [Node.tagName?, if_neg (by simp [chain]), if_pos (by simp [chain])]
    split
    case h_1 property found => rwa [Option.some.inj (found.symm.trans last)]
    case h_2 missing => cases missing.symm.trans last
  | nested chain last inside ih =>
    rw [Node.tagName?, if_neg (by simp [chain]), if_neg (by simp [chain]), if_pos (by simp [chain])]
    split
    case h_1 part found => rwa [Option.some.inj (found.symm.trans last)]
    case h_2 missing => cases missing.symm.trans last

/-- A tag is named by the last segment of its name, and by nothing if there is none. -/
theorem tagName?_eq_some_iff {name : Node} {text : String} :
    name.tagName? = some text ↔ ∃ segment, name.LastSegment segment ∧ segment.text = text := by
  constructor
  · fun_induction Node.tagName? name with
    | case1 name simple =>
      rintro ⟨⟩
      exact ⟨name, .single (by simpa using simple), rfl⟩
    | case2 name _ chain property found ih =>
      intro named
      obtain ⟨segment, inside, spelled⟩ := ih named
      exact ⟨segment, .member (eq_of_beq chain) found inside, spelled⟩
    | case3 => rintro ⟨⟩
    | case4 name _ _ chain part found ih =>
      intro named
      obtain ⟨segment, inside, spelled⟩ := ih named
      exact ⟨segment, .nested (eq_of_beq chain) found inside, spelled⟩
    | case5 => rintro ⟨⟩
    | case6 => rintro ⟨⟩
  · rintro ⟨segment, last, rfl⟩
    exact last.tagName?

end ComponentAtlas.Syntax.Node

namespace ComponentAtlas.Component

open Syntax

variable {conventions : Conventions}

/-! ## Scopes -/

/-- The ways in which a node opens a scope of its own. -/
inductive Scope (conventions : Conventions) (node : Node) : Prop
  | functionDeclaration (declares : node.isFunctionDeclaration = true)
  | classDeclaration (declares : node.isClassDeclaration = true)
  | boundFunction (declares : node.isDeclarator = true) {value : Node}
      (bound : node.child? "value" = some value)
      (function : value.unwrapped.isFunctionExpression = true)
  | boundCall (declares : node.isDeclarator = true) {value : Node}
      (bound : node.child? "value" = some value)
      (forwards : value.unwrapped.isForwardingCall conventions = true)
  | call (forwards : node.isForwardingCall conventions = true)

/-- What is a scope is told to open one. -/
theorem Scope.opensScope {node : Node} (scope : Scope conventions node) :
    opensScope conventions node = true := by
  cases scope with
  | functionDeclaration declares => simp [Component.opensScope, declares]
  | classDeclaration declares => simp [Component.opensScope, declares]
  | boundFunction declares bound function =>
    simp [Component.opensScope, declares, bound, function]
  | boundCall declares bound forwards => simp [Component.opensScope, declares, bound, forwards]
  | call forwards =>
    have plain := Node.isPlain_of_forwarding forwards
    simp only [Node.isPlain, Node.isDeclaration, Bool.not_eq_true', Bool.or_eq_false_iff] at plain
    simp [Component.opensScope, plain, forwards]

/-- A node opens a scope exactly in one of these ways. -/
theorem opensScope_iff {node : Node} :
    opensScope conventions node = true ↔ Scope conventions node := by
  constructor
  · intro opens
    unfold opensScope at opens
    split at opens
    case isTrue declares =>
      rcases Bool.or_eq_true_iff.mp declares with function | other
      · exact .functionDeclaration function
      · exact .classDeclaration other
    case isFalse =>
      split at opens
      case isTrue declares =>
        split at opens
        case h_1 value found =>
          obtain ⟨outer, bound, rfl⟩ := Option.map_eq_some_iff.mp found
          rcases Bool.or_eq_true_iff.mp opens with function | forwards
          · exact .boundFunction declares bound function
          · exact .boundCall declares bound forwards
        case h_2 => cases opens
      case isFalse => exact .call opens
  · exact Scope.opensScope

/-! ## What a body renders -/

/-- The strict descendants of a body that belong to it, in document order: neither they nor what
is passed on the way down to them opens a scope. -/
def nodesOutsideScopes (conventions : Conventions) (body : Node) : List Node :=
  (body.descents.filter fun (passed, node) =>
    (passed ++ [node]).all (!opensScope conventions ·)).map Prod.snd

/-- The visit of a body goes to the nodes that belong to it. -/
theorem ownNodes_eq (conventions : Conventions) (body : Node) :
    ownNodes conventions body = nodesOutsideScopes conventions body := by
  rw [ownNodes, Node.walk_eq_reached, ← Node.reachedBelow_eq, ← Node.map_snd_filter_isTaken,
    nodesOutsideScopes]
  rfl

/-- What nodes render are the component names among the names of their tags. -/
theorem filterMap_rendered? (nodes : List Node) :
    nodes.filterMap rendered? =
      (((nodes.filter Node.isTag).filterMap fun tag =>
        (tag.child? "name").bind Node.tagName?).filter isName) := by
  rw [List.filterMap_filter, List.filter_filterMap]
  congr 1
  funext node
  rw [rendered?]
  split <;> rfl

/-- What a body renders is read off the nodes that belong to it: of the tags among them, in
document order, the names that are component names, each at its first occurrence. A name is the
last segment of a chain. A node belongs to the body if nothing on the way to it opens a scope, in
one of five ways, where the body itself does not count, whatever kind it is of. -/
theorem childComponents_outside_scopes (conventions : Conventions) (body : Node) :
    childComponents conventions body =
        ((((nodesOutsideScopes conventions body).filter Node.isTag).filterMap fun tag =>
          (tag.child? "name").bind Node.tagName?).filter isName).eraseDups ∧
      (childComponents conventions body).Nodup ∧
      (∀ kind, childComponents conventions { body with kind } =
        childComponents conventions body) ∧
      body.descents.map Prod.snd = body.descendants ∧
      (∀ node, opensScope conventions node = true ↔ Scope conventions node) ∧
      ∀ (name : Node) (text : String), name.tagName? = some text ↔
        ∃ segment, name.LastSegment segment ∧ segment.text = text := by
  refine ⟨?_, nodup_firstOccurrences _, fun kind => rfl, Node.map_snd_descents body,
    fun node => opensScope_iff, fun name text => Node.tagName?_eq_some_iff⟩
  rw [childComponents, firstOccurrences_eq_eraseDups, ownNodes_eq, filterMap_rendered?]

end ComponentAtlas.Component
