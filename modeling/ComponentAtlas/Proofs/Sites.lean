import ComponentAtlas.Component.Definition
import ComponentAtlas.Proofs.Occurrence

/-!
# Sites of definitions

A definition carries the node of its body but not where the node stands. Here definitions are
found with the places of their declarations and bodies, and without the places they are the
definitions of the module.

No declaration is a candidate twice. And the way from a declaration down to the body of its
definition passes no further declaration, through parentheses and wrapper calls as well. The
latter needs that the argument list of a call is not itself a declaration. The grammars see to
that; a tree built by hand might not.
-/

namespace ComponentAtlas.Syntax

/-- A node that declares nothing. -/
def Node.isPlain (node : Node) : Bool := !node.isDeclaration

/-- No call of the tree has a declaration in the place of its argument list. -/
def Node.PlainArguments (tree : Node) : Prop :=
  ∀ call ∈ tree.reached (fun _ => true), call.kind = "call_expression" →
    ∀ arguments ∈ call.child? "arguments", arguments.isPlain = true

/-- The nodes of a tree are looked through one by one. -/
instance (tree : Node) : Decidable tree.PlainArguments :=
  inferInstanceAs (Decidable (∀ call ∈ tree.reached (fun _ => true), call.kind = "call_expression" →
    ∀ arguments ∈ call.child? "arguments", arguments.isPlain = true))

/-- A function expression declares no name. -/
theorem Node.isPlain_of_function {node : Node} (function : node.isFunctionExpression = true) :
    node.isPlain = true := by
  have kinds : node.kind ∈ ["arrow_function", "function_expression", "function",
      "generator_function"] := of_decide_eq_true function
  simp only [List.mem_cons, List.not_mem_nil, or_false] at kinds
  rcases kinds with kind | kind | kind | kind <;>
    simp [isPlain, isDeclaration, isFunctionDeclaration, isClassDeclaration, isDeclarator, kind]

/-- Nor do parentheses. -/
theorem Node.isPlain_of_parenthesized {node : Node}
    (wrapped : node.kind = "parenthesized_expression") : node.isPlain = true := by
  simp [isPlain, isDeclaration, isFunctionDeclaration, isClassDeclaration, isDeclarator, wrapped]

/-- A wrapper that forwards a reference is called. -/
theorem Node.kind_of_forwarding {conventions : Conventions} {node : Node}
    (forwards : node.isForwardingCall conventions = true) : node.kind = "call_expression" := by
  rw [isForwardingCall, Bool.and_eq_true] at forwards
  exact eq_of_beq forwards.1

/-- A call declares no name. -/
theorem Node.isPlain_of_forwarding {conventions : Conventions} {node : Node}
    (forwards : node.isForwardingCall conventions = true) : node.isPlain = true := by
  simp [isPlain, isDeclaration, isFunctionDeclaration, isClassDeclaration, isDeclarator,
    kind_of_forwarding forwards]

namespace Occurrence

variable {tree : Node}

/-- What stands in a field is a child. -/
theorem mem_children_of_child? {upper lower : Occurrence tree} {name : String}
    (found : upper.child? name = some lower) : lower ∈ upper.children :=
  List.mem_of_find?_eq_some found

/-- A child that a node has for a field has a place. -/
theorem exists_child? {upper : Occurrence tree} {name : String} {lower : Node}
    (found : upper.node.child? name = some lower) :
    ∃ place, upper.child? name = some place ∧ place.node = lower :=
  Option.map_eq_some_iff.mp ((map_node_child? upper name).trans found)

/-- A significant child is a child. -/
theorem mem_children_of_significant {upper lower : Occurrence tree}
    (member : lower ∈ upper.significantChildren) : lower ∈ upper.children :=
  List.mem_of_mem_filter (List.mem_of_mem_filter member)

/-- A first argument that a call has has a place. -/
theorem exists_firstArgument? {call : Occurrence tree} {lower : Node}
    (found : call.node.firstArgument? = some lower) :
    ∃ place, call.firstArgument? = some place ∧ place.node = lower :=
  Option.map_eq_some_iff.mp ((map_node_firstArgument? call).trans found)

/-- The way from a node to what its child holds inside parentheses passes no declaration,
if what they hold is none. -/
theorem Reaches.unwrapped {upper outer : Occurrence tree} (inside : outer ∈ upper.children) :
    outer.unwrapped.node.isPlain = true → Reaches Node.isPlain upper outer.unwrapped := by
  fun_induction Occurrence.unwrapped outer generalizing upper with
  | case1 outer wrapped inner alone ih =>
    intro plain
    have here : outer.node.isPlain = true := Node.isPlain_of_parenthesized (eq_of_beq wrapped)
    have below : inner ∈ outer.children :=
      mem_children_of_significant (alone ▸ List.mem_singleton_self inner)
    exact (Reaches.step inside here).trans (ih below plain)
  | case2 outer wrapped several => exact Reaches.step inside
  | case3 outer bare => exact Reaches.step inside

/-- The way from a call to what its first argument holds inside parentheses passes no
declaration, if argument lists are none. -/
theorem Reaches.firstArgument {call argument : Occurrence tree} (plain : tree.PlainArguments)
    (isCall : call.node.kind = "call_expression")
    (given : call.firstArgument? = some argument)
    (undeclared : argument.unwrapped.node.isPlain = true) :
    Reaches Node.isPlain call argument.unwrapped := by
  obtain ⟨arguments, found, first⟩ := Option.bind_eq_some_iff.mp given
  have listed : call.node.child? "arguments" = some arguments.node := by
    rw [← map_node_child?, found, Option.map_some]
  have entered : arguments.node.isPlain = true :=
    plain call.node (mem_reached_iff.mpr ⟨call.way, call.found⟩) isCall arguments.node listed
  have inside : argument ∈ arguments.children :=
    mem_children_of_significant (List.mem_of_head? first)
  exact (Reaches.step (mem_children_of_child? found) entered).trans
    (Reaches.unwrapped inside undeclared)

end Occurrence

end ComponentAtlas.Syntax

namespace ComponentAtlas.Component

open Syntax Occurrence

variable {conventions : Conventions} {tree : Node}

/-! ## The declaration and the body -/

/-- How a declaration makes a definition of a form, and which node is its body then. -/
inductive Makes (conventions : Conventions) (declaration : Node) : Form → Node → Prop
  | functionDeclaration (declares : declaration.isFunctionDeclaration = true) :
      Makes conventions declaration .functionDeclaration declaration
  | functionBinding (declares : declaration.isDeclarator = true) {value : Node}
      (bound : declaration.child? "value" = some value)
      (function : value.unwrapped.isFunctionExpression = true) :
      Makes conventions declaration .functionBinding value.unwrapped
  | refForwardingBinding (declares : declaration.isDeclarator = true) {value inner : Node}
      (bound : declaration.child? "value" = some value)
      (forwards : value.unwrapped.isForwardingCall conventions = true)
      (given : value.unwrapped.firstArgument? = some inner)
      (function : inner.unwrapped.isFunctionExpression = true) :
      Makes conventions declaration .refForwardingBinding inner.unwrapped
  | classDeclaration (declares : declaration.isClassDeclaration = true) :
      Makes conventions declaration .classDeclaration declaration

/-- What a variable's value defines is a function, or one that a wrapper call is given. -/
theorem Makes.of_value {declaration value : Node} {name : String} {definition : Definition}
    (declares : declaration.isDeclarator = true)
    (bound : declaration.child? "value" = some value)
    (found : Definition.ofValue? conventions name value.unwrapped = some definition) :
    Makes conventions declaration definition.form definition.body := by
  unfold Definition.ofValue? at found
  split at found
  case isTrue function =>
    split at found
    case isTrue renders =>
      obtain rfl := Option.some.inj found
      exact .functionBinding declares bound function
    case isFalse => cases found
  case isFalse =>
    split at found
    case isTrue forwards =>
      split at found
      case h_1 inner given =>
        split at found
        case isTrue function =>
          obtain rfl := Option.some.inj found
          obtain ⟨argument, first, rfl⟩ := Option.map_eq_some_iff.mp given
          exact .refForwardingBinding declares bound forwards first function
        case isFalse => cases found
      case h_2 => cases found
    case isFalse => cases found

/-- A definition that is found is made in one of the four ways. -/
theorem Makes.of_found {declaration : Node} {definition : Definition}
    (found : Definition.ofNode? conventions declaration = some definition) :
    Makes conventions declaration definition.form definition.body := by
  unfold Definition.ofNode? at found
  split at found
  case isTrue declares =>
    simp only [Definition.ofFunction?, Option.ite_none_right_eq_some, Option.some.injEq] at found
    obtain ⟨_, rfl⟩ := found
    exact .functionDeclaration declares
  case isFalse =>
    split at found
    case isTrue declares =>
      simp only [Definition.ofDeclarator?, Option.bind_eq_bind, Option.bind_eq_some_iff] at found
      obtain ⟨_, _, _, _, _, _, value, bound, made⟩ := found
      exact .of_value declares bound made
    case isFalse =>
      split at found
      case isTrue declares =>
        simp only [Definition.ofClass?, Option.bind_eq_bind, Option.bind_eq_some_iff] at found
        obtain ⟨_, _, _, _, _, _, made⟩ := found
        obtain rfl := Option.some.inj made
        exact .classDeclaration declares
      case isFalse => cases found

/-- Only declarations make components. -/
theorem Makes.isDeclaration {declaration body : Node} {form : Form}
    (made : Makes conventions declaration form body) : declaration.isDeclaration = true := by
  cases made with
  | functionDeclaration declares => simp [Node.isDeclaration, declares]
  | functionBinding declares => simp [Node.isDeclaration, declares]
  | refForwardingBinding declares => simp [Node.isDeclaration, declares]
  | classDeclaration declares => simp [Node.isDeclaration, declares]

/-- The place of the body, from the place of the declaration. -/
def bodyAt? (declaration : Occurrence tree) : Form → Option (Occurrence tree)
  | .functionDeclaration => some declaration
  | .functionBinding => (declaration.child? "value").map Occurrence.unwrapped
  | .refForwardingBinding =>
    (declaration.child? "value").bind fun value =>
      value.unwrapped.firstArgument?.map Occurrence.unwrapped
  | .classDeclaration => some declaration

/-- At the place of the body stands the body, and the way down to it passes no declaration.

The body of a function or a class is the declaration itself. That of a binding is found
through the value, and that of a wrapped function further through the call's arguments; each
node on these ways is a parenthesis, a call, an argument list or the function. -/
theorem Makes.place {declaration : Occurrence tree} {form : Form} {body : Node}
    (made : Makes conventions declaration.node form body) :
    ∃ place, bodyAt? declaration form = some place ∧ place.node = body ∧
      (tree.PlainArguments → Reaches Node.isPlain declaration place) := by
  cases made with
  | functionDeclaration => exact ⟨declaration, rfl, rfl, fun _ => .refl⟩
  | functionBinding _ bound function =>
    obtain ⟨value, found, rfl⟩ := exists_child? bound
    have undeclared : value.unwrapped.node.isPlain = true := by
      rw [node_unwrapped]
      exact Node.isPlain_of_function function
    refine ⟨value.unwrapped, ?_, node_unwrapped value, fun _ => ?_⟩
    · rw [bodyAt?, found, Option.map_some]
    · exact Reaches.unwrapped (mem_children_of_child? found) undeclared
  | refForwardingBinding _ bound forwards given function =>
    obtain ⟨value, found, rfl⟩ := exists_child? bound
    rw [← node_unwrapped] at forwards given
    obtain ⟨argument, first, rfl⟩ := exists_firstArgument? given
    have undeclared : argument.unwrapped.node.isPlain = true := by
      rw [node_unwrapped]
      exact Node.isPlain_of_function function
    refine ⟨argument.unwrapped, ?_, node_unwrapped argument, fun plain => ?_⟩
    · rw [bodyAt?, found, Option.bind_some, first, Option.map_some]
    · have toCall : Reaches Node.isPlain declaration value.unwrapped :=
        Reaches.unwrapped (mem_children_of_child? found) (Node.isPlain_of_forwarding forwards)
      exact toCall.trans
        (Reaches.firstArgument plain (Node.kind_of_forwarding forwards) first undeclared)
  | classDeclaration => exact ⟨declaration, rfl, rfl, fun _ => .refl⟩

/-! ## The definitions with their places -/

/-- A definition with the places of its declaration and its body. -/
structure Site (conventions : Conventions) (tree : Node) where
  declaration : Occurrence tree
  definition : Definition
  body : Occurrence tree
  defined : Definition.ofNode? conventions declaration.node = some definition
  located : bodyAt? declaration definition.form = some body

/-- The definition that a declaration makes, with its places. -/
def siteAt? (conventions : Conventions) (declaration : Occurrence tree) :
    Option (Site conventions tree) :=
  match defined : Definition.ofNode? conventions declaration.node with
  | some definition =>
    match located : bodyAt? declaration definition.form with
    | some body => some ⟨declaration, definition, body, defined, located⟩
    | none => none
  | none => none

/-- Every definition has its places. -/
theorem map_definition_siteAt? (declaration : Occurrence tree) :
    (siteAt? conventions declaration).map Site.definition =
      Definition.ofNode? conventions declaration.node := by
  unfold siteAt?
  split
  case h_1 definition defined =>
    split
    case h_1 body located => exact defined.symm
    case h_2 missing =>
      obtain ⟨place, located, _⟩ := (Makes.of_found defined).place
      cases missing.symm.trans located
  case h_2 undefined => exact undefined.symm

/-- The site that is found at a declaration is that of the declaration. -/
theorem declaration_of_siteAt? {declaration : Occurrence tree} {site : Site conventions tree}
    (found : siteAt? conventions declaration = some site) : site.declaration = declaration := by
  unfold siteAt? at found
  split at found
  case h_1 =>
    split at found
    case h_1 =>
      obtain rfl := Option.some.inj found
      rfl
    case h_2 => cases found
  case h_2 => cases found

namespace Site

variable (site : Site conventions tree)

/-- The definition of a site is made by its declaration. -/
theorem made : Makes conventions site.declaration.node site.definition.form site.definition.body :=
  .of_found site.defined

/-- A site's body stands at its place. -/
theorem node_body : site.body.node = site.definition.body := by
  obtain ⟨place, located, same, _⟩ := site.made.place
  obtain rfl : site.body = place := Option.some.inj (site.located.symm.trans located)
  exact same

/-- The way from a site's declaration to its body passes no further declaration. -/
theorem reaches_body (plain : tree.PlainArguments) :
    Reaches Node.isPlain site.declaration site.body := by
  obtain ⟨place, located, _, clear⟩ := site.made.place
  obtain rfl : site.body = place := Option.some.inj (site.located.symm.trans located)
  exact clear plain

end Site

/-! ## Candidates -/

/-- What a top-level statement offers, with the places. -/
def statementCandidatesAt (statement : Occurrence tree) : List (Occurrence tree) :=
  if statement.node.isVariableDeclaration then
    statement.namedChildren.filter (·.node.isDeclarator)
  else [statement]

/-- The declaration that an `export` carries, with its place. -/
def exportedAt? (statement : Occurrence tree) : Option (Occurrence tree) :=
  if statement.node.kind == "export_statement" then statement.child? "declaration"
  else some statement

/-- The candidates for definitions, with their places. -/
def candidatesAt (conventions : Conventions) (tree : Node) : List (Occurrence tree) :=
  if conventions.includeNested then (root tree).descendants.filter (·.node.isDeclaration)
  else ((root tree).namedChildren.filterMap exportedAt?).flatMap statementCandidatesAt

/-- Without their places, the candidates of a statement are those of its node. -/
theorem map_node_statementCandidatesAt (statement : Occurrence tree) :
    (statementCandidatesAt statement).map node = statementCandidates statement.node := by
  rw [statementCandidatesAt, statementCandidates]
  split
  · rw [← map_node_namedChildren, List.filter_map]
    rfl
  · rfl

/-- Without its place, what a statement exports is what its node exports. -/
theorem map_node_exportedAt? (statement : Occurrence tree) :
    (exportedAt? statement).map node = exported? statement.node := by
  rw [exportedAt?, exported?]
  split
  · exact map_node_child? statement "declaration"
  · rfl

/-- What stands at the candidates' places are the candidates. -/
theorem map_node_candidatesAt (conventions : Conventions) (tree : Node) :
    (candidatesAt conventions tree).map node =
      if conventions.includeNested then allCandidates tree else moduleCandidates tree := by
  rw [candidatesAt]
  split
  · rw [allCandidates, ← show (root tree).node = tree from rfl, ← map_node_descendants,
      List.filter_map]
    rfl
  · have statements : tree.namedChildren = (root tree).namedChildren.map node :=
      (map_node_namedChildren (root tree)).symm
    have exports : ((root tree).namedChildren.filterMap exportedAt?).map node =
        tree.namedChildren.filterMap exported? := by
      rw [statements, List.map_filterMap, List.filterMap_map]
      congr 1
      funext statement
      exact map_node_exportedAt? statement
    rw [moduleCandidates, ← exports, List.flatMap_map, List.map_flatMap]
    simp only [map_node_statementCandidatesAt]

/-! ### Distinct places -/

/-- What a statement exports stands in it. -/
theorem extends_of_exportedAt? {statement declaration : Occurrence tree}
    (found : exportedAt? statement = some declaration) : statement.way <+: declaration.way := by
  unfold exportedAt? at found
  split at found
  · exact way_extends_of_child (mem_children_of_child? found)
  · obtain rfl := Option.some.inj found
    exact List.prefix_rfl

/-- The candidates of a statement stand in it. -/
theorem extends_of_statementCandidatesAt {statement candidate : Occurrence tree}
    (member : candidate ∈ statementCandidatesAt statement) : statement.way <+: candidate.way := by
  unfold statementCandidatesAt at member
  split at member
  · exact way_extends_of_child (List.mem_of_mem_filter (List.mem_of_mem_filter member))
  · obtain rfl := List.mem_singleton.mp member
    exact List.prefix_rfl

/-- The statements of a module are apart, so are what they export and what that offers. -/
theorem pairwise_apart_moduleCandidates (tree : Node) :
    (((root tree).namedChildren.filterMap exportedAt?).flatMap statementCandidatesAt).Pairwise
      Apart := by
  rw [List.pairwise_flatMap]
  constructor
  · intro statement _
    unfold statementCandidatesAt
    split
    · exact ((pairwise_apart_children statement).filter _).filter _
    · exact List.pairwise_singleton _ _
  · rw [List.pairwise_filterMap]
    apply ((pairwise_apart_children (root tree)).filter _).imp
    intro first second apart left leftFound right rightFound lower here other there
    exact apart.below
      ((extends_of_exportedAt? leftFound).trans (extends_of_statementCandidatesAt here))
      ((extends_of_exportedAt? rightFound).trans (extends_of_statementCandidatesAt there))

/-- No place is a candidate twice. -/
theorem nodup_candidatesAt (conventions : Conventions) (tree : Node) :
    (candidatesAt conventions tree).Nodup := by
  unfold candidatesAt
  split
  · exact (nodup_walk (pairwise_apart_children (root tree))).filter _
  · exact (pairwise_apart_moduleCandidates tree).imp Apart.ne

/-- The definitions of a module with their places, in source order. -/
def sites (conventions : Conventions) (tree : Node) : List (Site conventions tree) :=
  (candidatesAt conventions tree).filterMap (siteAt? conventions)

/-- The sites are those of the module's definitions. -/
theorem map_definition_sites (conventions : Conventions) (tree : Node) :
    (sites conventions tree).map Site.definition = definitions conventions tree := by
  rw [sites, definitions, List.map_filterMap, ← map_node_candidatesAt, List.filterMap_map]
  simp only [map_definition_siteAt?]
  rfl

/-- No two definitions of a module are made by one declaration. -/
theorem pairwise_declaration_sites (conventions : Conventions) (tree : Node) :
    (sites conventions tree).Pairwise fun first second =>
      first.declaration ≠ second.declaration := by
  rw [sites, List.pairwise_filterMap]
  apply (nodup_candidatesAt conventions tree).imp
  intro left right distinct first here second there
  rwa [declaration_of_siteAt? here, declaration_of_siteAt? there]

end ComponentAtlas.Component
