import ComponentAtlas.Component.Usage
import ComponentAtlas.Proofs.Sites

/-!
# Markup is credited once

The definitions of a module are found by one reading of its declarations, and the markup that
a definition renders by a visit that keeps out of every scope of its own. Definitions may be
nested, so the bodies overlap, and the two readings have to agree on what a scope is.

They do: a declaration that makes a definition opens a scope, whatever its form, so a visit does
not pass through it. Nor does the way from a declaration to its body pass another one. So of two
declarations above a visited node, the lower one is on neither part of the way that leads from
the upper one to the node.
-/

namespace ComponentAtlas.Component

open Syntax Occurrence

variable {conventions : Conventions} {tree : Node}

/-- A declaration that makes a definition opens a scope, whatever the form. -/
theorem Makes.opensScope {declaration body : Node} {form : Form}
    (made : Makes conventions declaration form body) :
    opensScope conventions declaration = true := by
  cases made with
  | functionDeclaration declares => simp [Component.opensScope, declares]
  | functionBinding declares bound function =>
    simp [Component.opensScope, declares, bound, function]
  | refForwardingBinding declares bound forwards =>
    simp [Component.opensScope, declares, bound, forwards]
  | classDeclaration declares => simp [Component.opensScope, declares]

namespace Site

variable (site : Site conventions tree)

/-- The occurrences that a visit of the body goes to. -/
def visited : List (Occurrence tree) :=
  walk (fun node => !opensScope conventions node)
    (site.body.entered fun node => !opensScope conventions node)

/-- The tags among them. -/
def tags : List (Occurrence tree) := site.visited.filter (·.node.isTag)

/-- What is visited are the body's own nodes. -/
theorem map_node_visited : site.visited.map node = ownNodes conventions site.definition.body := by
  rw [visited, map_node_walk, map_node_entered, ← node_body]
  rfl

/-- Without their places, the tags of a site are those among the nodes of its body's own. -/
theorem map_node_tags :
    site.tags.map node = (ownNodes conventions site.definition.body).filter Node.isTag := by
  rw [← map_node_visited, List.filter_map]
  rfl

/-- The components that the body renders are read off the tags. -/
theorem childComponents_eq :
    childComponents conventions site.definition.body =
      firstOccurrences (site.tags.filterMap fun tag => rendered? tag.node) := by
  have onlyTags : (fun node : Node => if node.isTag then rendered? node else none) = rendered? := by
    funext node
    by_cases isTag : node.isTag = true <;> simp [rendered?, isTag]
  calc childComponents conventions site.definition.body
      = firstOccurrences (((ownNodes conventions site.definition.body).filter
          Node.isTag).filterMap rendered?) := by
        rw [List.filterMap_filter, onlyTags, childComponents]
    _ = firstOccurrences (site.tags.filterMap fun tag => rendered? tag.node) := by
        rw [← map_node_tags, List.filterMap_map]
        rfl

variable {site}

/-- What is visited is reached from the body without entering a scope. -/
theorem reaches_of_visited {lower : Occurrence tree} (visit : lower ∈ site.visited) :
    Reaches (fun node => !opensScope conventions node) site.body lower := by
  obtain ⟨start, member, path⟩ := mem_walk.mp visit
  obtain ⟨inside, kept⟩ := List.mem_filter.mp member
  exact .head ⟨inside, kept⟩ path

/-- Below a declaration, no other one that makes a definition is above the body.

It would be on the way from the declaration to the body, where no declaration is, or above the
declaration that it is below. -/
theorem not_above_body {upper lower : Site conventions tree} {keep other : Node → Bool}
    (plain : tree.PlainArguments) (distinct : upper.declaration ≠ lower.declaration)
    (below : Reaches keep upper.declaration lower.declaration) :
    ¬ Reaches other lower.declaration upper.body := by
  intro above
  rcases (upper.reaches_body plain).compare above with between | outside
  · have undeclared := between.kept distinct.symm
    rw [Node.isPlain, lower.made.isDeclaration] at undeclared
    cases undeclared
  · exact distinct (below.antisymm outside)

/-- Of a declaration below another one, nothing is visited from the other's body.

It is not above the body, so it would be on the way from the body to what is visited, where no
scope is entered. -/
theorem not_visited_below {upper lower : Site conventions tree} {keep other : Node → Bool}
    (plain : tree.PlainArguments) (distinct : upper.declaration ≠ lower.declaration)
    (below : Reaches keep upper.declaration lower.declaration) {shared : Occurrence tree}
    (contained : Reaches other lower.declaration shared) : shared ∉ upper.visited := by
  intro visit
  have notAbove : ¬ Reaches other lower.declaration upper.body :=
    not_above_body plain distinct below
  rcases (reaches_of_visited visit).compare contained with inBody | above
  · by_cases same : lower.declaration = upper.body
    · exact notAbove (same ▸ .refl)
    · have closed := inBody.kept same
      rw [lower.made.opensScope] at closed
      cases closed
  · exact notAbove above

/-- Nothing is visited from the bodies of two definitions that different declarations make.

Both declarations are above what is visited, so one of them is below the other. -/
theorem disjoint_visited {first second : Site conventions tree} (plain : tree.PlainArguments)
    (distinct : first.declaration ≠ second.declaration) :
    ∀ shared ∈ first.visited, shared ∉ second.visited := by
  intro shared here there
  have left : Reaches (fun _ => true) first.declaration shared :=
    (first.reaches_body plain).everywhere.trans (reaches_of_visited here).everywhere
  have right : Reaches (fun _ => true) second.declaration shared :=
    (second.reaches_body plain).everywhere.trans (reaches_of_visited there).everywhere
  rcases left.compare right with below | below
  · exact not_visited_below plain distinct below right here
  · exact not_visited_below plain distinct.symm below left there

end Site

/-- No tag is credited to two definitions of a module: the tags that are visited from the
bodies stand at different places.

The places are those of the definitions, of their bodies and of the bodies' own nodes, and
the components that a body renders are read off its tags. -/
theorem tags_credited_once (conventions : Conventions) (tree : Node)
    (plain : tree.PlainArguments) :
    (sites conventions tree).map Site.definition = definitions conventions tree ∧
      (∀ site ∈ sites conventions tree,
        site.body.node = site.definition.body ∧
        site.tags.map node = (ownNodes conventions site.definition.body).filter Node.isTag ∧
        childComponents conventions site.definition.body =
          firstOccurrences (site.tags.filterMap fun tag => rendered? tag.node)) ∧
      (sites conventions tree).Pairwise fun first second =>
        ∀ tag ∈ first.tags, tag ∉ second.tags := by
  refine ⟨map_definition_sites conventions tree, ?_, ?_⟩
  · intro site _
    exact ⟨site.node_body, site.map_node_tags, site.childComponents_eq⟩
  · apply (pairwise_declaration_sites conventions tree).imp
    intro first second distinct tag here there
    exact Site.disjoint_visited plain distinct tag (List.mem_of_mem_filter here)
      (List.mem_of_mem_filter there)

/-- A function component that declares a wrapped one, in parentheses and after a comment, and
renders the same tag as that one. -/
def wrappedInside : Node :=
  let item := Node.branch "jsx_self_closing_element"
    [(Node.leaf "identifier" "Item").inField "name"]
  let inner := Node.branch "arrow_function" [item.inField "body"]
  let call := Node.branch "call_expression"
    [(Node.leaf "identifier" "forwardRef").inField "function",
      (Node.branch "arguments" [Node.leaf "comment" "// inner",
        Node.branch "parenthesized_expression" [inner]]).inField "arguments"]
  let declarator := Node.branch "variable_declarator"
    [(Node.leaf "identifier" "Inner").inField "name",
      (Node.branch "parenthesized_expression" [call]).inField "value"]
  Node.branch "program"
    [Node.branch "function_declaration"
      [(Node.leaf "identifier" "Outer").inField "name",
        (Node.branch "statement_block"
          [Node.branch "lexical_declaration" [declarator],
            Node.branch "return_statement" [item]]).inField "body"]]

/-- Both definitions render the tag, each its own. -/
theorem tags_credited_once_wrapped :
    let conventions := { Conventions.standard with includeNested := true }
    wrappedInside.PlainArguments ∧
      (definitions conventions wrappedInside).map (·.name) = ["Outer", "Inner"] ∧
      (definitions conventions wrappedInside).map (childComponents conventions ·.body) =
        [["Item"], ["Item"]] ∧
      (sites conventions wrappedInside).Pairwise fun first second =>
        ∀ tag ∈ first.tags, tag ∉ second.tags := by
  have plain : wrappedInside.PlainArguments := by decide +kernel
  refine ⟨plain, by decide +kernel, by decide +kernel, ?_⟩
  exact (tags_credited_once _ wrappedInside plain).2.2

end ComponentAtlas.Component
