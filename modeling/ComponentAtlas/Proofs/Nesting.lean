import ComponentAtlas.Proofs.Inventory
import ComponentAtlas.Proofs.Sites
import Mathlib.Data.List.Flatten

/-!
# Definitions at every depth

Definitions are looked for at the top level of a module or at every depth, and the two searches
go different ways: one reads statements and looks through `export`, the other one visits the
whole tree. They agree on the top level. The places that the first search goes to come in the
order of the visit, and a declaration among them is one that stands at the top level. So what
the first search finds, the second one finds at the same place, and otherwise only what stands
deeper.

What a definition is and what it renders does not depend on the search. So more depth gives
each file more usages and takes none away, and a catalog merged from more usages holds more
keys and more edges.
-/

namespace ComponentAtlas.Syntax

/-- The same conventions, with declarations at every depth. -/
def Conventions.nested (conventions : Conventions) : Conventions :=
  { conventions with includeNested := true }

/-- A declaration is no statement that exports. -/
theorem Node.kind_ne_export_of_isDeclaration {node : Node} (declares : node.isDeclaration = true) :
    node.kind ≠ "export_statement" := by
  intro kind
  simp [isDeclaration, isFunctionDeclaration, isClassDeclaration, isDeclarator, kind] at declares

/-- Nor does it declare several variables, as it is one of them itself. -/
theorem Node.isVariableDeclaration_of_isDeclaration {node : Node}
    (declares : node.isDeclaration = true) : node.isVariableDeclaration = false := by
  rw [← Bool.not_eq_true]
  intro several
  have kinds : node.kind ∈ ["lexical_declaration", "variable_declaration"] :=
    of_decide_eq_true several
  simp only [List.mem_cons, List.not_mem_nil, or_false] at kinds
  rcases kinds with kind | kind <;>
    simp [isDeclaration, isFunctionDeclaration, isClassDeclaration, isDeclarator, kind] at declares

/-- A statement that declares variables is none that exports. -/
theorem Node.kind_ne_export_of_isVariableDeclaration {node : Node}
    (several : node.isVariableDeclaration = true) : node.kind ≠ "export_statement" := by
  intro kind
  simp [isVariableDeclaration, kind] at several

namespace Occurrence

variable {tree : Node}

/-- Occurrences are told apart by their ways. -/
instance : DecidableEq (Occurrence tree) := fun first second =>
  decidable_of_iff (first.way = second.way) ⟨eq_of_way, congrArg way⟩

end Occurrence

end ComponentAtlas.Syntax

namespace ComponentAtlas.Component

open Syntax Occurrence

variable {conventions : Conventions} {tree : Node}

/-! ## The top level -/

/-- What an `export` carries. -/
def exportDeclaration? (statement : Occurrence tree) : Option (Occurrence tree) :=
  if statement.node.kind == "export_statement" then statement.child? "declaration" else none

/-- The statements of a module: the named children of its root, and what those of them carry
that are an `export`. -/
def topStatements (tree : Node) : List (Occurrence tree) :=
  (root tree).namedChildren ++ (root tree).namedChildren.filterMap exportDeclaration?

/-- A place is that of a statement of the module, or of a variable that such a statement
declares. -/
def AtTopLevel (place : Occurrence tree) : Prop :=
  ∃ statement ∈ topStatements tree, place = statement ∨
    statement.node.isVariableDeclaration = true ∧ place.node.isDeclarator = true ∧
      place ∈ statement.namedChildren

/-- The statements of the module are looked through. -/
instance (place : Occurrence tree) : Decidable (AtTopLevel place) :=
  inferInstanceAs (Decidable (∃ statement ∈ topStatements tree, place = statement ∨
    statement.node.isVariableDeclaration = true ∧ place.node.isDeclarator = true ∧
      place ∈ statement.namedChildren))

/-- The places of the candidates at a module's top level. -/
def moduleCandidatesAt (tree : Node) : List (Occurrence tree) :=
  ((root tree).namedChildren.filterMap exportedAt?).flatMap statementCandidatesAt

/-- Without nested declarations the candidates are those at the top level. -/
theorem candidatesAt_of_off (off : conventions.includeNested = false) (tree : Node) :
    candidatesAt conventions tree = moduleCandidatesAt tree := by
  rw [candidatesAt, if_neg (by simp [off]), moduleCandidatesAt]

/-- With them the candidates are all declarations, at every depth. -/
theorem candidatesAt_nested (conventions : Conventions) (tree : Node) :
    candidatesAt conventions.nested tree =
      (root tree).descendants.filter (·.node.isDeclaration) := by
  rw [candidatesAt, if_pos (by rfl)]

/-- A statement other than an `export` is read as it is, and what an `export` carries is read
for it. -/
theorem exists_exportedAt?_iff {statement : Occurrence tree}
    (plain : statement.node.kind ≠ "export_statement") :
    (∃ outer ∈ (root tree).namedChildren, exportedAt? outer = some statement) ↔
      statement ∈ topStatements tree := by
  rw [topStatements, List.mem_append, List.mem_filterMap]
  constructor
  · rintro ⟨outer, member, read⟩
    unfold exportedAt? at read
    split at read
    case isTrue exporting =>
      exact .inr ⟨outer, member, by rw [exportDeclaration?, if_pos exporting, read]⟩
    case isFalse =>
      obtain rfl := Option.some.inj read
      exact .inl member
  · rintro (member | ⟨outer, member, carried⟩)
    · exact ⟨statement, member, by rw [exportedAt?, if_neg (by simpa using plain)]⟩
    · unfold exportDeclaration? at carried
      split at carried
      case isTrue exporting =>
        exact ⟨outer, member, by rw [exportedAt?, if_pos exporting, carried]⟩
      case isFalse => cases carried

/-- The declarations among the candidates of the top level are those that stand there. -/
theorem mem_moduleCandidatesAt {place : Occurrence tree}
    (declares : place.node.isDeclaration = true) :
    place ∈ moduleCandidatesAt tree ↔ AtTopLevel place := by
  have single := Node.isVariableDeclaration_of_isDeclaration declares
  have read : ∀ statement : Occurrence tree,
      (∃ outer ∈ (root tree).namedChildren, exportedAt? outer = some statement) ∧
        place ∈ statementCandidatesAt statement ↔
      statement ∈ topStatements tree ∧ (place = statement ∨
        statement.node.isVariableDeclaration = true ∧ place.node.isDeclarator = true ∧
          place ∈ statement.namedChildren) := by
    intro statement
    rw [statementCandidatesAt]
    split
    case isTrue several =>
      have other : place ≠ statement := by
        rintro rfl
        simp [single] at several
      rw [exists_exportedAt?_iff (Node.kind_ne_export_of_isVariableDeclaration several),
        List.mem_filter]
      simp [several, other, and_comm]
    case isFalse alone =>
      have none : statement.node.isVariableDeclaration = false := by simpa using alone
      rw [List.mem_singleton]
      simp only [none, Bool.false_eq_true, false_and, or_false]
      apply and_congr_left
      rintro rfl
      exact exists_exportedAt?_iff (Node.kind_ne_export_of_isDeclaration declares)
  simp only [moduleCandidatesAt, List.mem_flatMap, List.mem_filterMap, AtTopLevel, read]

/-! ## The order of the searches -/

/-- What a statement offers is visited below it or is the statement, in order. -/
theorem statementCandidatesAt_sublist (statement : Occurrence tree) :
    (statementCandidatesAt statement).Sublist (statement :: statement.descendants) := by
  unfold statementCandidatesAt
  split
  · have inside : (statement.namedChildren.filter (·.node.isDeclarator)).Sublist
        statement.children := List.filter_sublist.trans List.filter_sublist
    exact .cons _ (inside.trans (children_sublist_descendants statement))
  · exact .cons_cons _ (List.nil_sublist _)

/-- What an `export` carries offers, or any other statement, is visited from there, in order. -/
theorem offered_sublist (outer : Occurrence tree) :
    ((exportedAt? outer).toList.flatMap statementCandidatesAt).Sublist
      (outer :: outer.descendants) := by
  unfold exportedAt?
  split
  case isFalse => simpa using statementCandidatesAt_sublist outer
  case isTrue =>
    cases carried : outer.child? "declaration" with
    | none => exact List.nil_sublist _
    | some inner =>
      have below : (walk (fun _ => true) [inner]).Sublist outer.descendants :=
        walk_sublist_of_mem (mem_children_of_child? carried)
      rw [walk_singleton] at below
      rw [Option.toList_some, List.flatMap_singleton]
      exact ((statementCandidatesAt_sublist inner).trans below).cons outer

/-- The candidates of the top level are descendants of the root, in order. -/
theorem moduleCandidatesAt_sublist (tree : Node) :
    (moduleCandidatesAt tree).Sublist (root tree).descendants := by
  have offered : moduleCandidatesAt tree = (root tree).namedChildren.flatMap fun outer =>
      (exportedAt? outer).toList.flatMap statementCandidatesAt := by
    rw [moduleCandidatesAt, List.filterMap_eq_flatMap_toList, List.flatMap_assoc]
  have visited : ((root tree).children.flatMap fun outer =>
      (exportedAt? outer).toList.flatMap statementCandidatesAt).Sublist
        (root tree).descendants := by
    apply flatMap_sublist_walk
    intro outer _
    rw [walk_singleton]
    exact offered_sublist outer
  rw [offered]
  exact (List.filter_sublist.flatMap _).trans visited

/-- A list of elements of another one in their order is what a test leaves of that one, if
nothing occurs twice there and the test tells its elements. -/
theorem filter_eq_of_sublist {α : Type} {part whole : List α} {test : α → Bool}
    (ordered : part.Sublist whole) (distinct : whole.Nodup)
    (tells : ∀ x ∈ whole, test x = true ↔ x ∈ part) : whole.filter test = part := by
  have passes : part.filter test = part :=
    List.filter_eq_self.mpr fun x member => (tells x (ordered.subset member)).mpr member
  have kept : part.Sublist (whole.filter test) := by
    rw [← passes]
    exact ordered.filter test
  have all : whole.filter test ⊆ part := by
    intro x member
    obtain ⟨listed, passed⟩ := List.mem_filter.mp member
    exact (tells x listed).mp passed
  exact (kept.eq_of_length_le ((distinct.filter test).length_le_of_subset all)).symm

/-- The declarations at any depth that stand at the top level are those that the search of the
top level goes to, in the same order. -/
theorem filter_candidatesAt_nested (off : conventions.includeNested = false) (tree : Node) :
    (candidatesAt conventions.nested tree).filter (fun place => AtTopLevel place) =
      (candidatesAt conventions tree).filter (·.node.isDeclaration) := by
  rw [candidatesAt_of_off off, candidatesAt_nested]
  apply filter_eq_of_sublist ((moduleCandidatesAt_sublist tree).filter _)
  · exact (nodup_walk (pairwise_apart_children (root tree))).filter _
  · intro place member
    have declares := (List.mem_filter.mp member).2
    rw [decide_eq_true_iff, List.mem_filter, mem_moduleCandidatesAt declares]
    simp [declares]

/-! ## Definitions -/

/-- What a definition is and what it renders is the same at every depth. -/
theorem ofNode?_nested (node : Node) :
    Definition.ofNode? conventions.nested node = Definition.ofNode? conventions node := rfl

/-- How a definition is used does not depend on how deep it stands. -/
theorem usageOf_nested : Scan.usageOf conventions.nested = Scan.usageOf conventions := rfl

/-- A definition with the components that it renders. -/
def rendering (conventions : Conventions) (definition : Definition) : Definition × List String :=
  (definition, childComponents conventions definition.body)

/-- Nor does what it renders. -/
theorem rendering_nested : rendering conventions.nested = rendering conventions := rfl

/-- The sites whose declarations pass a test are the sites of the candidates that pass it. -/
theorem filter_sites (conventions : Conventions) (keep : Occurrence tree → Bool) :
    (sites conventions tree).filter (fun site => keep site.declaration) =
      ((candidatesAt conventions tree).filter keep).filterMap (siteAt? conventions) := by
  rw [sites, List.filter_filterMap, List.filterMap_filter]
  congr 1
  funext place
  cases found : siteAt? conventions place with
  | none => simp
  | some site => rw [Option.filter_some, declaration_of_siteAt? found]

/-- The definitions at sites are those that the candidates make. -/
theorem map_definition_filterMap_siteAt? (conventions : Conventions)
    (places : List (Occurrence tree)) :
    (places.filterMap (siteAt? conventions)).map Site.definition =
      places.filterMap fun place => Definition.ofNode? conventions place.node := by
  rw [List.map_filterMap]
  simp only [map_definition_siteAt?]

/-- Only declarations make definitions. -/
theorem filterMap_filter_isDeclaration (conventions : Conventions)
    (places : List (Occurrence tree)) :
    (places.filter (·.node.isDeclaration)).filterMap
        (fun place => Definition.ofNode? conventions place.node) =
      places.filterMap fun place => Definition.ofNode? conventions place.node := by
  rw [List.filterMap_filter]
  congr 1
  funext place
  cases found : Definition.ofNode? conventions place.node with
  | none => simp
  | some definition => rw [if_pos (Makes.of_found found).isDeclaration]

/-- The definitions at any depth that stand at the top level are the definitions of the top
level, in the same order. -/
theorem map_definition_topSites (off : conventions.includeNested = false) (tree : Node) :
    ((sites conventions.nested tree).filter fun site => AtTopLevel site.declaration).map
        Site.definition = definitions conventions tree := by
  calc ((sites conventions.nested tree).filter fun site => AtTopLevel site.declaration).map
        Site.definition
      = ((candidatesAt conventions tree).filter (·.node.isDeclaration)).filterMap
          (fun place => Definition.ofNode? conventions place.node) := by
        rw [filter_sites conventions.nested fun place => AtTopLevel place,
          filter_candidatesAt_nested off, map_definition_filterMap_siteAt?]
        simp only [ofNode?_nested]
    _ = (sites conventions tree).map Site.definition := by
        rw [filterMap_filter_isDeclaration, sites, map_definition_filterMap_siteAt?]
    _ = definitions conventions tree := map_definition_sites conventions tree

/-- Every definition of the top level is found at any depth as well, in the same order. -/
theorem definitions_sublist_nested (off : conventions.includeNested = false) (tree : Node) :
    (definitions conventions tree).Sublist (definitions conventions.nested tree) := by
  rw [← map_definition_topSites off, ← map_definition_sites]
  exact List.filter_sublist.map _

/-! ## Catalogs -/

/-- Each key of a catalog is a key of another one, and so is each edge to a child. -/
structure Catalog.Within (fewer more : Catalog) : Prop where
  keys : fewer.keys ⊆ more.keys
  children : ∀ key child, fewer.HasChild key child → more.HasChild key child

/-- Deriving parents changes neither keys nor edges to children. -/
theorem Catalog.Within.deriveParents {fewer more : Catalog} (within : fewer.Within more) :
    fewer.deriveParents.Within more.deriveParents where
  keys := by
    rw [keys_deriveParents, keys_deriveParents]
    exact within.keys
  children := by
    intro key child edge
    rw [hasChild_deriveParents] at edge ⊢
    exact within.children key child edge

/-- More usages that count give more keys and more edges. -/
theorem within_of_countedUsages {fewer more : List Findings}
    (counted : countedUsages fewer ⊆ countedUsages more) :
    (Catalog.ofFindings fewer).Within (Catalog.ofFindings more) where
  keys := by
    intro key present
    obtain ⟨component, usage, member, named⟩ := Catalog.mem_keys_ofFindings.mp present
    exact Catalog.mem_keys_ofFindings.mpr ⟨component, usage, counted member, named⟩
  children := by
    intro key child edge
    obtain ⟨component, usage, member, rest⟩ := Catalog.hasChild_ofFindings.mp edge
    exact Catalog.hasChild_ofFindings.mpr ⟨component, usage, counted member, rest⟩

/-- If each file gives more usages, the catalog has more keys and more edges. -/
theorem within_of_usages {File : Type} {fewer more : File → Findings}
    (ok : ∀ file, (fewer file).ok = true → (more file).ok = true)
    (usages : ∀ file, (fewer file).usages ⊆ (more file).usages) (files : List File) :
    (Catalog.ofFindings (files.map fewer)).Within (Catalog.ofFindings (files.map more)) := by
  apply within_of_countedUsages
  intro usage counted
  obtain ⟨findings, kept, used⟩ := List.mem_flatMap.mp counted
  obtain ⟨member, succeeded⟩ := List.mem_filter.mp kept
  obtain ⟨file, listed, rfl⟩ := List.mem_map.mp member
  have again : more file ∈ (files.map more).filter (·.ok) :=
    List.mem_filter.mpr ⟨List.mem_map_of_mem listed, ok file succeeded⟩
  exact List.mem_flatMap.mpr ⟨more file, again, usages file used⟩

/-- More depth gives each tree more usages. -/
theorem usagesIn_subset_nested (off : conventions.includeNested = false) (tree : Node) :
    Scan.usagesIn conventions tree ⊆ Scan.usagesIn conventions.nested tree := by
  rw [Scan.usagesIn, Scan.usagesIn, usageOf_nested]
  exact ((definitions_sublist_nested off tree).map _).subset

/-- The analysis of a file that is read as a tree. -/
def analysisOf (conventions : Conventions) (file : Scan.SourceFile × Node) : Scan.Analysis :=
  ⟨file.1, none, Scan.usagesIn conventions file.2⟩

/-- Looking at every depth loses nothing. The definitions of the top level, with what they
render, are among those of every depth in the same order: they are the ones whose declarations
stand at the top level. So the catalog of any files has the same keys and the same edges, and
perhaps more, before parents are derived and afterwards.

Both searches go through the tree in its order and at the top level to the same declarations. -/
theorem nested_keeps_definitions (conventions : Conventions)
    (off : conventions.includeNested = false) :
    (∀ tree : Node,
      (sites conventions.nested tree).map Site.definition = definitions conventions.nested tree ∧
      ((sites conventions.nested tree).filter fun site => AtTopLevel site.declaration).map
          (fun site => rendering conventions.nested site.definition) =
        (definitions conventions tree).map (rendering conventions) ∧
      ((definitions conventions tree).map (rendering conventions)).Sublist
        ((definitions conventions.nested tree).map (rendering conventions.nested))) ∧
    ∀ files : List (Scan.SourceFile × Node),
      (Scan.mergeAll (files.map (analysisOf conventions))).Within
        (Scan.mergeAll (files.map (analysisOf conventions.nested))) ∧
      (Scan.mergeAll (files.map (analysisOf conventions))).deriveParents.Within
        (Scan.mergeAll (files.map (analysisOf conventions.nested))).deriveParents := by
  constructor
  · intro tree
    refine ⟨map_definition_sites conventions.nested tree, ?_, ?_⟩
    · rw [rendering_nested, ← map_definition_topSites off, List.map_map]
      rfl
    · rw [rendering_nested]
      exact (definitions_sublist_nested off tree).map _
  · intro files
    have merged : (Scan.mergeAll (files.map (analysisOf conventions))).Within
        (Scan.mergeAll (files.map (analysisOf conventions.nested))) := by
      rw [mergeAll_eq_ofFindings, mergeAll_eq_ofFindings, List.map_map, List.map_map]
      apply within_of_usages
      · exact fun _ => id
      · exact fun file => usagesIn_subset_nested off file.2
    exact ⟨merged, merged.deriveParents⟩

/-- An exported function component that declares a component of its own and renders it. -/
def exportedOuter : Node :=
  let inner := Node.branch "variable_declarator"
    [(Node.leaf "identifier" "Inner").inField "name",
      (Node.branch "arrow_function"
        [(Node.branch "jsx_self_closing_element"
          [(Node.leaf "identifier" "Item").inField "name"]).inField "body"]).inField "value"]
  let outer := Node.branch "function_declaration"
    [(Node.leaf "identifier" "Outer").inField "name",
      (Node.branch "statement_block"
        [Node.branch "lexical_declaration" [inner],
          Node.branch "return_statement" [Node.branch "jsx_self_closing_element"
            [(Node.leaf "identifier" "Inner").inField "name"]]]).inField "body"]
  Node.branch "program" [Node.branch "export_statement" [outer.inField "declaration"]]

/-- The outer component is at the top level, the inner one is found at depth only. -/
theorem nested_keeps_definitions_exported :
    Conventions.standard.includeNested = false ∧
      (definitions .standard exportedOuter).map (·.name) = ["Outer"] ∧
      (definitions Conventions.standard.nested exportedOuter).map (·.name) = ["Outer", "Inner"] ∧
      ((definitions .standard exportedOuter).map (rendering .standard)).Sublist
        ((definitions Conventions.standard.nested exportedOuter).map
          (rendering Conventions.standard.nested)) ∧
      (Scan.mergeAll ([(⟨"/ui/outer.js", "ui/outer.js"⟩, exportedOuter)].map
          (analysisOf .standard))).Within
        (Scan.mergeAll ([(⟨"/ui/outer.js", "ui/outer.js"⟩, exportedOuter)].map
          (analysisOf Conventions.standard.nested))) := by
  have off : Conventions.standard.includeNested = false := rfl
  obtain ⟨trees, files⟩ := nested_keeps_definitions .standard off
  refine ⟨off, by decide +kernel, by decide +kernel, (trees exportedOuter).2.2, ?_⟩
  exact (files [(⟨"/ui/outer.js", "ui/outer.js"⟩, exportedOuter)]).1

/-- A file fails at every depth if it fails at the top level, and gives at least the usages that
it gives there. -/
theorem analyzeFile_nested (off : conventions.includeNested = false) (parser : Scan.Parser)
    (disk : Disk) (file : Scan.SourceFile) :
    (Scan.analyzeFile parser disk conventions.nested file).1.failure =
        (Scan.analyzeFile parser disk conventions file).1.failure ∧
      (Scan.analyzeFile parser disk conventions file).1.usages ⊆
        (Scan.analyzeFile parser disk conventions.nested file).1.usages := by
  unfold Scan.analyzeFile
  cases disk.readMarkedText file.path with
  | error fault => exact ⟨rfl, List.Subset.refl _⟩
  | ok text =>
    simp only [Scan.analyzeText]
    cases Scan.parse parser (String.ofList (Path.baseName file.path.toList)) text with
    | error diagnostic => exact ⟨rfl, List.Subset.refl _⟩
    | ok tree => exact ⟨rfl, usagesIn_subset_nested off tree⟩

/-- From the same disk, a scan at every depth loses nothing, whichever files cannot be analysed. -/
theorem within_nested_analyses (off : conventions.includeNested = false) (parser : Scan.Parser)
    (disk : Disk) (files : List Scan.SourceFile) :
    (Catalog.ofFindings (files.map fun file =>
        (Scan.analyzeFile parser disk conventions file).1.findings)).Within
      (Catalog.ofFindings (files.map fun file =>
        (Scan.analyzeFile parser disk conventions.nested file).1.findings)) := by
  apply within_of_usages
  · intro file ok
    rw [Scan.Analysis.findings, (analyzeFile_nested off parser disk file).1]
    exact ok
  · intro file
    exact (analyzeFile_nested off parser disk file).2

end ComponentAtlas.Component
