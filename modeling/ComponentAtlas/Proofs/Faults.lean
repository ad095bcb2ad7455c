import ComponentAtlas.Proofs.Precedence
import ComponentAtlas.Syntax.Fault

/-!
# The first fault of a tree

The diagnostic of a tree is searched for among flagged nodes and nodes that were supplied, and
everything below other nodes is left out. Where the flag stands on every error node and above
every fault, nothing that is left out holds a fault. So the search finds what a search of the whole
tree finds, the first fault in document order, whatever else is flagged.

Places are told by ways, so that faults which look alike are told apart.
-/

namespace ComponentAtlas.Syntax

/-- A fault at the end of a way: an error node, or a node that the reader supplied. -/
structure FaultAt (root : Node) (way : List Nat) (fault : Node) : Prop where
  found : Node.at? way root = some fault
  isFault : fault.kind = "ERROR" ∨ fault.isMissing = true

/-- The flag stands on every error node and on every node above a fault. It may stand on others,
and need not stand on a node that was supplied. -/
def Flagged (root : Node) : Prop :=
  ∀ way node, Node.at? way root = some node →
    (node.kind = "ERROR" ∨ ∃ below fault, below ≠ [] ∧ FaultAt node below fault) →
    node.hasError = true

/-- A fault is an erroneous node or one that was supplied. -/
theorem Node.isFault_iff {node : Node} :
    node.isFault = true ↔ node.kind = "ERROR" ∨ node.isMissing = true := by
  simp [isFault]

namespace Occurrence

variable {tree : Node}

/-- In a flagged tree the search reaches every fault: what is above a fault is flagged. -/
theorem reaches_fault (flagged : Flagged tree) (lower : Occurrence tree)
    (fault : lower.node.isFault = true) : Reaches Node.isSuspect (root tree) lower := by
  have kind := Node.isFault_iff.mp fault
  apply reaches_from_root
  rintro ⟨way, node, found⟩ - ⟨below, onward⟩
  rw [Node.isSuspect, Bool.or_eq_true]
  have inside : Node.at? below node = some lower.node := by
    have whole := lower.found
    rw [← onward, Node.at?_append, found] at whole
    exact whole
  by_cases last : below = []
  · subst last
    obtain rfl : node = lower.node := Option.some.inj inside
    exact kind.imp_left fun error => flagged way _ found (.inl error)
  · exact .inl (flagged way node found (.inr ⟨below, lower.node, last, inside, kind⟩))

/-- A search along a visit of the tree is a search along a visit of its occurrences. -/
theorem find?_walk_node (keep test : Node → Bool) (tree : Node) :
    (Node.walk keep [tree]).find? test =
      ((walk keep [root tree]).find? (test ·.node)).map node := by
  have nodes := map_node_walk keep [root tree]
  rw [List.map_singleton] at nodes
  exact (congrArg (·.find? test) nodes).symm.trans List.find?_map

/-- Whoever finds a fault in a flagged tree finds the same, whether or not what is not flagged is
entered. -/
theorem find?_fault_eq (flagged : Flagged tree) :
    (walk Node.isSuspect [root tree]).find? (·.node.isFault) =
      (walk (fun _ => true) [root tree]).find? (·.node.isFault) := by
  apply Option.ext
  intro first
  rw [find?_walk_eq_some_iff (reaches_fault flagged),
    find?_walk_eq_some_iff fun lower _ => reaches_everything lower]

end Occurrence

/-- The first fault in document order: no way to a fault comes before the way to it, where ways
are compared child number by child number and a way comes before those that go on from it. -/
structure FirstFaultAt (root : Node) (way : List Nat) (fault : Node) : Prop
    extends FaultAt root way fault where
  first : ∀ other later, FaultAt root other later → ¬ other < way

/-- In a flagged tree the search finds a fault exactly if it is the first one. -/
theorem find?_fault_eq_some_iff {root fault : Node} (flagged : Flagged root) :
    (Node.walk Node.isSuspect [root]).find? Node.isFault = some fault ↔
      ∃ way, FirstFaultAt root way fault := by
  rw [Occurrence.find?_walk_node, Option.map_eq_some_iff]
  constructor
  · rintro ⟨⟨way, node, found⟩, search, rfl⟩
    obtain ⟨kind, earliest⟩ :=
      (Occurrence.find?_walk_eq_some_iff (Occurrence.reaches_fault flagged)).mp search
    refine ⟨way, ⟨found, Node.isFault_iff.mp kind⟩, ?_⟩
    rintro other later ⟨there, again⟩
    exact earliest ⟨other, later, there⟩ (Node.isFault_iff.mpr again)
  · rintro ⟨way, ⟨found, kind⟩, earliest⟩
    refine ⟨⟨way, fault, found⟩, ?_, rfl⟩
    rw [Occurrence.find?_walk_eq_some_iff (Occurrence.reaches_fault flagged)]
    refine ⟨Node.isFault_iff.mpr kind, fun lower again => ?_⟩
    exact earliest lower.way lower.node ⟨lower.found, Node.isFault_iff.mp again⟩

/-- In a flagged tree the search fails exactly if there is no fault. -/
theorem find?_fault_eq_none_iff {root : Node} (flagged : Flagged root) :
    (Node.walk Node.isSuspect [root]).find? Node.isFault = none ↔
      ∀ way fault, ¬ FaultAt root way fault := by
  rw [Occurrence.find?_walk_node, Option.map_eq_none_iff, List.find?_eq_none]
  constructor
  · rintro none way fault ⟨found, kind⟩
    have suspect := Occurrence.reaches_fault flagged ⟨way, fault, found⟩
      (Node.isFault_iff.mpr kind)
    exact none _ (Occurrence.mem_walk.mpr ⟨_, List.mem_singleton_self _, suspect⟩)
      (Node.isFault_iff.mpr kind)
  · intro none lower _ fault
    exact none lower.way lower.node ⟨lower.found, Node.isFault_iff.mp fault⟩

/-- In a flagged tree the search of what is flagged finds what the search of all nodes finds. -/
theorem find?_fault_eq_full {root : Node} (flagged : Flagged root) :
    (Node.walk Node.isSuspect [root]).find? Node.isFault =
      (root :: root.descendants).find? Node.isFault := by
  have whole : Node.walk (fun _ => true) [root] = root :: root.descendants := by
    rw [Node.walk, Node.entered, List.filter_true, List.append_nil, Node.descendants]
  rw [← whole, Occurrence.find?_walk_node, Occurrence.find?_walk_node,
    Occurrence.find?_fault_eq flagged]

/-! ## The diagnostic -/

/-- A report says whether the fault was supplied, and where it starts. -/
theorem Node.faultReport_eq (fault : Node) :
    fault.faultReport =
      (if fault.isMissing then "Missing '" ++ fault.kind ++ "'" else "Unexpected syntax") ++
        s!" (line {fault.position.row + 1}, column {fault.position.column + 1})" := by
  rw [faultReport]
  simp only [toString, String.append_assoc]

/-- The notice for a tree without faults reports none. -/
theorem Node.faultReport_ne (fault : Node) : fault.faultReport ≠ "Syntax error" := by
  intro same
  have starts : fault.faultReport.toList.head? = some 'S' := by
    rw [same]
    rfl
  rw [Node.faultReport_eq] at starts
  cases missing : fault.isMissing <;> simp [missing] at starts

/-- Whether there is a fault below a node can be read off the nodes below it. -/
theorem exists_faultAt_below_iff {node : Node} :
    (∃ below fault, below ≠ [] ∧ FaultAt node below fault) ↔
      ∃ child ∈ node.children, ∃ fault ∈ child.reached (fun _ => true), fault.isFault = true := by
  constructor
  · rintro ⟨below, fault, further, found, kind⟩
    obtain ⟨index, rest, rfl⟩ := List.exists_cons_of_ne_nil further
    obtain ⟨child, taken, onward⟩ := Option.bind_eq_some_iff.mp found
    exact ⟨child, List.mem_of_getElem? taken, fault, mem_reached_iff.mpr ⟨rest, onward⟩,
      Node.isFault_iff.mpr kind⟩
  · rintro ⟨child, listed, fault, inside, kind⟩
    obtain ⟨index, taken⟩ := List.mem_iff_getElem?.mp listed
    obtain ⟨rest, onward⟩ := mem_reached_iff.mp inside
    refine ⟨index :: rest, fault, by simp, ?_, Node.isFault_iff.mp kind⟩
    exact Option.bind_eq_some_iff.mpr ⟨child, taken, onward⟩

/-- Whether a tree is flagged can be read off its nodes. -/
theorem flagged_iff {root : Node} :
    Flagged root ↔ ∀ node ∈ root.reached (fun _ => true),
      (node.kind = "ERROR" ∨ ∃ child ∈ node.children, ∃ fault ∈ child.reached (fun _ => true),
        fault.isFault = true) → node.hasError = true := by
  constructor
  · intro flagged node inside due
    obtain ⟨way, found⟩ := mem_reached_iff.mp inside
    exact flagged way node found (due.imp_right exists_faultAt_below_iff.mpr)
  · intro flagged way node found due
    exact flagged node (mem_reached_iff.mpr ⟨way, found⟩)
      (due.imp_right exists_faultAt_below_iff.mp)

/-- The nodes of the tree are looked through. -/
instance (root : Node) : Decidable (Flagged root) := decidable_of_iff' _ flagged_iff

/-- The diagnostic reports what the search finds. -/
theorem Node.describeFirstFault_eq (root : Node) :
    root.describeFirstFault =
      (((walk isSuspect [root]).find? isFault).map faultReport).getD "Syntax error" := by
  rw [describeFirstFault]
  cases (walk isSuspect [root]).find? isFault <;> rfl

/-- The diagnostic of a flagged tree tells its first fault in document order: whether it was
supplied, of which kind it is then, and where it starts, with counts from one. If there is a fault
there is a first one, and only a tree without faults gets the bare notice. It is the answer of a
search of all nodes. -/
theorem diagnostic_of_first_fault {root : Node} (flagged : Flagged root) :
    (∀ way fault, FirstFaultAt root way fault →
      root.describeFirstFault =
        (if fault.isMissing then "Missing '" ++ fault.kind ++ "'" else "Unexpected syntax") ++
          s!" (line {fault.position.row + 1}, column {fault.position.column + 1})") ∧
    ((∃ way fault, FaultAt root way fault) → ∃ way fault, FirstFaultAt root way fault) ∧
    (root.describeFirstFault = "Syntax error" ↔ ∀ way fault, ¬ FaultAt root way fault) ∧
    root.describeFirstFault =
      (((root :: root.descendants).find? Node.isFault).map Node.faultReport).getD
        "Syntax error" := by
  rw [Node.describeFirstFault_eq]
  refine ⟨?_, ?_, ?_, by rw [find?_fault_eq_full flagged]⟩
  · intro way fault first
    have search := (find?_fault_eq_some_iff flagged).mpr ⟨way, first⟩
    rw [search, Option.map_some, Option.getD_some, Node.faultReport_eq]
  · rintro ⟨way, fault, stands⟩
    cases search : (Node.walk Node.isSuspect [root]).find? Node.isFault with
    | none => exact absurd stands ((find?_fault_eq_none_iff flagged).mp search way fault)
    | some found =>
      obtain ⟨first, earliest⟩ := (find?_fault_eq_some_iff flagged).mp search
      exact ⟨first, found, earliest⟩
  · rw [← find?_fault_eq_none_iff flagged]
    cases (Node.walk Node.isSuspect [root]).find? Node.isFault with
    | none => simp
    | some found => simp [Node.faultReport_ne]

/-- A tree with two faults, the first of them a node that was supplied and carries no flag. Before
them something is flagged that holds no fault. -/
def repaired : Node :=
  let flag (node : Node) : Node := { node with hasError := true }
  let semicolon : Node :=
    { Node.leaf ";" "" with named := false, isMissing := true, position := ⟨2, 7⟩ }
  flag (.branch "program" [
    flag (.branch "statement_block" [.leaf "identifier" "kept"]),
    flag (.branch "expression_statement" [.leaf "identifier" "value", semicolon]),
    { flag (.leaf "ERROR" ")") with position := ⟨3, 0⟩ }])

/-- Of the two faults the supplied one comes first, and the diagnostic tells of it. -/
theorem diagnostic_of_supplied_semicolon :
    Flagged repaired ∧ (∃ fault, FaultAt repaired [1, 1] fault) ∧
      (∃ fault, FaultAt repaired [2] fault) ∧
      repaired.describeFirstFault = "Missing ';' (line 3, column 8)" := by
  have flagged : Flagged repaired := by decide +kernel
  refine ⟨flagged, ⟨_, rfl, .inr rfl⟩, ⟨_, rfl, .inl rfl⟩, ?_⟩
  rw [(diagnostic_of_first_fault flagged).2.2.2, Node.descendants, Node.walk_eq_reached]
  decide +kernel

end ComponentAtlas.Syntax
