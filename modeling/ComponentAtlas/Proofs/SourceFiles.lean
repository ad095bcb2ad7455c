import Mathlib.Data.List.Nodup
import ComponentAtlas.Scan.Report
import ComponentAtlas.Proofs.NormalForm
import ComponentAtlas.Proofs.Overlay

/-!
# The source files below a directory

A walk goes through a tree whose entries stand in order of their names, and takes whole
directories out. What it finds is told by the tree alone: the places that are no directories, with
directories on the way there that can all be listed, such that no name on the way is excluded and
the last one is accepted. This is shown name by name along a place, since a walk through a
directory is a walk through the entry of the first name.

Sorting moves entries, and finds the same at each place. As names differ within a directory, rows
of names that part at some name are ordered by it, so what is found increases in the order of rows.
It need not increase in the order of paths written with slashes: `a/b` is found before `a-b`, as
`a` comes before `a-b`.
-/

namespace ComponentAtlas.Disk.Entry

/-! ## Trees in order -/

/-- In each directory of the tree, names differ. -/
inductive Distinct : Entry → Prop
  | file (bytes : List UInt8) : Distinct (.file bytes)
  | link (target : String) : Distinct (.link target)
  | directory {listable : Bool} {entries : List (String × Entry)} :
      (Keyed.keys entries).Nodup → (∀ pair ∈ entries, Distinct pair.2) →
      Distinct (.directory listable entries)

/-- In each directory of the tree, names increase. -/
inductive Ordered : Entry → Prop
  | file (bytes : List UInt8) : Ordered (.file bytes)
  | link (target : String) : Ordered (.link target)
  | directory {listable : Bool} {entries : List (String × Entry)} :
      entries.Pairwise (fun a b => a.1 < b.1) → (∀ pair ∈ entries, Ordered pair.2) →
      Ordered (.directory listable entries)

/-- Entries are sorted below their names one by one. -/
theorem sortedEach_eq_map (entries : List (String × Entry)) :
    sortedEach entries = entries.map fun pair => (pair.1, pair.2.sorted) := by
  induction entries with
  | nil => rfl
  | cons head rest ih => rw [sortedEach, ih, List.map_cons]

/-- The entries of a directory in order of their names, and so on below them. -/
def inOrder (entries : List (String × Entry)) : List (String × Entry) :=
  (sortedEach entries).mergeSort fun a b => decide (a.1 ≤ b.1)

/-- A directory is sorted by its entries. -/
theorem sorted_directory (listable : Bool) (entries : List (String × Entry)) :
    sorted (.directory listable entries) = .directory listable (inOrder entries) := by
  rw [sorted, inOrder]

/-- Sorting brings the entries into order and drops none. -/
theorem inOrder_perm (entries : List (String × Entry)) :
    (inOrder entries).Perm (entries.map fun pair => (pair.1, pair.2.sorted)) := by
  rw [inOrder, ← sortedEach_eq_map]
  exact List.mergeSort_perm _ _

/-- What is sorted below a name keeps the name. -/
theorem keys_map_sorted (entries : List (String × Entry)) :
    Keyed.keys (entries.map fun pair => (pair.1, pair.2.sorted)) = Keyed.keys entries :=
  List.map_map

/-- The names in order are the names. -/
theorem keys_inOrder_perm (entries : List (String × Entry)) :
    (Keyed.keys (inOrder entries)).Perm (Keyed.keys entries) :=
  keys_map_sorted entries ▸ (inOrder_perm entries).map Prod.fst

/-- Names that differ increase once they stand in order. -/
theorem pairwise_inOrder {entries : List (String × Entry)} (distinct : (Keyed.keys entries).Nodup) :
    (inOrder entries).Pairwise fun a b => a.1 < b.1 := by
  have rising : (inOrder entries).Pairwise fun a b => a.1 ≤ b.1 := by
    have law : (inOrder entries).Pairwise fun a b => decide (a.1 ≤ b.1) = true :=
      List.pairwise_mergeSort (fun a b c => by simpa using String.le_trans)
        (fun a b => by simpa using String.le_total _ _) _
    exact law.imp of_decide_eq_true
  have differ : (inOrder entries).Pairwise fun a b => a.1 ≠ b.1 :=
    List.pairwise_map.mp ((keys_inOrder_perm entries).nodup_iff.mpr distinct)
  exact (rising.and differ).imp fun both => Std.lt_of_le_of_ne both.1 both.2

/-- Sorting puts a tree in order. -/
theorem Distinct.ordered_sorted {entry : Entry} (distinct : Distinct entry) :
    Ordered entry.sorted := by
  induction distinct with
  | file bytes => exact .file bytes
  | link target => exact .link target
  | directory names _ ih =>
    rw [sorted_directory]
    refine .directory (pairwise_inOrder names) ?_
    intro pair member
    obtain ⟨old, present, rfl⟩ := List.mem_map.mp ((inOrder_perm _).mem_iff.mp member)
    exact ih old present

/-- Names that increase differ. -/
theorem Ordered.distinct {entry : Entry} (ordered : Ordered entry) : Distinct entry := by
  induction ordered with
  | file bytes => exact .file bytes
  | link target => exact .link target
  | directory rising _ ih =>
    exact .directory (List.pairwise_map.mpr (rising.imp Std.ne_of_lt)) ih

/-- Sorting leaves everything at its place. -/
theorem find?_sorted {entry : Entry} (distinct : Distinct entry) (names : List String) :
    entry.sorted.find? names = (entry.find? names).map sorted := by
  induction names generalizing entry with
  | nil => simp [find?]
  | cons name rest ih =>
    cases distinct with
    | file => rfl
    | link => rfl
    | @directory listable entries distinct below =>
      have moved : Keyed.get? (inOrder entries) name = (Keyed.get? entries name).map sorted := by
        rw [Keyed.get?_perm (inOrder_perm entries) (by rwa [keys_map_sorted]), Keyed.get?_map]
      rw [sorted_directory, find?, find?, moved]
      cases found : Keyed.get? entries name with
      | none => rfl
      | some inner => exact ih (below _ ((Keyed.mem_iff_get? distinct _ _).mpr found))

end ComponentAtlas.Disk.Entry

namespace ComponentAtlas.Scan

open Disk (Entry)

/-! ## Rows of names -/

variable {choice : Choice} {name : String} {names rest : List String} {listable : Bool}
  {entry : Entry} {entries : List (String × Entry)}

/-- The rows of names that a walk finds in a row of entries. -/
def rowsIn (choice : Choice) (entries : List (String × Entry)) : List (List String) :=
  (findsIn choice entries).filterMap Find.source?

/-- The rows of names that a walk finds at an entry which is not excluded. -/
def rowsAt (choice : Choice) (name : String) : Entry → List (List String)
  | .directory listable entries =>
    if listable then (rowsIn choice entries).map (name :: ·) else []
  | _ => if choice.accepts name then [[name]] else []

/-- Of all that a walk comes across at an entry, the sources are what it finds there. -/
theorem filterMap_findsAt (choice : Choice) (name : String) (entry : Entry) :
    (findsAt choice name entry).filterMap Find.source? = rowsAt choice name entry := by
  have further : ∀ find : Find, (find.below name).source? = find.source?.map (name :: ·) := by
    rintro ⟨⟩ <;> rfl
  cases entry with
  | file => simp only [findsAt, rowsAt]; split <;> rfl
  | link => simp only [findsAt, rowsAt]; split <;> rfl
  | directory listable entries =>
    simp only [findsAt, rowsAt]
    split
    · rw [List.filterMap_map, rowsIn, List.map_filterMap]
      exact List.filterMap_congr fun find _ => further find
    · rfl

/-- In a row of entries, what is found at each of them follows in order, unless its name is
excluded. -/
theorem rowsIn_eq_flatMap (choice : Choice) (entries : List (String × Entry)) :
    rowsIn choice entries = entries.flatMap fun pair =>
      if choice.excludes pair.1 then [] else rowsAt choice pair.1 pair.2 := by
  induction entries with
  | nil => simp [rowsIn, findsIn]
  | cons head rest ih =>
    rw [rowsIn, findsIn, List.filterMap_append, ← rowsIn, ih, List.flatMap_cons]
    congr 1
    split
    · rfl
    · exact filterMap_findsAt _ _ _

/-- At a directory that can be listed is found what is found among its entries, below its name. -/
theorem mem_rowsAt_directory : names ∈ rowsAt choice name (.directory listable entries) ↔
    listable = true ∧ ∃ rest ∈ rowsIn choice entries, name :: rest = names := by
  rw [rowsAt]
  split <;> simp [*]

/-- At what is no directory its own name is found, if it is accepted. -/
theorem mem_rowsAt_of_leaf (leaf : ∀ listable entries, entry ≠ .directory listable entries) :
    names ∈ rowsAt choice name entry ↔ names = [name] ∧ choice.accepts name = true := by
  rw [rowsAt]
  · split <;> simp [*]
  · exact leaf

/-- What is found at an entry starts with its name. -/
theorem starts_of_mem_rowsAt (found : names ∈ rowsAt choice name entry) :
    ∃ rest, names = name :: rest := by
  cases entry with
  | file => exact ⟨[], ((mem_rowsAt_of_leaf (by simp)).mp found).1⟩
  | link => exact ⟨[], ((mem_rowsAt_of_leaf (by simp)).mp found).1⟩
  | directory listable entries =>
    obtain ⟨_, rest, _, whole⟩ := mem_rowsAt_directory.mp found
    exact ⟨rest, whole.symm⟩

/-- Among entries is found what is found at one of those that are not excluded. -/
theorem mem_rowsIn_iff : names ∈ rowsIn choice entries ↔
    ∃ pair ∈ entries, choice.excludes pair.1 = false ∧ names ∈ rowsAt choice pair.1 pair.2 := by
  rw [rowsIn_eq_flatMap, List.mem_flatMap]
  refine exists_congr fun pair => and_congr_right fun _ => ?_
  split <;> simp [*]

/-- The empty row of names is not found among entries. -/
theorem nil_not_mem_rowsIn : [] ∉ rowsIn choice entries := by
  intro found
  obtain ⟨pair, _, _, here⟩ := mem_rowsIn_iff.mp found
  obtain ⟨rest, whole⟩ := starts_of_mem_rowsAt here
  cases whole

/-- A row of names is found if it is found at the entry of its first name. -/
theorem cons_mem_rowsIn (distinct : (Keyed.keys entries).Nodup) :
    name :: rest ∈ rowsIn choice entries ↔
      ∃ inner, Keyed.get? entries name = some inner ∧ choice.excludes name = false ∧
        name :: rest ∈ rowsAt choice name inner := by
  rw [mem_rowsIn_iff]
  constructor
  · rintro ⟨⟨other, inner⟩, member, included, found⟩
    obtain ⟨_, whole⟩ := starts_of_mem_rowsAt found
    obtain ⟨rfl, _⟩ := List.cons_eq_cons.mp whole
    exact ⟨inner, (Keyed.mem_iff_get? distinct _ _).mp member, included, found⟩
  · rintro ⟨inner, there, included, found⟩
    exact ⟨(name, inner), (Keyed.mem_iff_get? distinct _ _).mpr there, included, found⟩

/-! ## What is found -/

/-- Names lead to what is no directory, and each directory on the way there can be listed. -/
structure Leads (tree : Entry) (names : List String) : Prop where
  leaf : ∃ entry, tree.find? names = some entry ∧
    ∀ listable entries, entry ≠ .directory listable entries
  listed : ∀ front, front <+: names → front ≠ names →
    ∃ entries, tree.find? front = some (.directory true entries)

/-- At what is no directory, only the empty row of names leads to it. -/
theorem leads_iff_of_leaf (leaf : ∀ listable entries, entry ≠ .directory listable entries) :
    Leads entry names ↔ names = [] := by
  constructor
  · rintro ⟨_, listed⟩
    by_contra some
    obtain ⟨entries, found⟩ := listed [] List.nil_prefix (Ne.symm some)
    exact leaf _ _ (Option.some.inj found)
  · rintro rfl
    refine ⟨⟨entry, rfl, leaf⟩, ?_⟩
    intro front before other
    exact absurd (List.prefix_nil.mp before) other

/-- At a directory, the empty row of names leads to the directory itself. -/
theorem not_leads_directory_nil : ¬ Leads (.directory listable entries) [] := by
  rintro ⟨⟨entry, found, leaf⟩, _⟩
  exact leaf _ _ (Option.some.inj found).symm

/-- Below a directory that can be listed, names lead on from the entry of the first of them. -/
theorem leads_directory_cons : Leads (.directory listable entries) (name :: rest) ↔
    listable = true ∧ ∃ inner, Keyed.get? entries name = some inner ∧ Leads inner rest := by
  constructor
  · rintro ⟨⟨entry, found, leaf⟩, listed⟩
    obtain ⟨_, root⟩ := listed [] List.nil_prefix (by simp)
    obtain ⟨rfl, _⟩ : listable = true ∧ _ := by simpa [Entry.find?] using root
    cases there : Keyed.get? entries name with
    | none => simp [Entry.find?, there] at found
    | some inner =>
      refine ⟨rfl, inner, rfl, ⟨entry, by simpa [Entry.find?, there] using found, leaf⟩, ?_⟩
      intro front before other
      simpa [Entry.find?, there] using
        listed (name :: front) (List.cons_prefix_cons.mpr ⟨rfl, before⟩) (by simpa using other)
  · rintro ⟨rfl, inner, there, ⟨entry, found, leaf⟩, listed⟩
    refine ⟨⟨entry, by simpa [Entry.find?, there] using found, leaf⟩, ?_⟩
    intro front before other
    cases front with
    | nil => exact ⟨entries, rfl⟩
    | cons first later =>
      obtain ⟨rfl, below⟩ := List.cons_prefix_cons.mp before
      simpa [Entry.find?, there] using listed later below (by simpa using other)

/-- Sorting does not change where names lead. -/
theorem leads_sorted (distinct : entry.Distinct) :
    Leads entry.sorted names ↔ Leads entry names := by
  have ends : (∃ last, entry.sorted.find? names = some last ∧
      ∀ listable entries, last ≠ .directory listable entries) ↔
      ∃ last, entry.find? names = some last ∧
        ∀ listable entries, last ≠ .directory listable entries := by
    rw [Entry.find?_sorted distinct]
    rcases entry.find? names with _ | (_ | _ | _) <;> simp [Entry.sorted]
  have listings : ∀ front, (∃ entries, entry.sorted.find? front = some (.directory true entries)) ↔
      ∃ entries, entry.find? front = some (.directory true entries) := by
    intro front
    rw [Entry.find?_sorted distinct]
    rcases entry.find? front with _ | (_ | _ | _) <;> simp [Entry.sorted]
  constructor
  · rintro ⟨leaf, listed⟩
    exact ⟨ends.mp leaf, fun front before other => (listings front).mp (listed front before other)⟩
  · rintro ⟨leaf, listed⟩
    exact ⟨ends.mpr leaf, fun front before other =>
      (listings front).mpr (listed front before other)⟩

/-- What is found at an entry that is no directory is what leads to it and is accepted. -/
theorem cons_mem_rowsAt_of_leaf (leaf : ∀ listable entries, entry ≠ .directory listable entries) :
    name :: rest ∈ rowsAt choice name entry ↔
      Leads entry rest ∧ (∀ other ∈ rest, choice.excludes other = false) ∧
        ∃ last, (name :: rest).getLast? = some last ∧ choice.accepts last = true := by
  rw [mem_rowsAt_of_leaf leaf, leads_iff_of_leaf leaf, List.cons_eq_cons]
  constructor
  · rintro ⟨⟨_, rfl⟩, accepted⟩
    exact ⟨rfl, List.forall_mem_nil _, name, rfl, accepted⟩
  · rintro ⟨rfl, _, last, isLast, accepted⟩
    obtain rfl : name = last := Option.some.inj isLast
    exact ⟨⟨rfl, rfl⟩, accepted⟩

/-- What a walk finds at an entry is what names lead to from there, unless one of them is excluded
or the last of them is not accepted.

Induction on the tree. Below a directory a row of names is not empty, and it is found if it is
found at the entry of its first name. -/
theorem cons_mem_rowsAt (distinct : entry.Distinct) : name :: rest ∈ rowsAt choice name entry ↔
    Leads entry rest ∧ (∀ other ∈ rest, choice.excludes other = false) ∧
      ∃ last, (name :: rest).getLast? = some last ∧ choice.accepts last = true := by
  induction distinct generalizing name rest with
  | file => exact cons_mem_rowsAt_of_leaf (by simp)
  | link => exact cons_mem_rowsAt_of_leaf (by simp)
  | @directory listable entries differ _ ih =>
    have below : name :: rest ∈ rowsAt choice name (.directory listable entries) ↔
        listable = true ∧ rest ∈ rowsIn choice entries := by
      simp [mem_rowsAt_directory]
    rw [below]
    cases rest with
    | nil => simp [nil_not_mem_rowsIn, not_leads_directory_nil]
    | cons next later =>
      rw [cons_mem_rowsIn differ, leads_directory_cons, List.forall_mem_cons,
        List.getLast?_cons_cons]
      constructor
      · rintro ⟨listed, inner, there, included, found⟩
        have member := (Keyed.mem_iff_get? differ _ _).mpr there
        obtain ⟨leads, others, accepted⟩ := (ih _ member).mp found
        exact ⟨⟨listed, inner, there, leads⟩, ⟨included, others⟩, accepted⟩
      · rintro ⟨⟨listed, inner, there, leads⟩, ⟨included, others⟩, accepted⟩
        have member := (Keyed.mem_iff_get? differ _ _).mpr there
        exact ⟨listed, inner, there, included, (ih _ member).mpr ⟨leads, others, accepted⟩⟩

/-- What a walk finds in a directory is what names lead to from there, unless one of them is
excluded or the last of them is not accepted. -/
theorem mem_rowsIn (distinct : Entry.Distinct (.directory true entries)) :
    names ∈ rowsIn choice entries ↔ Leads (.directory true entries) names ∧
      (∀ name ∈ names, choice.excludes name = false) ∧
        ∃ last, names.getLast? = some last ∧ choice.accepts last = true := by
  cases names with
  | nil => simp [nil_not_mem_rowsIn, not_leads_directory_nil]
  | cons name rest =>
    have law : "" :: name :: rest ∈ rowsAt choice "" (.directory true entries) ↔ _ :=
      cons_mem_rowsAt distinct
    rw [List.getLast?_cons_cons] at law
    rw [← law, mem_rowsAt_directory]
    simp

/-- Rows of names that are found at entries with increasing names increase. -/
theorem pairwise_rowsIn (rising : entries.Pairwise fun a b => a.1 < b.1)
    (each : ∀ pair ∈ entries, (rowsAt choice pair.1 pair.2).Pairwise (· < ·)) :
    (rowsIn choice entries).Pairwise (· < ·) := by
  rw [rowsIn_eq_flatMap, List.pairwise_flatMap]
  constructor
  · intro pair member
    split
    · exact .nil
    · exact each pair member
  · refine rising.imp ?_
    intro first second before row found other later
    rw [List.mem_ite_nil_left] at found later
    obtain ⟨_, rfl⟩ := starts_of_mem_rowsAt found.2
    obtain ⟨_, rfl⟩ := starts_of_mem_rowsAt later.2
    exact List.cons_lt_cons_iff.mpr (.inl before)

/-- In a tree in order, the rows of names that are found increase.

Induction on the tree. Rows that start with different names are ordered by these, and rows that
start with the same name by what follows. -/
theorem pairwise_rowsAt (ordered : entry.Ordered) :
    (rowsAt choice name entry).Pairwise (· < ·) := by
  induction ordered generalizing name with
  | file => simp only [rowsAt]; split <;> simp
  | link => simp only [rowsAt]; split <;> simp
  | directory rising _ ih =>
    have below : (rowsIn choice _).Pairwise (· < ·) :=
      pairwise_rowsIn rising fun pair member => ih pair member
    rw [rowsAt]
    split
    · refine List.pairwise_map.mpr (below.imp ?_)
      intro row other before
      exact List.cons_lt_cons_iff.mpr (.inr ⟨rfl, before⟩)
    · exact .nil

/-! ## What is collected -/

/-- The whole of a path on a disk. -/
def wholePath (disk : Disk) (path : String) : String :=
  String.ofList (Path.absolute disk.cwd.toList path.toList)

/-- The source file that names lead to from a directory, seen from another one. -/
def sourceAt (root base : String) (names : List String) : SourceFile :=
  ⟨pathTo root names, Path.relativePosix "/" (pathTo root names) base⟩

/-- The source file of each row of names that is found in a directory is collected. -/
theorem collect_eq {disk : Disk} {directory : String} (base : Option String)
    (found : disk.find? (wholePath disk directory) = some (.directory true entries)) :
    (collect disk choice directory base).map Prod.fst = .ok
      ((rowsIn choice (Entry.inOrder entries)).map (sourceAt (wholePath disk directory)
        (((base.filter (!·.isEmpty)).map (wholePath disk)).getD (wholePath disk directory)))) := by
  have root : rootEntries disk (wholePath disk directory) = .ok entries := by
    rw [rootEntries, found]
  have each : ∀ base,
      (finds choice entries).filterMap (Find.file? (wholePath disk directory) base) =
        (rowsIn choice (Entry.inOrder entries)).map
          (sourceAt (wholePath disk directory) base) := by
    intro base
    rw [rowsIn, List.map_filterMap]
    rfl
  rw [wholePath] at root
  rw [← each, collect]
  simp only [root]
  rfl

/-- Names without slashes are told by the path that they lead to. -/
theorem pathTo_injective {root : String} {others : List String} (written : names ≠ [])
    (othersWritten : others ≠ []) (solid : ∀ name ∈ names, '/' ∉ name.toList)
    (othersSolid : ∀ name ∈ others, '/' ∉ name.toList)
    (same : pathTo root names = pathTo root others) : names = others := by
  have tails : ("/".intercalate names).toList = ("/".intercalate others).toList := by
    have chars := congrArg String.toList same
    rw [pathTo, pathTo] at chars
    split at chars <;> simpa using chars
  have joined : Path.join (names.map String.toList) = Path.join (others.map String.toList) := by
    rwa [String.toList_intercalate, String.toList_intercalate] at tails
  have segments := congrArg Path.split joined
  rw [Path.split_join (by simpa using written) (by simpa using solid),
    Path.split_join (by simpa using othersWritten) (by simpa using othersSolid)] at segments
  exact List.map_injective_iff.mpr (fun _ _ => String.toList_injective) segments

/-- Exactly the files that are sought are collected, each of them once, in order.

A directory that can be listed and holds different names is walked through. What is collected is
what names lead to that is no directory, where all directories on the way there can be listed, no
pattern matches in any of the names, and the extension of the last name is a given one. Links are
not followed on the way. The rows of names increase, so none occurs twice, and neither does a path,
as names hold no slashes. -/
theorem sources_collected_in_order {disk : Disk} {directory : String} (base : Option String)
    (patterns : List Pattern.Compiled) (extensions : List String)
    (found : disk.find? (wholePath disk directory) = some (.directory true entries))
    (distinct : Entry.Distinct (.directory true entries)) :
    ∃ rows : List (List String),
      (collect disk ⟨Pattern.excludes patterns, Path.hasExtension extensions⟩ directory base).map
          Prod.fst =
        .ok (rows.map (sourceAt (wholePath disk directory)
          (((base.filter (!·.isEmpty)).map (wholePath disk)).getD (wholePath disk directory)))) ∧
      (∀ names, names ∈ rows ↔ Leads (.directory true entries) names ∧
        (∀ name ∈ names, ∀ pattern ∈ patterns, pattern.matchesIn name = false) ∧
        ∃ last, names.getLast? = some last ∧
          String.ofList (Path.extension last.toList) ∈ extensions) ∧
      rows.Pairwise (· < ·) ∧ rows.Nodup ∧
      ((∀ names ∈ rows, ∀ name ∈ names, '/' ∉ name.toList) →
        (rows.map (pathTo (wholePath disk directory))).Nodup) := by
  have ordered : Entry.Ordered (.directory true (Entry.inOrder entries)) :=
    Entry.sorted_directory true entries ▸ distinct.ordered_sorted
  refine ⟨_, collect_eq base found, ?_⟩
  generalize listed : rowsIn _ (Entry.inOrder entries) = rows
  have rising : rows.Pairwise (· < ·) := by
    cases ordered with
    | directory names below =>
      exact listed ▸ pairwise_rowsIn names fun pair member => pairwise_rowsAt (below pair member)
  have once : rows.Nodup := rising.imp Std.ne_of_lt
  refine ⟨?_, rising, once, ?_⟩
  · intro names
    rw [← listed, mem_rowsIn ordered.distinct, ← Entry.sorted_directory, leads_sorted distinct]
    simp [Pattern.excludes, Path.hasExtension]
  · intro solid
    have written : ∀ names ∈ rows, names ≠ [] := by
      rintro names member rfl
      exact nil_not_mem_rowsIn (listed ▸ member)
    refine List.Nodup.map_on ?_ once
    intro names here others there same
    exact pathTo_injective (written names here) (written others there) (solid names here)
      (solid others there) same

/-- What a directory holds: a file, a link below a directory that comes before it, a directory that
cannot be listed, and one whose name is excluded. -/
def mixedEntries : List (String × Entry) :=
  [("a-b.js", .file []), ("a", .directory true [("b.js", .link "/etc")]),
    ("locked", .directory false [("c.js", .file [])]),
    ("dist", .directory true [("d.js", .file [])])]

/-- A disk with such a directory. -/
def mixedDisk : Disk := ⟨.directory true [("app", .directory true mixedEntries)], "/"⟩

/-- In such a directory the link and the file are collected, but neither what is below a directory
that cannot be listed nor what is below one whose name is excluded. -/
theorem sources_collected_in_order_mixed :
    let root := wholePath mixedDisk "app"
    let patterns := (Pattern.compile "^dist").toOption.toList
    mixedDisk.find? root = some (.directory true mixedEntries) ∧
      Entry.Distinct (.directory true mixedEntries) ∧
      ∃ rows : List (List String),
        (collect mixedDisk ⟨Pattern.excludes patterns, Path.hasExtension [".js"]⟩ "app" none).map
          Prod.fst = .ok (rows.map (sourceAt root root)) ∧
        rows.Pairwise (· < ·) ∧ ["a", "b.js"] ∈ rows ∧ ["a-b.js"] ∈ rows ∧
        ["locked", "c.js"] ∉ rows ∧ ["dist", "d.js"] ∉ rows := by
  intro root patterns
  have whole : root = "/app" := by decide +kernel
  have found : mixedDisk.find? root = some (.directory true mixedEntries) := by
    rw [whole]
    simp [Disk.find?, Disk.locate, Path.below, Path.split, Disk.walk, Keyed.get?, mixedDisk]
  have lone : ∀ listable name inner, inner.Distinct →
      Entry.Distinct (.directory listable [(name, inner)]) := by
    intro listable name inner below
    exact .directory (List.nodup_singleton _) (by simpa using below)
  have distinct : Entry.Distinct (.directory true mixedEntries) :=
    .directory (by decide) (by simp [mixedEntries, Entry.Distinct.file, Entry.Distinct.link, lone])
  obtain ⟨rows, collected, sought, rising, _⟩ :=
    sources_collected_in_order none patterns [".js"] found distinct
  refine ⟨found, distinct, rows, collected, rising, ?_, ?_, ?_, ?_⟩
  · refine (sought _).mpr ⟨?_, by decide +kernel, "b.js", rfl, by decide⟩
    simp [leads_directory_cons, leads_iff_of_leaf, mixedEntries, Keyed.get?_cons]
  · refine (sought _).mpr ⟨?_, by decide +kernel, "a-b.js", rfl, by decide⟩
    simp [leads_directory_cons, leads_iff_of_leaf, mixedEntries, Keyed.get?_cons]
  · intro listed
    have leads := ((sought _).mp listed).1
    simp [leads_directory_cons, mixedEntries, Keyed.get?_cons] at leads
  · intro listed
    have included : ∀ pattern ∈ patterns, pattern.matchesIn "dist" = false :=
      ((sought _).mp listed).2.1 "dist" List.mem_cons_self
    revert included
    decide +kernel

end ComponentAtlas.Scan
