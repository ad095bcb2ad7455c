import ComponentAtlas.Component.Expansion
import ComponentAtlas.Component.Name
import ComponentAtlas.Disk.Text
import ComponentAtlas.Proofs.Drawing
import ComponentAtlas.Proofs.Encoding
import Mathlib.Data.List.Basic

/-!
# Drawings that are read back

A drawing says everything of a forest. Each line tells how deep its node stands, since what is in
front of a label comes in blocks of four characters none of which starts with a capital letter, as
names do. The label tells the name, which ends at the first space, and the note, which alone ends
in a bracket; whatever is left between the two is the path, and may hold parentheses, brackets and
the words of the note itself. And nodes in document order with their depths make only one forest:
what is below a node ends where a node follows that stands no deeper.

So forests with the same lines are the same, and unless paths hold line feeds, forests with the
same stored text are.
-/

namespace ComponentAtlas.Component.Tree

/-! ## Outlines -/

/-- A node without its children, and how deep it stands. -/
structure Entry where
  depth : Nat
  name : String
  filePath : String
  note : Option String
  deriving Repr, DecidableEq

/-- What an outline says of a node. -/
def entry (tree : Tree) (depth : Nat) : Entry := ⟨depth, tree.name, tree.filePath, tree.note⟩

/-- The nodes of a forest in document order, the outermost at a depth. -/
def outline (depth : Nat) : List Tree → List Entry
  | [] => []
  | tree@⟨_, _, _, children⟩ :: rest =>
    tree.entry depth :: outline (depth + 1) children ++ outline depth rest

/-- The first tree is outlined before what is below it, and that before the trees after it. -/
theorem outline_cons (depth : Nat) (tree : Tree) (rest : List Tree) :
    outline depth (tree :: rest) =
      tree.entry depth :: outline (depth + 1) tree.children ++ outline depth rest := by
  cases tree
  rw [outline]

/-- The outline of a forest lists its places, which are as deep as they have ancestors. -/
theorem map_entry_placesAfter (depth : Nat) (before trees : List Tree) :
    ((placesAfter before trees).map fun place => place.tree.entry (depth + place.above.length)) =
      outline depth trees := by
  fun_induction placesAfter before trees generalizing depth with
  | case1 => rw [outline]; rfl
  | case2 before name filePath note children rest inside outside =>
    rw [outline, List.map_append, List.map_cons, List.map_map, outside, ← inside (depth + 1)]
    congr 3
    funext place
    simp [Place.below, Place.tree, Nat.add_assoc, Nat.add_comm 1]

/-- Nothing in an outline stands higher than where it starts. -/
theorem le_depth_of_mem_outline {depth : Nat} {trees : List Tree} {entry : Entry}
    (member : entry ∈ outline depth trees) : depth ≤ entry.depth := by
  rw [← map_entry_placesAfter depth [] trees, List.mem_map] at member
  obtain ⟨place, -, rfl⟩ := member
  exact Nat.le_add_right depth _

/-- What is below a node are the deeper entries up to the next one that is not. -/
theorem takeWhile_outline (depth : Nat) (children rest : List Tree) :
    (outline (depth + 1) children ++ outline depth rest).takeWhile (depth < ·.depth) =
      outline (depth + 1) children := by
  rw [List.takeWhile_append_of_pos]
  · cases rest with
    | nil => simp [outline]
    | cons tree rest => simp [outline_cons, entry]
  · intro entry member
    exact decide_eq_true (le_depth_of_mem_outline member)

/-- Forests with the same outline are the same.

Induction on the first forest. Both start with the same node, and what is below it is as long on
both sides. -/
theorem outline_injective {depth : Nat} {first second : List Tree}
    (same : outline depth first = outline depth second) : first = second := by
  fun_induction outline depth first generalizing second with
  | case1 depth =>
    cases second with
    | nil => rfl
    | cons tree rest => simp [outline_cons] at same
  | case2 depth name filePath note children rest inside outside =>
    cases second with
    | nil => simp [outline] at same
    | cons tree others =>
      obtain ⟨otherName, otherPath, otherNote, below⟩ := tree
      rw [outline_cons, List.cons_append, List.cons_append] at same
      obtain ⟨head, tail⟩ := List.cons_eq_cons.mp same
      have lower := congrArg (List.takeWhile (depth < ·.depth)) tail
      rw [takeWhile_outline, takeWhile_outline] at lower
      rw [lower] at tail
      obtain rfl := inside lower
      obtain rfl := outside (List.append_cancel_left tail)
      simp only [entry, Entry.mk.injEq] at head
      obtain ⟨-, rfl, rfl, rfl⟩ := head
      rfl

/-! ## Reading labels -/

/-- What is written after the path of a node with the cycle note. -/
def noteSuffix : List Char := ") [Cycle detected]".toList

/-- Reads a label: the name up to the first space, a parenthesis, the path, and what is written
after it, which ends in a bracket only if there is a note. -/
def readLabel (depth : Nat) (label : List Char) : Entry :=
  let name := String.ofList (label.takeWhile (· != ' '))
  let rest := (label.dropWhile (· != ' ')).drop 2
  if rest.getLast? = some ']' then
    let path := rest.take (rest.length - noteSuffix.length)
    ⟨depth, name, String.ofList path, some cycleNote⟩
  else ⟨depth, name, String.ofList rest.dropLast, none⟩

/-- A node of which the label tells everything. White space in a name would be taken for its end. -/
structure Legible (tree : Tree) : Prop where
  capital : isName tree.name = true
  solid : ∀ c ∈ tree.name.toList, c.isWhitespace = false
  noted : tree.note = none ∨ tree.note = some cycleNote

/-- Legibility is looked up in the name, the path and the note. -/
instance (tree : Tree) : Decidable tree.Legible :=
  decidable_of_iff (isName tree.name = true ∧ tree.name.toList.all (!·.isWhitespace) = true ∧
      (tree.note = none ∨ tree.note = some cycleNote))
    ⟨fun ⟨capital, solid, noted⟩ => ⟨capital, by simpa using solid, noted⟩,
      fun ⟨capital, solid, noted⟩ => ⟨capital, by simpa using solid, noted⟩⟩

/-- A label is written as the name, the path in parentheses, and the note in brackets. -/
theorem toList_label (tree : Tree) :
    (tree.label true).toList = tree.name.toList ++ ' ' :: '(' :: (tree.filePath.toList ++
      ')' :: (match tree.remark? with
        | some remark => ' ' :: '[' :: (remark.toList ++ [']'])
        | none => [])) := by
  rw [label]
  cases tree.remark? with
  | none => simp [toString]
  | some remark => simp [toString]

/-- Of a legible node the note is written as it is. -/
theorem Legible.remark?_eq {tree : Tree} (legible : tree.Legible) : tree.remark? = tree.note := by
  rcases legible.noted with bare | noted
  · rw [remark?, bare]
    rfl
  · rw [remark?, noted]
    decide

/-- The label of a node is read back. -/
theorem Legible.readLabel_label {tree : Tree} (legible : tree.Legible) (depth : Nat) :
    readLabel depth (tree.label true).toList = tree.entry depth := by
  have solid : ∀ c ∈ tree.name.toList, (c != ' ') = true := by
    intro c member
    rw [bne_iff_ne]
    rintro rfl
    exact absurd (legible.solid ' ' member) (by decide)
  rw [readLabel, toList_label, legible.remark?_eq, List.takeWhile_append_of_pos solid,
    List.dropWhile_append_of_pos solid]
  rcases legible.noted with bare | noted
  · simp [entry, bare]
  · have suffix : ')' :: ' ' :: '[' :: (cycleNote.toList ++ [']']) = noteSuffix := by decide
    have bracket : noteSuffix.getLast? = some ']' := by decide
    rw [noted]
    simp [suffix, bracket, entry, noted]

/-! ## Reading lines -/

/-- One of the letters `A` to `Z`. -/
def isCapital (c : Char) : Bool := 'A' ≤ c && c ≤ 'Z'

/-- Counts the blocks of four characters in front of a capital letter, and drops them. -/
def unindent (depth : Nat) : List Char → Nat × List Char
  | a :: b :: c :: d :: rest =>
    if isCapital a then (depth, a :: b :: c :: d :: rest) else unindent (depth + 1) rest
  | few => (depth, few)

/-- Reads a line: the depth off its indentation, and the rest off its label. -/
def readLine (line : String) : Entry :=
  let (depth, label) := unindent 0 line.toList
  readLabel depth label

/-- Four characters of which the first is no capital letter. -/
def IsBlock (block : List Char) : Prop :=
  ∃ a b c d, block = [a, b, c, d] ∧ isCapital a = false

/-- A corner is a block. -/
theorem Spot.isBlock_corner (spot : Spot) : IsBlock spot.corner.toList := by
  unfold Spot.corner
  split
  · exact ⟨'└', '─', '─', ' ', by decide, by decide⟩
  · exact ⟨'├', '─', '─', ' ', by decide, by decide⟩

/-- So is a bar. -/
theorem Spot.isBlock_bar (spot : Spot) : IsBlock spot.bar.toList := by
  unfold Spot.bar
  split
  · exact ⟨' ', ' ', ' ', ' ', by decide, by decide⟩
  · exact ⟨'│', ' ', ' ', ' ', by decide, by decide⟩

/-- A text that starts with a capital letter is not indented. -/
theorem unindent_of_capital (depth : Nat) {first : Char} (capital : isCapital first = true)
    (rest : List Char) : unindent depth (first :: rest) = (depth, first :: rest) := by
  unfold unindent
  split
  case h_1 shape => rw [if_pos ((List.cons_eq_cons.mp shape).1 ▸ capital), shape]
  case h_2 => rfl

/-- The blocks in front of a text that starts with a capital letter are counted. -/
theorem unindent_blocks {blocks : List (List Char)} (regular : ∀ block ∈ blocks, IsBlock block)
    (depth : Nat) {first : Char} (capital : isCapital first = true) (rest : List Char) :
    unindent depth (blocks.flatten ++ first :: rest) = (depth + blocks.length, first :: rest) := by
  induction blocks generalizing depth with
  | nil => exact unindent_of_capital depth capital rest
  | cons block blocks ih =>
    obtain ⟨⟨a, b, c, d, rfl, small⟩, others⟩ := List.forall_mem_cons.mp regular
    simp only [List.flatten_cons, List.cons_append, List.nil_append, unindent, small]
    rw [if_neg Bool.false_ne_true, ih others, List.length_cons]
    congr 1
    omega

/-- A label starts with the capital letter of the name. -/
theorem Legible.exists_label_eq {tree : Tree} (legible : tree.Legible) :
    ∃ first rest, (tree.label true).toList = first :: rest ∧ isCapital first = true := by
  have capital := legible.capital
  rw [isName] at capital
  split at capital
  case h_1 first rest spelled =>
    rw [toList_label, spelled]
    exact ⟨first, _, rfl, capital⟩
  case h_2 => cases capital

/-- The line of a root is read back. -/
theorem Legible.readLine_label {tree : Tree} (legible : tree.Legible) :
    readLine (tree.label true) = tree.entry 0 := by
  obtain ⟨first, rest, spelled, capital⟩ := legible.exists_label_eq
  rw [readLine, spelled, unindent_of_capital 0 capital]
  dsimp only
  rw [← spelled, legible.readLabel_label]

/-- The line of a place is read back. -/
theorem Legible.readLine_line {place : Place} (legible : place.tree.Legible) :
    readLine (place.line true "") = place.tree.entry (place.above.length + 1) := by
  obtain ⟨first, rest, spelled, capital⟩ := legible.exists_label_eq
  have blocks : (place.line true "").toList =
      (place.above.map (·.bar.toList) ++ [place.spot.corner.toList]).flatten ++ first :: rest := by
    simp [Place.line, ← spelled, String.toList_join, List.flatMap_def, Function.comp_def]
  have regular : ∀ block ∈ place.above.map (·.bar.toList) ++ [place.spot.corner.toList],
      IsBlock block := by
    intro block member
    rcases List.mem_append.mp member with above | here
    · obtain ⟨spot, -, rfl⟩ := List.mem_map.mp above
      exact spot.isBlock_bar
    · rw [List.mem_singleton.mp here]
      exact place.spot.isBlock_corner
  rw [readLine, blocks, unindent_blocks regular 0 capital]
  dsimp only
  rw [← spelled, legible.readLabel_label]
  simp

/-! ## Reading drawings -/

/-- The outline of a forest is that of each tree in turn. -/
theorem outline_eq_flatMap (depth : Nat) (trees : List Tree) :
    outline depth trees = trees.flatMap fun tree =>
      tree.entry depth :: outline (depth + 1) tree.children := by
  induction trees with
  | nil => rw [outline]; rfl
  | cons tree rest ih => rw [outline_cons, ih, List.flatMap_cons]

/-- The trees of a forest stand in it, and so does what stands below them. -/
theorem exists_spot_of_mem {trees : List Tree} {tree : Tree} (member : tree ∈ trees) :
    ∃ spot : Spot, spot.tree = tree ∧ (⟨[], spot⟩ : Place) ∈ places trees ∧
      ∀ place ∈ places tree.children, place.below spot ∈ places trees := by
  obtain ⟨before, after, rfl⟩ := List.append_of_mem member
  refine ⟨⟨before, tree, after⟩, rfl, mem_places.mpr (.top ⟨before, tree, after⟩), ?_⟩
  intro place inside
  exact mem_places.mpr (.lower ⟨before, tree, after⟩ (mem_places.mp inside))

/-- A drawing is read back line by line. -/
theorem map_readLine_draw {roots : List Tree}
    (legible : ∀ place ∈ places roots, place.tree.Legible) :
    (draw true roots).map readLine = outline 0 roots := by
  rw [draw_eq, List.map_flatMap, outline_eq_flatMap]
  apply List.flatMap_congr
  intro root member
  obtain ⟨spot, rfl, here, inside⟩ := exists_spot_of_mem member
  have readable : spot.tree.Legible := legible _ here
  rw [linesOf, List.map_cons, readable.readLine_label, List.map_map,
    ← map_entry_placesAfter 1 [] spot.tree.children]
  congr 1
  apply List.map_congr_left
  intro place listed
  have readable : place.tree.Legible := legible (place.below spot) (inside place listed)
  rw [Function.comp_apply, readable.readLine_line, Nat.add_comm]

/-- What is written for a legible node is one line, if its path is. -/
theorem Legible.no_newline_label {tree : Tree} (legible : tree.Legible)
    (plain : '\n' ∉ tree.filePath.toList) : '\n' ∉ (tree.label true).toList := by
  have named : '\n' ∉ tree.name.toList := by
    intro member
    exact absurd (legible.solid '\n' member) (by decide)
  rw [toList_label, legible.remark?_eq]
  rcases legible.noted with bare | noted
  · simp [bare, named, plain]
  · have short : '\n' ∉ cycleNote.toList := by decide
    simp [noted, named, plain, short]

/-- A label says something, since the path stands in it between brackets. -/
theorem label_ne_empty (tree : Tree) : tree.label true ≠ "" := by
  intro empty
  have chars := toList_label tree
  simp [empty] at chars

/-- Each line of a drawing says something, and is one line if paths are. -/
theorem plain_of_mem_draw {roots : List Tree}
    (legible : ∀ place ∈ places roots, place.tree.Legible)
    (plain : ∀ place ∈ places roots, '\n' ∉ place.tree.filePath.toList) :
    ∀ line ∈ draw true roots, line ≠ "" ∧ '\n' ∉ line.toList := by
  intro line member
  rw [draw_eq] at member
  obtain ⟨root, listed, member⟩ := List.mem_flatMap.mp member
  obtain ⟨spot, rfl, here, inside⟩ := exists_spot_of_mem listed
  rcases List.mem_cons.mp member with rfl | lower
  · exact ⟨label_ne_empty _, (legible _ here).no_newline_label (plain _ here)⟩
  · obtain ⟨place, found, rfl⟩ := List.mem_map.mp lower
    have solid : '\n' ∉ (place.tree.label true).toList :=
      (legible _ (inside place found)).no_newline_label (plain _ (inside place found))
    have front : '\n' ∉ place.spot.corner.toList := by
      unfold Spot.corner
      split <;> decide
    have bars : ∀ spot : Spot, '\n' ∉ spot.bar.toList := by
      intro spot
      unfold Spot.bar
      split <;> decide
    constructor
    · simp [Place.line, label_ne_empty]
    · simp [Place.line, String.toList_join, front, bars, solid]

end ComponentAtlas.Component.Tree

namespace ComponentAtlas.Disk

/-- Lines that say something leave something when they are joined. -/
theorem eq_nil_of_intercalate_eq_nil {lines : List String} (solid : ∀ line ∈ lines, line ≠ "")
    (empty : ['\n'].intercalate (lines.map String.toList) = []) : lines = [] := by
  cases lines with
  | nil => rfl
  | cons line rest =>
    have first : line ≠ "" := solid line List.mem_cons_self
    cases rest with
    | nil => simp [first] at empty
    | cons next rest => simp [List.intercalate_cons_cons] at empty

/-- Lines that say something and hold no line feed are told from their text.

The text is taken apart at the line feeds. Only no line at all would be taken for an empty one. -/
theorem joinLines_injective {lines others : List String}
    (plain : ∀ line ∈ lines ++ others, line ≠ "" ∧ '\n' ∉ line.toList)
    (same : joinLines lines = joinLines others) : lines = others := by
  obtain ⟨first, second⟩ := List.forall_mem_append.mp plain
  have chars : ['\n'].intercalate (lines.map String.toList) =
      ['\n'].intercalate (others.map String.toList) := by
    have whole := congrArg String.toList same
    simpa [joinLines, String.toList_intercalate] using whole
  by_cases none : lines = []
  · rw [none, List.map_nil, List.intercalate_nil] at chars
    rw [none, eq_nil_of_intercalate_eq_nil (fun line member => (second line member).1) chars.symm]
  · have some : others ≠ [] := by
      rintro rfl
      rw [List.map_nil, List.intercalate_nil] at chars
      exact none (eq_nil_of_intercalate_eq_nil (fun line member => (first line member).1) chars)
    have parts := congrArg (List.splitOn '\n') chars
    rw [List.splitOn_intercalate '\n' (by simpa using fun line member => (first line member).2)
        (by simpa using none),
      List.splitOn_intercalate '\n' (by simpa using fun line member => (second line member).2)
        (by simpa using some)] at parts
    exact (List.map_injective_iff.mpr fun _ _ => String.toList_inj.mp) parts

/-- An action inside a longer one runs on the disk as it is, and what comes after it runs on what it
leaves, with its result. -/
theorem run_lift_bind {ε α β : Type} (action : Action α)
    (next : Except Fault α → ExceptT ε (StateM Disk) β) (disk : Disk) :
    ((liftM action.run : ExceptT ε (StateM Disk) (Except Fault α)) >>= next).run disk =
      (next (action.run disk).1).run (action.run disk).2 := rfl

/-- When lines have been stored, their text was written last. -/
theorem exists_writeText_of_storeLines {path : String} {lines : List String} {disk stored : Disk}
    (succeeded : (storeLines path lines).run disk = (.ok (), stored)) :
    ∃ prepared, (writeText path (joinLines lines)).run prepared = (.ok (), stored) := by
  rw [storeLines, run_get, run_lift_bind] at succeeded
  cases made : (makeDirectories (disk.outerDirectory path)).run disk with
  | mk result prepared =>
    rw [made] at succeeded
    cases result with
    | error fault => cases succeeded
    | ok _ =>
      dsimp only at succeeded
      rw [run_lift_bind] at succeeded
      cases written : (writeText path (joinLines lines)).run prepared with
      | mk result after =>
        rw [written] at succeeded
        cases result with
        | error fault => cases succeeded
        | ok _ =>
          cases succeeded
          exact ⟨prepared, written⟩

end ComponentAtlas.Disk

namespace ComponentAtlas.Component.Tree

/-- A forest of legible nodes is determined by the lines of its drawing with paths. If no path holds
a line feed, it is determined by the stored text of the drawing already, and by the bytes of that
text, which are what is written last when storing the lines succeeds.

Each line is read back as an entry of the outline, and the outline determines the forest. -/
theorem drawing_determines_forest {first second : List Tree}
    (legible : ∀ place ∈ places first ++ places second, place.tree.Legible) :
    (draw true first = draw true second → first = second) ∧
    ((∀ place ∈ places first ++ places second, '\n' ∉ place.tree.filePath.toList) →
      (Disk.joinLines (draw true first) = Disk.joinLines (draw true second) → first = second) ∧
      (Text.Utf8.encode (Disk.joinLines (draw true first)) =
        Text.Utf8.encode (Disk.joinLines (draw true second)) → first = second)) ∧
    ∀ path disk stored, (Disk.storeLines path (draw true first)).run disk = (.ok (), stored) →
      ∃ prepared, (Disk.writeFile path (Text.Utf8.encode (Disk.joinLines (draw true first)))).run
        prepared = (.ok (), stored) := by
  obtain ⟨left, right⟩ := List.forall_mem_append.mp legible
  have lines : draw true first = draw true second → first = second := by
    intro same
    have outlines := congrArg (List.map readLine) same
    rw [map_readLine_draw left, map_readLine_draw right] at outlines
    exact outline_injective outlines
  refine ⟨lines, fun plain => ?_, fun path disk stored => Disk.exists_writeText_of_storeLines⟩
  obtain ⟨here, there⟩ := List.forall_mem_append.mp plain
  have text : Disk.joinLines (draw true first) = Disk.joinLines (draw true second) →
      first = second := by
    intro same
    apply lines (Disk.joinLines_injective (List.forall_mem_append.mpr ⟨?_, ?_⟩) same)
    · exact plain_of_mem_draw left here
    · exact plain_of_mem_draw right there
  refine ⟨text, fun same => text ?_⟩
  have decoded := congrArg Text.Utf8.decode same
  rw [Text.Utf8.decode_encode, Text.Utf8.decode_encode] at decoded
  exact Except.ok.inj decoded

/-- A path that ends like a cycle note, and a node that has one. -/
theorem drawing_determines_forest_lookalike :
    let first : List Tree := [⟨"Menu", "menu.js) [Cycle detected]", none, [⟨"Item", "", none, []⟩]⟩]
    let second : List Tree := [⟨"Menu", "menu.js", some cycleNote, [⟨"Item", "", none, []⟩]⟩]
    (∀ place ∈ places first ++ places second,
      place.tree.Legible ∧ '\n' ∉ place.tree.filePath.toList) ∧
    Disk.joinLines (draw true first) ≠ Disk.joinLines (draw true second) := by
  intro first second
  have fine : ∀ place ∈ places first ++ places second,
      place.tree.Legible ∧ '\n' ∉ place.tree.filePath.toList := by
    simp only [first, second, places, placesAfter]
    decide +kernel
  have other : first ≠ second := by simp [first, second]
  refine ⟨fine, fun same => other ?_⟩
  have texts := (drawing_determines_forest fun place member => (fine place member).1).2.1
  exact (texts fun place member => (fine place member).2).1 same

end ComponentAtlas.Component.Tree
