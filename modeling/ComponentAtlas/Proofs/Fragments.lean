import ComponentAtlas.Component.Selection
import ComponentAtlas.Proofs.Segments

/-!
# Fragments of paths

Whether a file lies under a fragment of a path is found out by looking for the text of the one in
the text of the other, each with one slash in front. Since the fragment starts with a slash, this
is a law about pieces between slashes: all pieces of the fragment but the last one stand in the
path one after another, and the last one starts the piece that follows them.
-/

namespace ComponentAtlas.Component

open ComponentAtlas.Path

/-- The pieces of a path: what slashes separate, where backslashes are slashes, and those in front
do not count. -/
def pieces (path : String) : List (List Char) :=
  ((path.toList.map fun c => if c = '\\' then '/' else c).dropWhile (· = '/')).splitOn '/'

/-- The pieces of a path stand between its slashes, after those at its front. -/
theorem pieces_eq_split (path : String) :
    pieces path = split ((toPosix path).toList.dropWhile (· == '/')) := by
  simp [split_eq_splitOn, pieces, toPosix, beq_eq_decide]

/-- No slash is in a piece. -/
theorem no_slash_of_mem_pieces {path : String} {piece : List Char}
    (member : piece ∈ pieces path) : '/' ∉ piece := by
  rw [pieces_eq_split] at member
  exact no_slash_of_mem_split member

/-- A rooted path is the row of its pieces. -/
theorem rooted_eq_slashed (path : String) : rooted path = slashed (pieces path) := by
  rw [rooted, pieces_eq_split, slashed_split]

/-- A text is looked for wherever it could stand. -/
theorem occursIn_iff {fragment text : List Char} :
    occursIn fragment text = true ↔ fragment <:+: text := by
  induction text with
  | nil => simp [occursIn]
  | cons c rest ih =>
    rw [occursIn, Bool.or_eq_true, ih, List.infix_cons_iff, List.isPrefixOf_iff_prefix]

/-- A file lies under a fragment of a path exactly if its path, read from some piece on, starts
with all pieces of the fragment but the last one, and then comes a piece that the last one
starts. -/
theorem liesUnder_iff {record : Record} {includePath : String} {dirs : List (List Char)}
    {last : List Char} (parts : pieces includePath = dirs ++ [last]) :
    record.liesUnder includePath = true ↔
      record.filePath ≠ "" ∧ ∃ j, dirs <+: (pieces record.filePath).drop j ∧
        ∃ piece, (pieces record.filePath)[j + dirs.length]? = some piece ∧ last <+: piece := by
  have solid : ∀ piece ∈ dirs ++ [last], '/' ∉ piece :=
    fun piece member => no_slash_of_mem_pieces (parts ▸ member)
  have plain : ∀ piece ∈ pieces record.filePath, '/' ∉ piece :=
    fun piece member => no_slash_of_mem_pieces member
  rw [Record.liesUnder, Bool.and_eq_true, occursIn_iff, rooted_eq_slashed, rooted_eq_slashed, parts,
    slashed_infix_iff (by simp) plain]
  have named : (!record.filePath.isEmpty) = true ↔ record.filePath ≠ "" := by simp
  rw [named]
  refine and_congr_right fun _ => exists_congr fun j => ?_
  rw [slashed_prefix_iff solid fun piece member => plain piece (List.mem_of_mem_drop member),
    List.getElem?_drop]

/-- The last piece of a fragment that ends in a slash is empty. -/
theorem exists_pieces_of_slash {path : String}
    (ends : path.toList.getLast? = some '/' ∨ path.toList.getLast? = some '\\') :
    ∃ dirs, pieces path = dirs ++ [[]] := by
  generalize text : path.toList.map (fun c => if c = '\\' then '/' else c) = posix
  have last : posix.getLast? = some '/' := by
    rw [← text, List.getLast?_map]
    rcases ends with slash | slash <;> simp [slash]
  rw [pieces, text]
  cases trimmed : posix.dropWhile (· = '/') with
  | nil => exact ⟨[], by simp⟩
  | cons c rest =>
    have whole : posix.takeWhile (· = '/') ++ c :: rest = posix := by
      rw [← trimmed, List.takeWhile_append_dropWhile]
    rw [← whole, List.getLast?_append_cons, List.getLast?_eq_some_iff] at last
    obtain ⟨front, split⟩ := last
    exact ⟨front.splitOn '/', by rw [split, List.splitOn_append_cons_self, List.splitOn_nil]⟩

/-- A row starts the rest of another one after some entries exactly if it agrees with it from
there on, entry by entry. -/
theorem prefix_drop_iff {row whole : List (List Char)} {j : Nat} :
    row <+: whole.drop j ↔ ∀ i < row.length, whole[j + i]? = row[i]? := by
  rw [List.prefix_iff_getElem?]
  simp only [List.getElem?_drop]
  exact forall_congr' fun i => forall_congr' fun inside => by
    rw [List.getElem?_eq_getElem inside]

/-- A row is followed by something in another one exactly if it stands there before a rest that is
not empty. -/
theorem exists_prefix_drop_iff {row whole : List (List Char)} :
    (∃ j, row <+: whole.drop j ∧ ∃ next, whole[j + row.length]? = some next) ↔
      ∃ above below, below ≠ [] ∧ whole = above ++ row ++ below := by
  constructor
  · rintro ⟨j, ⟨below, split⟩, next, follows⟩
    refine ⟨whole.take j, below, ?_, ?_⟩
    · rintro rfl
      rw [← List.getElem?_drop, ← split] at follows
      simp at follows
    · rw [List.append_assoc, split, List.take_append_drop]
  · rintro ⟨above, below, onward, rfl⟩
    obtain ⟨next, rest, rfl⟩ := List.exists_cons_of_ne_nil onward
    exact ⟨above.length, by simp, next, by simp⟩

/-- A file lies under a fragment of a path exactly if the pieces of the fragment, from some
position on, are pieces of its path, where of the last one only the start has to agree; a record
without a file lies nowhere. A fragment that ends in a slash asks for a run of directories: its
pieces but the last one, which is empty. -/
theorem fragment_matches_pieces (record : Record) (includePath : String) :
    (record.liesUnder includePath = true ↔ record.filePath ≠ "" ∧ ∃ j,
      j + (pieces includePath).length ≤ (pieces record.filePath).length ∧
      (∀ i, i + 1 < (pieces includePath).length →
        (pieces record.filePath)[j + i]? = (pieces includePath)[i]?) ∧
      ∃ last piece, (pieces includePath).getLast? = some last ∧
        (pieces record.filePath)[j + (pieces includePath).length - 1]? = some piece ∧
        last <+: piece) ∧
    ((includePath.toList.getLast? = some '/' ∨ includePath.toList.getLast? = some '\\') →
      ∃ dirs, pieces includePath = dirs ++ [[]] ∧
        (record.liesUnder includePath = true ↔ record.filePath ≠ "" ∧ ∃ above below,
          below ≠ [] ∧ pieces record.filePath = above ++ dirs ++ below)) := by
  constructor
  · obtain ⟨dirs, last, parts⟩ : ∃ dirs last, pieces includePath = dirs ++ [last] :=
      ⟨_, _, (List.dropLast_append_getLast (List.splitOn_ne_nil _ _)).symm⟩
    rw [liesUnder_iff parts, parts]
    refine and_congr_right fun _ => exists_congr fun j => ?_
    have before : dirs <+: (pieces record.filePath).drop j ↔
        ∀ i, i + 1 < (dirs ++ [last]).length →
          (pieces record.filePath)[j + i]? = (dirs ++ [last])[i]? := by
      rw [prefix_drop_iff]
      refine forall_congr' fun i => ?_
      rw [List.length_append, List.length_singleton, Nat.add_lt_add_iff_right]
      exact forall_congr' fun inside => by rw [List.getElem?_append_left inside]
    rw [before]
    constructor
    · rintro ⟨agree, piece, follows, starts⟩
      obtain ⟨inside, _⟩ := List.getElem?_eq_some_iff.mp follows
      refine ⟨?_, agree, last, piece, by simp, by simpa using follows, starts⟩
      rw [List.length_append, List.length_singleton]
      omega
    · rintro ⟨_, agree, _, piece, ends, follows, starts⟩
      obtain rfl : last = _ := by simpa using ends
      exact ⟨agree, piece, by simpa using follows, starts⟩
  · intro slash
    obtain ⟨dirs, parts⟩ := exists_pieces_of_slash slash
    refine ⟨dirs, parts, ?_⟩
    rw [liesUnder_iff parts, ← exists_prefix_drop_iff]
    simp

example : (Record.solitary "Old" "src/legacy-components/ui/Old.tsx").liesUnder "components/ui/" =
    false := by decide +kernel

end ComponentAtlas.Component
