import ComponentAtlas.Path.Segment
import Mathlib.Data.List.Infix

/-!
# Segments and slashes

A path with a slash in front is the row of its segments with a slash before each. Slashes stand
only there, so what starts with a slash can occur in the row only from the start of a segment on,
and it agrees with the row segment by segment, as far as its own slashes go.
-/

namespace ComponentAtlas.Path

/-- Segments with a slash before each. -/
def slashed (segments : List (List Char)) : List Char := segments.flatMap ('/' :: ·)

/-- No segments are no path. -/
@[simp] theorem slashed_nil : slashed [] = [] := rfl

/-- A slash stands before the first segment. -/
@[simp] theorem slashed_cons (segment : List Char) (rest : List (List Char)) :
    slashed (segment :: rest) = '/' :: (segment ++ slashed rest) := by
  simp [slashed]

/-- Segments in two rows are two paths, one after the other. -/
@[simp] theorem slashed_append (front back : List (List Char)) :
    slashed (front ++ back) = slashed front ++ slashed back := by
  simp [slashed]

/-- The segments of a path are what its slashes separate. -/
theorem split_eq_splitOn (path : List Char) : split path = path.splitOn '/' := by
  fun_induction split path with
  | case1 => rw [List.splitOn_nil]
  | case2 c rest slash ih => rw [List.splitOn_cons_eq_if_modifyHead, if_pos slash, ih]
  | case3 c rest other none ih => exact absurd (ih.symm.trans none) (List.splitOn_ne_nil _ _)
  | case4 c rest other first later parts ih =>
    rw [List.splitOn_cons_eq_if_modifyHead, if_neg other, ← ih, parts, List.modifyHead_cons]

/-- A path has at least one segment. -/
theorem split_ne_nil (path : List Char) : split path ≠ [] := by
  rw [split_eq_splitOn]
  exact List.splitOn_ne_nil _ _

/-- There is no slash in a segment. -/
theorem no_slash_of_mem_split {path segment : List Char} (member : segment ∈ split path) :
    '/' ∉ segment := by
  fun_induction split path generalizing segment with
  | case1 => simp_all
  | case2 c rest slash ih =>
    rcases List.mem_cons.mp member with rfl | later
    · exact List.not_mem_nil
    · exact ih later
  | case3 c rest other none => exact absurd none (split_ne_nil rest)
  | case4 c rest other first later parts ih =>
    rw [parts] at ih
    rcases List.mem_cons.mp member with rfl | behind
    · have head : '/' ∉ first := ih List.mem_cons_self
      have distinct : '/' ≠ c := fun same => other (by simp [← same])
      simp [head, distinct]
    · exact ih (List.mem_cons_of_mem _ behind)

/-- The segments of a path make up the path with a slash in front. -/
theorem slashed_split (path : List Char) : slashed (split path) = '/' :: path := by
  fun_induction split path with
  | case1 => rfl
  | case2 c rest slash ih =>
    rw [slashed_cons, ih, List.nil_append, eq_of_beq slash]
  | case3 c rest other none => exact absurd none (split_ne_nil rest)
  | case4 c rest other first later parts ih =>
    rw [parts, slashed_cons] at ih
    rw [slashed_cons, List.cons_append, (List.cons_eq_cons.mp ih).2]

/-- A row of segments is empty or starts with a slash. -/
theorem slashed_cases (segments : List (List Char)) :
    slashed segments = [] ∨ ∃ rest, slashed segments = '/' :: rest := by
  cases segments with
  | nil => exact .inl rfl
  | cons segment rest => exact .inr ⟨_, slashed_cons segment rest⟩

/-- What has no slash ends where the segment ends, at the latest. -/
theorem prefix_append_slashed_iff {last segment : List Char} (solid : '/' ∉ last)
    (rest : List (List Char)) : last <+: segment ++ slashed rest ↔ last <+: segment := by
  constructor
  · rintro ⟨behind, whole⟩
    rcases List.append_eq_append_iff.mp whole with ⟨more, rfl, _⟩ | ⟨more, rfl, split⟩
    · exact List.prefix_append _ _
    · rcases slashed_cases rest with none | ⟨onward, slash⟩
      · have empty : more = [] := (List.append_eq_nil_iff.mp (split.symm.trans none)).1
        simp [empty]
      · cases more with
        | nil => simp
        | cons c more =>
          obtain ⟨rfl, _⟩ := List.cons_eq_cons.mp (slash.symm.trans split)
          simp at solid
  · intro start
    exact start.trans (List.prefix_append _ _)

/-- What has its first slash after a segment agrees with that segment, and goes on as the row
does. -/
theorem append_slash_prefix_iff {first segment : List Char} (solid : '/' ∉ first)
    (plain : '/' ∉ segment) (more : List Char) (rest : List (List Char)) :
    first ++ '/' :: more <+: segment ++ slashed rest ↔
      first = segment ∧ '/' :: more <+: slashed rest := by
  constructor
  · rintro ⟨behind, whole⟩
    rw [List.append_assoc, List.cons_append] at whole
    rcases List.append_eq_append_iff.mp whole with ⟨between, rfl, onward⟩ | ⟨between, rfl, onward⟩
    · cases between with
      | nil => exact ⟨by simp, behind, onward⟩
      | cons c between =>
        obtain ⟨rfl, _⟩ := List.cons_eq_cons.mp onward
        simp at plain
    · cases between with
      | nil => exact ⟨by simp, behind, onward.symm⟩
      | cons c between =>
        rcases slashed_cases rest with none | ⟨later, slash⟩
        · simp [none] at onward
        · obtain ⟨rfl, _⟩ := List.cons_eq_cons.mp (slash.symm.trans onward)
          simp at solid
  · rintro ⟨rfl, onward⟩
    exact (List.prefix_append_right_inj _).mpr onward

/-- A row of segments starts another row exactly if all its segments but the last one stand at
the start of the other row, and the last one starts the next segment there. -/
theorem slashed_prefix_iff {dirs segments : List (List Char)} {last : List Char}
    (solid : ∀ segment ∈ dirs ++ [last], '/' ∉ segment)
    (plain : ∀ segment ∈ segments, '/' ∉ segment) :
    slashed (dirs ++ [last]) <+: slashed segments ↔
      dirs <+: segments ∧ ∃ segment, segments[dirs.length]? = some segment ∧ last <+: segment := by
  induction dirs generalizing segments with
  | nil =>
    cases segments with
    | nil => simp
    | cons segment rest =>
      have bare : '/' ∉ last := solid last (by simp)
      simp [List.cons_prefix_cons, prefix_append_slashed_iff bare]
  | cons dir dirs ih =>
    cases segments with
    | nil => simp
    | cons segment rest =>
      obtain ⟨bare, others⟩ := List.forall_mem_cons.mp solid
      obtain ⟨free, later⟩ := List.forall_mem_cons.mp plain
      have next : ∃ more, slashed (dirs ++ [last]) = '/' :: more := by
        cases dirs <;> simp
      obtain ⟨more, onward⟩ := next
      rw [List.cons_append, slashed_cons, slashed_cons, List.cons_prefix_cons, onward,
        append_slash_prefix_iff bare free, ← onward, ih others later]
      simp [List.cons_prefix_cons, and_assoc]

/-- What starts with a slash and ends a row of segments is the rest of the row from some segment
on. -/
theorem exists_drop_of_slash_suffix {segments : List (List Char)} {tail : List Char}
    (plain : ∀ segment ∈ segments, '/' ∉ segment) (ends : '/' :: tail <:+ slashed segments) :
    ∃ j, '/' :: tail = slashed (segments.drop j) := by
  induction segments with
  | nil => simp at ends
  | cons segment rest ih =>
    obtain ⟨free, later⟩ := List.forall_mem_cons.mp plain
    rw [slashed_cons, List.suffix_cons_iff] at ends
    rcases ends with whole | ⟨front, split⟩
    · exact ⟨0, by rw [List.drop_zero, slashed_cons, whole]⟩
    · have inside : '/' :: tail <:+ slashed rest := by
        rcases List.append_eq_append_iff.mp split with ⟨part, rfl, onward⟩ | ⟨part, _, onward⟩
        · cases part with
          | nil => exact ⟨[], onward⟩
          | cons c part =>
            obtain ⟨rfl, _⟩ := List.cons_eq_cons.mp onward
            simp at free
        · exact ⟨part, onward.symm⟩
      obtain ⟨j, same⟩ := ih later inside
      exact ⟨j + 1, same⟩

/-- A row of segments occurs in another row exactly if it starts the rest of that row from some
segment on. -/
theorem slashed_infix_iff {fragment segments : List (List Char)} (parts : fragment ≠ [])
    (plain : ∀ segment ∈ segments, '/' ∉ segment) :
    slashed fragment <:+: slashed segments ↔
      ∃ j, slashed fragment <+: slashed (segments.drop j) := by
  rw [List.infix_iff_prefix_suffix]
  constructor
  · rintro ⟨tail, starts, ends⟩
    obtain ⟨first, rest, rfl⟩ := List.exists_cons_of_ne_nil parts
    rw [slashed_cons] at starts
    obtain ⟨onward, rfl, _⟩ := List.cons_prefix_iff.mp starts
    obtain ⟨j, same⟩ := exists_drop_of_slash_suffix plain ends
    exact ⟨j, by rw [slashed_cons, ← same]; exact starts⟩
  · rintro ⟨j, starts⟩
    refine ⟨_, starts, slashed (segments.take j), ?_⟩
    rw [← slashed_append, List.take_append_drop]

end ComponentAtlas.Path
