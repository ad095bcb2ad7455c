/-!
# Names without repetition

A list of names grows by names that it does not hold yet. What is collected this way has no
repetition, and its order is that of first occurrence.
-/

namespace ComponentAtlas.Component

/-- Appends a name that is not there yet. -/
def insertNew (names : List String) (name : String) : List String :=
  if names.contains name then names else names ++ [name]

/-- Appends the names of a list in turn, each that is not there yet. -/
def insertAll (names more : List String) : List String := more.foldl insertNew names

/-- The names in order of first occurrence. -/
def firstOccurrences (names : List String) : List String := insertAll [] names

/-- After an insertion a list holds what it held, and the name. -/
theorem mem_insertNew {names : List String} {name other : String} :
    other ∈ insertNew names name ↔ other ∈ names ∨ other = name := by
  unfold insertNew
  split
  case isTrue present =>
    have held : name ∈ names := by simpa using present
    constructor
    · exact .inl
    · rintro (old | rfl)
      · exact old
      · exact held
  case isFalse => simp

/-- An insertion repeats nothing. -/
theorem nodup_insertNew {names : List String} (distinct : names.Nodup) (name : String) :
    (insertNew names name).Nodup := by
  unfold insertNew
  split
  case isTrue => exact distinct
  case isFalse absent =>
    have fresh : name ∉ names := by simpa using absent
    rw [List.nodup_append]
    refine ⟨distinct, by simp, ?_⟩
    intro a old b new
    have same : b = name := by simpa using new
    intro equal
    exact fresh (same ▸ equal ▸ old)

/-- Insertions in turn keep what a list held and add all the names. -/
theorem mem_insertAll {names more : List String} {name : String} :
    name ∈ insertAll names more ↔ name ∈ names ∨ name ∈ more := by
  unfold insertAll
  induction more generalizing names with
  | nil => simp
  | cons first rest ih => rw [List.foldl_cons, ih, mem_insertNew]; simp [or_assoc]

/-- Insertions in turn repeat nothing. -/
theorem nodup_insertAll {names : List String} (distinct : names.Nodup) (more : List String) :
    (insertAll names more).Nodup := by
  unfold insertAll
  induction more generalizing names with
  | nil => exact distinct
  | cons first rest ih => exact ih (nodup_insertNew distinct first)

/-- Insertions in turn can be made in two parts. -/
theorem insertAll_append (names front back : List String) :
    insertAll names (front ++ back) = insertAll (insertAll names front) back := by
  simp [insertAll, List.foldl_append]

/-- Insertions in turn keep the names of a list in their places, and put after them the new
ones as they first occur. -/
theorem insertAll_eq_append (names more : List String) :
    insertAll names more = names ++ (more.removeAll names).eraseDups := by
  induction more generalizing names with
  | nil => simp [insertAll, List.removeAll]
  | cons first rest ih =>
    have step : insertAll names (first :: rest) = insertAll (insertNew names first) rest := rfl
    rw [step, ih]
    by_cases present : first ∈ names
    · simp [insertNew, List.removeAll, present]
    · have later : rest.removeAll (names ++ [first]) =
          (rest.removeAll names).filter (fun other => !other == first) := by
        simp only [List.removeAll, List.filter_filter]
        apply List.filter_congr
        intro other _
        rw [Bool.eq_iff_iff]
        simp [and_comm]
      have kept : (first :: rest).removeAll names = first :: rest.removeAll names := by
        simp [List.removeAll, present]
      rw [kept, List.eraseDups_cons, ← later]
      simp [insertNew, present]

/-- Insertions in turn leave the names of a list in front. -/
theorem prefix_insertAll (names more : List String) : names <+: insertAll names more :=
  ⟨_, (insertAll_eq_append names more).symm⟩

/-- The first occurrences are what erasing later repetitions leaves. -/
theorem firstOccurrences_eq_eraseDups (names : List String) :
    firstOccurrences names = names.eraseDups := by
  have law := insertAll_eq_append [] names
  have whole : names.removeAll [] = names := by simp [List.removeAll]
  rw [firstOccurrences, law, whole, List.nil_append]

/-- The first occurrences are the names themselves. -/
theorem mem_firstOccurrences {names : List String} {name : String} :
    name ∈ firstOccurrences names ↔ name ∈ names := by
  simp [firstOccurrences, mem_insertAll]

/-- No name occurs first twice. -/
theorem nodup_firstOccurrences (names : List String) : (firstOccurrences names).Nodup :=
  nodup_insertAll List.nodup_nil names

end ComponentAtlas.Component
