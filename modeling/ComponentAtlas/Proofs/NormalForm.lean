import ComponentAtlas.Proofs.Segments

/-!
# Normal forms of rooted paths

In a rooted path each segment either names something, or leads nowhere, or leads one step up, and
a step up from the root stays there. So the row that is kept while the segments are taken in turn
holds names only, and the normal form of a rooted path is its slashes and a row of names. Taken in
once more, names stay what they are: a normal form is its own normal form.
-/

namespace ComponentAtlas.Path

/-! ## Segments of joined paths -/

/-- A slash between two paths separates their segments. -/
theorem split_append_slash (front back : List Char) :
    split (front ++ '/' :: back) = split front ++ split back := by
  rw [split_eq_splitOn, split_eq_splitOn, split_eq_splitOn, List.splitOn_append_cons_self]

/-- Segments that are joined are the segments of the whole. -/
theorem split_join {segments : List (List Char)} (some : segments ≠ [])
    (solid : ∀ segment ∈ segments, '/' ∉ segment) : split (join segments) = segments := by
  rw [split_eq_splitOn, join, List.splitOn_intercalate '/' solid some]

/-! ## Taking segments in -/

/-- A segment that names something. -/
structure IsName (segment : List Char) : Prop where
  written : segment ≠ []
  notHere : segment ≠ ['.']
  notUp : segment ≠ ['.', '.']
  solid : '/' ∉ segment

section

variable {rooted : Bool} {row : List (List Char)}

/-- An empty segment leaves the row as it is. -/
@[simp] theorem push_empty : push rooted row [] = row := rfl

/-- So does a single dot. -/
@[simp] theorem push_here : push rooted row ['.'] = row := rfl

/-- A name is added to the row. -/
theorem push_name {segment : List Char} (isName : IsName segment) :
    push rooted row segment = segment :: row := by
  simp [push, isName.written, isName.notHere, isName.notUp]

/-- A step up takes the last name away. -/
theorem push_up {last : List Char} (isName : IsName last) :
    push rooted (last :: row) ['.', '.'] = row := by
  simp [push, isName.notUp]

/-- Names are added one after the other. -/
theorem foldl_push_names {segments : List (List Char)}
    (named : ∀ segment ∈ segments, IsName segment) :
    segments.foldl (push rooted) row = segments.reverse ++ row := by
  induction segments generalizing row with
  | nil => rfl
  | cons segment rest ih =>
    obtain ⟨first, later⟩ := List.forall_mem_cons.mp named
    rw [List.foldl_cons, push_name first, ih later, List.reverse_cons, List.append_assoc,
      List.singleton_append]

/-- As many steps up as there are names at the end of the row take all of them away. -/
theorem foldl_push_up {names : List (List Char)} (named : ∀ name ∈ names, IsName name) :
    (List.replicate names.length ['.', '.']).foldl (push rooted) (names ++ row) = row := by
  induction names with
  | nil => rfl
  | cons name rest ih =>
    obtain ⟨first, later⟩ := List.forall_mem_cons.mp named
    rw [List.length_cons, List.replicate_succ, List.foldl_cons, List.cons_append, push_up first,
      ih later]

end

/-- From a root on, a row of names stays one whatever segment is taken in. -/
theorem isName_of_mem_push {row : List (List Char)} {segment : List Char}
    (named : ∀ name ∈ row, IsName name) (solid : '/' ∉ segment) :
    ∀ name ∈ push true row segment, IsName name := by
  by_cases nowhere : segment = [] ∨ segment = ['.']
  · rcases nowhere with rfl | rfl <;> simpa using named
  · obtain ⟨written, notHere⟩ := not_or.mp nowhere
    by_cases up : segment = ['.', '.']
    · subst up
      cases row with
      | nil => exact List.forall_mem_nil _
      | cons last earlier =>
        obtain ⟨isName, others⟩ := List.forall_mem_cons.mp named
        rwa [push_up isName]
    · have isName : IsName segment := ⟨written, notHere, up, solid⟩
      rw [push_name isName]
      exact List.forall_mem_cons.mpr ⟨isName, named⟩

/-- From a root on, any segments leave a row of names. -/
theorem isName_of_mem_foldl_push {segments row : List (List Char)}
    (solid : ∀ segment ∈ segments, '/' ∉ segment) (named : ∀ name ∈ row, IsName name) :
    ∀ name ∈ segments.foldl (push true) row, IsName name := by
  induction segments generalizing row with
  | nil => exact named
  | cons segment rest ih =>
    obtain ⟨first, later⟩ := List.forall_mem_cons.mp solid
    exact ih later (isName_of_mem_push named first)

/-! ## Rooted paths -/

/-- A path is rooted exactly if it starts with a slash. -/
theorem rootDepth_ne_zero_iff (path : List Char) :
    rootDepth path ≠ 0 ↔ path.head? = some '/' := by
  unfold rootDepth
  split
  case h_1 | h_2 | h_3 => simp
  case h_4 none => cases path <;> simp_all

/-- One slash or two root a path. -/
theorem rootDepth_le_two (path : List Char) : rootDepth path ≤ 2 := by
  unfold rootDepth
  split <;> omega

section

variable {path : List Char}

/-- The segments of a rooted path in normal form are names. -/
theorem isName_of_mem_normalSegments (rooted : rootDepth path ≠ 0) :
    ∀ segment ∈ normalSegments path, IsName segment := by
  intro segment member
  have whole : (rootDepth path != 0) = true := by simpa using rooted
  rw [normalSegments, whole, List.mem_reverse] at member
  exact isName_of_mem_foldl_push (fun _ => no_slash_of_mem_split) (List.forall_mem_nil _)
    segment member

/-- The row that the segments of a path leave is its normal form from the end. -/
theorem foldl_push_split (rooted : rootDepth path ≠ 0) :
    (split path).foldl (push true) [] = (normalSegments path).reverse := by
  have whole : (rootDepth path != 0) = true := by simpa using rooted
  rw [normalSegments, whole, List.reverse_reverse]

/-- The normal form of a rooted path is never empty. -/
theorem normalize_eq (rooted : rootDepth path ≠ 0) :
    normalize path = List.replicate (rootDepth path) '/' ++ join (normalSegments path) := by
  have some : List.replicate (rootDepth path) '/' ++ join (normalSegments path) ≠ [] := by
    simp [rooted]
  rw [normalize, if_neg (by simpa using some)]

/-- A rooted path is absolute wherever it is seen from. -/
theorem absolute_eq (rooted : rootDepth path ≠ 0) (cwd : List Char) :
    absolute cwd path = normalize path := by
  rw [absolute, below, if_pos (by simpa using (rootDepth_ne_zero_iff path).mp rooted)]

end

/-! ## Normal forms once more -/

section

variable {segments : List (List Char)}

/-- Joined segments do not start with a slash, if each of them holds something and no slash. -/
theorem head?_join_ne (solid : ∀ segment ∈ segments, segment ≠ [] ∧ '/' ∉ segment) :
    (join segments).head? ≠ some '/' := by
  cases segments with
  | nil => simp [join]
  | cons first rest =>
    obtain ⟨written, bare⟩ := solid first List.mem_cons_self
    obtain ⟨c, tail, rfl⟩ := List.exists_cons_of_ne_nil written
    have other : c ≠ '/' := fun same => bare (by simp [same])
    cases rest <;> simp [join, List.intercalate_cons_cons, other]

/-- Slashes before joined names root them. -/
theorem rootDepth_slashes (named : ∀ segment ∈ segments, IsName segment) {depth : Nat}
    (small : depth ≤ 2) : rootDepth (List.replicate depth '/' ++ join segments) = depth := by
  have bare := head?_join_ne fun segment member => ⟨(named segment member).written,
    (named segment member).solid⟩
  generalize join segments = rest at bare
  obtain rfl | rfl | rfl : depth = 0 ∨ depth = 1 ∨ depth = 2 := by omega
  all_goals
    cases rest with
    | nil => rfl
    | cons c tail =>
      have other : c ≠ '/' := by simpa using bare
      simp [List.replicate, rootDepth, other]

/-- The segments of joined names, where no names at all are one empty segment. -/
theorem split_join_names (named : ∀ segment ∈ segments, IsName segment) :
    split (join segments) = if segments = [] then [[]] else segments := by
  by_cases none : segments = []
  · subst none
    rfl
  · rw [if_neg none, split_join none fun segment member => (named segment member).solid]

/-- Slashes before joined names are empty segments. -/
theorem split_slashes (named : ∀ segment ∈ segments, IsName segment) (depth : Nat) :
    split (List.replicate depth '/' ++ join segments) =
      List.replicate depth [] ++ if segments = [] then [[]] else segments := by
  induction depth with
  | zero => exact split_join_names named
  | succ depth ih =>
    rw [List.replicate_succ, List.cons_append, split, if_pos (beq_self_eq_true _), ih,
      List.replicate_succ, List.cons_append]

/-- What is taken in when names stand after slashes. -/
theorem foldl_push_slashes (named : ∀ segment ∈ segments, IsName segment) (rooted : Bool)
    (depth : Nat) :
    (split (List.replicate depth '/' ++ join segments)).foldl (push rooted) [] =
      segments.reverse := by
  rw [split_slashes named, List.foldl_append]
  have slashes : (List.replicate depth []).foldl (push rooted) [] = [] := by
    induction depth with
    | zero => rfl
    | succ depth ih => simpa [List.replicate_succ] using ih
  rw [slashes]
  by_cases none : segments = []
  · subst none
    rfl
  · rw [if_neg none, foldl_push_names named, List.append_nil]

end

section

variable {path : List Char} (rooted : rootDepth path ≠ 0)

include rooted

/-- A normal form is rooted as its path is. -/
theorem rootDepth_normalize : rootDepth (normalize path) = rootDepth path := by
  rw [normalize_eq rooted, rootDepth_slashes (isName_of_mem_normalSegments rooted)
    (rootDepth_le_two path)]

/-- A normal form has the segments that were found for it. -/
theorem normalSegments_normalize : normalSegments (normalize path) = normalSegments path := by
  rw [normalSegments, rootDepth_normalize rooted, normalize_eq rooted,
    foldl_push_slashes (isName_of_mem_normalSegments rooted), List.reverse_reverse]

/-- The normal form of a rooted path is its own normal form. -/
theorem normalize_normalize : normalize (normalize path) = normalize path := by
  have again : rootDepth (normalize path) ≠ 0 := by rwa [rootDepth_normalize rooted]
  rw [normalize_eq again, rootDepth_normalize rooted, normalSegments_normalize rooted,
    ← normalize_eq rooted]

/-- The names in a normal form are its segments. -/
theorem names_normalize : names (normalize path) = normalSegments path := by
  have named := isName_of_mem_normalSegments rooted
  have kept : (normalSegments path).filter (!·.isEmpty) = normalSegments path := by
    rw [List.filter_eq_self]
    intro segment member
    simpa using (named segment member).written
  rw [names, normalize_eq rooted, split_slashes named, List.filter_append]
  have slashes : (List.replicate (rootDepth path) ([] : List Char)).filter (!·.isEmpty) = [] := by
    simp
  rw [slashes, List.nil_append]
  by_cases none : normalSegments path = []
  · rw [if_pos none, none]
    rfl
  · rw [if_neg none, kept]

end

end ComponentAtlas.Path
