import ComponentAtlas.Path.Resolution
import ComponentAtlas.Proofs.NormalForm

/-!
# Routes between paths

A route leads from a base directory to a path: up to the last directory that they have in common,
and down from there. Both ends are rows of names, so the steps up take away exactly the names in
which the base directory goes on alone, and the names of the path take their place. Whoever
follows a route from its base directory arrives at its path, so a path is known by the route that
leads to it.

A path without backslashes has a route without backslashes, and writing it with slashes changes
nothing.
-/

namespace ComponentAtlas.Path

/-! ## Joining -/

/-- One slash roots a path that starts with it, unless a second one follows and no third. -/
theorem rootDepth_eq_one_iff (path : List Char) :
    rootDepth path = 1 ↔ path[0]? = some '/' ∧ (path[1]? = some '/' → path[2]? = some '/') := by
  unfold rootDepth
  split
  case h_1 => simp
  case h_2 rest other => cases rest <;> simp_all
  case h_3 rest _ other => cases rest <;> simp_all
  case h_4 none => cases path <;> simp_all

section

variable {directory path : List Char} (relative : path.head? ≠ some '/')

include relative

/-- The segments of a joined path are taken in after those of the directory. -/
theorem foldl_push_below (written : directory ≠ []) (rooted : Bool) (row : List (List Char)) :
    (split (below directory path)).foldl (push rooted) row =
      (split path).foldl (push rooted) ((split directory).foldl (push rooted) row) := by
  rw [below, if_neg (by simpa using relative)]
  by_cases ended : directory.getLast? = some '/'
  · obtain ⟨front, rfl⟩ := List.getLast?_eq_some_iff.mp ended
    have separated : split (front ++ ['/']) = split front ++ [[]] := split_append_slash front []
    rw [if_pos (by simp), List.append_assoc, List.singleton_append, split_append_slash, separated,
      List.foldl_append, List.foldl_append, List.foldl_cons, List.foldl_nil, push_empty]
  · rw [if_neg (by simp [written, ended]), split_append_slash, List.foldl_append]

/-- A joined path is rooted as its directory is. The path starts with no slash, so none is added
to the slashes at the start of the directory. -/
theorem rootDepth_below (rooted : rootDepth directory = 1) :
    rootDepth (below directory path) = 1 := by
  rw [rootDepth_eq_one_iff] at rooted ⊢
  obtain ⟨slash, third⟩ := rooted
  rw [below, if_neg (by simpa using relative)]
  rcases directory with _ | ⟨a, _ | ⟨b, _ | ⟨c, rest⟩⟩⟩
  · simp at slash
  · cases path <;> simp_all
  · grind
  · split <;> simp_all

end

/-! ## What two rows have in common -/

/-- Two rows are the same front, which is dropped, and what is left of each. -/
theorem exists_dropCommon (left right : List (List Char)) :
    ∃ common, left = common ++ (dropCommon left right).1 ∧
      right = common ++ (dropCommon left right).2 := by
  fun_induction dropCommon left right with
  | case1 a as b bs same ih =>
    obtain rfl : a = b := eq_of_beq same
    obtain ⟨common, first, second⟩ := ih
    exact ⟨a :: common, congrArg (a :: ·) first, congrArg (a :: ·) second⟩
  | case2 a as b bs other => exact ⟨[], rfl, rfl⟩
  | case3 as bs ended => exact ⟨[], rfl, rfl⟩

/-! ## Routes in segments -/

/-- The segments of a route: steps up, and names on the way down. -/
def routeSegments (path base : List Char) : List (List Char) :=
  let (up, down) := dropCommon (normalSegments base) (normalSegments path)
  List.replicate up.length ['.', '.'] ++ down

/-- A route leads up, and down by names of its path. -/
theorem mem_routeSegments {path base segment : List Char}
    (member : segment ∈ routeSegments path base) :
    segment = ['.', '.'] ∨ segment ∈ normalSegments path := by
  obtain ⟨common, -, whole⟩ := exists_dropCommon (normalSegments base) (normalSegments path)
  rcases List.mem_append.mp member with up | down
  · exact .inl (List.eq_of_mem_replicate up)
  · exact .inr (whole ▸ List.mem_append_right common down)

section

variable {path base : List Char} (rooted : rootDepth path ≠ 0)

include rooted

/-- No segment of a route is empty, and none has a slash. -/
theorem solid_of_mem_routeSegments {segment : List Char}
    (member : segment ∈ routeSegments path base) : segment ≠ [] ∧ '/' ∉ segment := by
  rcases mem_routeSegments member with rfl | down
  · exact ⟨by decide, by decide⟩
  · have isName := isName_of_mem_normalSegments rooted segment down
    exact ⟨isName.written, isName.solid⟩

variable (based : rootDepth base ≠ 0)

include based

/-- A route between rooted paths is the same wherever it is asked for. -/
theorem relative_eq (cwd : List Char) :
    relative cwd path base =
      if routeSegments path base = [] then ['.'] else join (routeSegments path base) := by
  rw [relative, absolute_eq rooted, absolute_eq based, names_normalize rooted,
    names_normalize based, routeSegments]
  simp [List.map_const']

/-- A route does not start with a slash. -/
theorem head?_relative_ne (cwd : List Char) :
    (relative cwd path base).head? ≠ some '/' := by
  rw [relative_eq rooted based]
  split
  · decide
  · exact head?_join_ne fun segment member => solid_of_mem_routeSegments rooted member

/-- A route is taken in segment by segment. -/
theorem foldl_push_relative (cwd : List Char) (root : Bool) (row : List (List Char)) :
    (split (relative cwd path base)).foldl (push root) row =
      (routeSegments path base).foldl (push root) row := by
  rw [relative_eq rooted based]
  by_cases still : routeSegments path base = []
  · rw [if_pos still, still]
    rfl
  · rw [if_neg still, split_join still fun segment member =>
      (solid_of_mem_routeSegments rooted member).2]

/-- From the names of its base directory a route leads to the names of its path. The steps up take
away what the base directory has after the common front, and what the path has there follows. -/
theorem foldl_push_routeSegments :
    (routeSegments path base).foldl (push true) (normalSegments base).reverse =
      (normalSegments path).reverse := by
  obtain ⟨common, start, arrival⟩ := exists_dropCommon (normalSegments base) (normalSegments path)
  rw [routeSegments]
  generalize dropCommon (normalSegments base) (normalSegments path) = rest at start arrival
  obtain ⟨up, down⟩ := rest
  have upNames : ∀ name ∈ up.reverse, IsName name := by
    intro name member
    apply isName_of_mem_normalSegments based
    rw [start]
    exact List.mem_append_right common (List.mem_reverse.mp member)
  have downNames : ∀ name ∈ down, IsName name := by
    intro name member
    apply isName_of_mem_normalSegments rooted
    rw [arrival]
    exact List.mem_append_right common member
  calc (List.replicate up.length ['.', '.'] ++ down).foldl (push true) (normalSegments base).reverse
    _ = down.foldl (push true)
          ((List.replicate up.reverse.length ['.', '.']).foldl (push true)
            (up.reverse ++ common.reverse)) := by
        rw [List.foldl_append, start, List.reverse_append, List.length_reverse]
    _ = down.foldl (push true) common.reverse := by rw [foldl_push_up upNames]
    _ = (normalSegments path).reverse := by
        rw [foldl_push_names downNames, arrival, List.reverse_append]

end

/-- Joined to its base directory, a route means its path. -/
theorem normalize_below_relative (cwd : List Char) {path base : List Char}
    (rooted : rootDepth path = 1) (based : rootDepth base = 1) :
    normalize (below base (relative cwd path base)) = normalize path := by
  have pathRooted : rootDepth path ≠ 0 := by rw [rooted]; decide
  have baseRooted : rootDepth base ≠ 0 := by rw [based]; decide
  have bare := head?_relative_ne pathRooted baseRooted cwd
  have written : base ≠ [] := by
    rintro rfl
    exact baseRooted rfl
  have joined : rootDepth (below base (relative cwd path base)) = 1 := rootDepth_below bare based
  have arrives : normalSegments (below base (relative cwd path base)) = normalSegments path := by
    rw [← List.reverse_inj, ← foldl_push_split (by rw [joined]; decide),
      foldl_push_below bare written, foldl_push_split baseRooted,
      foldl_push_relative pathRooted baseRooted, foldl_push_routeSegments pathRooted baseRooted]
  rw [normalize_eq (by rw [joined]; decide), normalize_eq pathRooted, arrives, joined, rooted]

/-! ## Characters of routes -/

/-- Taking segments in makes none up. -/
theorem foldl_push_subset (rooted : Bool) (segments row : List (List Char)) :
    segments.foldl (push rooted) row ⊆ segments ++ row := by
  induction segments generalizing row with
  | nil => exact List.Subset.refl row
  | cons segment rest ih =>
    have step : push rooted row segment ⊆ segment :: row := by
      unfold push
      split
      · exact List.subset_cons_self segment row
      · split
        · cases row with
          | nil => dsimp only; split <;> simp
          | cons last earlier => dsimp only; split <;> simp
        · exact List.Subset.refl _
    intro name member
    rcases List.mem_append.mp (ih _ member) with later | here
    · exact List.mem_append_left row (List.mem_cons_of_mem segment later)
    · rcases List.mem_cons.mp (step here) with rfl | before
      · exact List.mem_append_left row List.mem_cons_self
      · exact List.mem_append_right _ before

/-- The characters of a path's segments stand in the path. -/
theorem mem_of_mem_normalSegments {path segment : List Char} {c : Char}
    (member : segment ∈ normalSegments path) (inside : c ∈ segment) (other : c ≠ '/') :
    c ∈ path := by
  have among : segment ∈ split path := by
    have kept := foldl_push_subset _ _ _ (List.mem_reverse.mp member)
    rwa [List.append_nil] at kept
  have slashes : c ∈ slashed (split path) :=
    List.mem_flatMap.mpr ⟨segment, among, List.mem_cons_of_mem '/' inside⟩
  rw [slashed_split] at slashes
  exact (List.mem_cons.mp slashes).resolve_left other

/-- Joining adds slashes only. -/
theorem mem_join {segments : List (List Char)} {c : Char} (member : c ∈ join segments) :
    c = '/' ∨ ∃ segment ∈ segments, c ∈ segment := by
  induction segments with
  | nil => simp [join] at member
  | cons first rest ih =>
    cases rest with
    | nil =>
      rw [join, List.intercalate_singleton] at member
      exact .inr ⟨first, List.mem_cons_self, member⟩
    | cons next later =>
      rw [join, List.intercalate_cons_cons, List.append_assoc] at member
      rcases List.mem_append.mp member with here | beyond
      · exact .inr ⟨first, List.mem_cons_self, here⟩
      · rcases List.mem_cons.mp beyond with slash | after
        · exact .inl slash
        · rcases ih after with slash | ⟨segment, among, inside⟩
          · exact .inl slash
          · exact .inr ⟨segment, List.mem_cons_of_mem first among, inside⟩

/-- A route to a path without backslashes has none. -/
theorem not_mem_relative (cwd : List Char) {path base : List Char} (rooted : rootDepth path ≠ 0)
    (based : rootDepth base ≠ 0) (plain : '\\' ∉ path) : '\\' ∉ relative cwd path base := by
  intro member
  rw [relative_eq rooted based] at member
  split at member
  · revert member
    decide
  · rcases mem_join member with slash | ⟨segment, among, inside⟩
    · revert slash
      decide
    · rcases mem_routeSegments among with rfl | down
      · revert inside
        decide
      · exact plain (mem_of_mem_normalSegments down inside (by decide))

/-- The route from a base directory to a path identifies the path. Both start with one slash, and
the path holds no backslash. Then there is a route, and joined to the base directory it has the
normal form of the path, wherever the one stands from the other. So paths that differ in normal
form have different routes from the same base directory. -/
theorem route_identifies_path (cwd base : String) (based : rootDepth base.toList = 1) :
    (∀ path : String, rootDepth path.toList = 1 → '\\' ∉ path.toList →
      relativePosix? cwd path base = some (relativePosix cwd path base) ∧
        normalize (below base.toList (relativePosix cwd path base).toList) =
          normalize path.toList) ∧
    (∀ path other : String, rootDepth path.toList = 1 → '\\' ∉ path.toList →
      rootDepth other.toList = 1 → '\\' ∉ other.toList →
      normalize path.toList ≠ normalize other.toList →
      relativePosix cwd path base ≠ relativePosix cwd other base) := by
  have arrives : ∀ path : String, rootDepth path.toList = 1 → '\\' ∉ path.toList →
      normalize (below base.toList (relativePosix cwd path base).toList) =
        normalize path.toList := by
    intro path rooted plain
    have bare : '\\' ∉ relative cwd.toList path.toList base.toList :=
      not_mem_relative _ (by rw [rooted]; decide) (by rw [based]; decide) plain
    rw [relativePosix, toPosix_eq_self (by rwa [String.toList_ofList]), String.toList_ofList,
      normalize_below_relative _ rooted based]
  constructor
  · intro path rooted plain
    have written : path.isEmpty = false := by
      rw [← Bool.not_eq_true, String.isEmpty_iff]
      rintro rfl
      revert rooted
      decide
    refine ⟨?_, arrives path rooted plain⟩
    rw [relativePosix?, written]
    rfl
  · intro path other rooted plain otherRooted otherPlain differ same
    apply differ
    rw [← arrives path rooted plain, ← arrives other otherRooted otherPlain, same]

/-- From a base directory that is not written in normal form, the route to a file beside it leads
up and down again, and is not that to a file of the same name below it. -/
theorem route_identifies_path_beside :
    rootDepth "/shop/src/../app/".toList = 1 ∧ rootDepth "/shop//lib/Card.tsx".toList = 1 ∧
      '\\' ∉ "/shop//lib/Card.tsx".toList ∧
      relativePosix? "/" "/shop//lib/Card.tsx" "/shop/src/../app/" = some "../lib/Card.tsx" ∧
      normalize (below "/shop/src/../app/".toList "../lib/Card.tsx".toList) =
        "/shop/lib/Card.tsx".toList ∧
      relativePosix "/" "/shop//lib/Card.tsx" "/shop/src/../app/" ≠
        relativePosix "/" "/shop/app/Card.tsx" "/shop/src/../app/" := by
  have based : rootDepth "/shop/src/../app/".toList = 1 := by decide
  have rooted : rootDepth "/shop//lib/Card.tsx".toList = 1 := by decide
  have plain : '\\' ∉ "/shop//lib/Card.tsx".toList := by decide
  obtain ⟨routes, identify⟩ := route_identifies_path "/" "/shop/src/../app/" based
  obtain ⟨found, arrives⟩ := routes "/shop//lib/Card.tsx" rooted plain
  have written :
      relativePosix "/" "/shop//lib/Card.tsx" "/shop/src/../app/" = "../lib/Card.tsx" := by
    decide
  rw [written] at found arrives
  refine ⟨based, rooted, plain, found, arrives.trans (by decide), ?_⟩
  exact identify _ "/shop/app/Card.tsx" rooted plain (by decide) (by decide) (by decide)

end ComponentAtlas.Path
