import ComponentAtlas.Proofs.NormalForm
import ComponentAtlas.Scan.Report

/-!
# The base directory of a scan

Where no base directory is configured, the scanned directory takes its place, and it is resolved
a second time. It is absolute by then, so no tilde is found in it and no working directory is put
before it, and it is in normal form. But it may hold the names of variables: a variable's value is
not searched for names when it is put in, nor is the working directory. Those names are found the
second time, and if they have values, paths are reported from a directory that is not scanned.

So the base directory is the scanned one exactly if putting values in once more does not lead
elsewhere, and in particular where the scanned one holds no name that has a value.
-/

namespace ComponentAtlas.Path

variable {env : Environment}

/-! ## Putting values in -/

/-- A path that starts with a slash has no tilde to put a home in for. -/
theorem expandHome_of_rooted {path : List Char} (rooted : path.head? = some '/') :
    expandHome env path = path := by
  obtain ⟨rest, rfl⟩ := List.head?_eq_some_iff.mp rooted
  rfl

/-- Putting values in leaves a slash at the start. -/
theorem head?_expandVariables {path : List Char} (rooted : path.head? = some '/') :
    (expandVariables env path).head? = some '/' := by
  obtain ⟨rest, rfl⟩ := List.head?_eq_some_iff.mp rooted
  rw [expandVariables]
  · rfl
  · decide

/-- A text whose names have no values stays as it is when values are put in. The names are found
in the same places as when the values are put in. -/
theorem expandVariables_eq_self {chars : List Char}
    (unset : ∀ name ∈ variableNames chars, env.values.lookup name = none) :
    expandVariables env chars = chars := by
  fun_induction expandVariables env chars with
  | case1 => rfl
  | case2 rest name size found value valued ih =>
    rw [variableNames, found] at unset
    have here := unset _ List.mem_cons_self
    cases here.symm.trans valued
  | case3 rest name size found unvalued ih =>
    rw [variableNames, found] at unset
    rw [ih fun other member => unset other (List.mem_cons_of_mem _ member), List.cons_append,
      List.take_append_drop]
  | case4 rest missing ih =>
    rw [variableNames, missing] at unset
    rw [ih unset]
  | case5 c rest other ih =>
    rw [variableNames] at unset
    · rw [ih unset]
    · exact other

/-! ## Resolving once more -/

/-- Seen from a working directory that is rooted, every path is. -/
theorem rootDepth_below_ne_zero {cwd : List Char} (rooted : cwd.head? = some '/')
    (path : List Char) : rootDepth (below cwd path) ≠ 0 := by
  obtain ⟨rest, rfl⟩ := List.head?_eq_some_iff.mp rooted
  rw [rootDepth_ne_zero_iff, below]
  split
  case isTrue own => exact eq_of_beq own
  case isFalse => split <;> rfl

/-- Where a blank text means a rooted fallback, values are put into the fallback. -/
theorem toList_resolve_blank {path fallback : String} (blank : Text.trim path = "")
    (whole : rootDepth fallback.toList ≠ 0) :
    (resolve env (some path) fallback).toList =
      normalize (expandVariables env fallback.toList) := by
  have slash : fallback.toList.head? = some '/' := (rootDepth_ne_zero_iff _).mp whole
  have expanded : rootDepth (expandVariables env fallback.toList) ≠ 0 :=
    (rootDepth_ne_zero_iff _).mpr (head?_expandVariables slash)
  have empty : "".isEmpty = true := rfl
  simp only [resolve, String.toList_ofList, Option.getD_some, blank, empty, if_true]
  rw [expandHome_of_rooted slash, absolute_eq expanded]

variable (rooted : env.cwd.toList.head? = some '/')

include rooted

/-- What is resolved is rooted. -/
theorem rootDepth_resolve (path : Option String) (fallback : String) :
    rootDepth (resolve env path fallback).toList ≠ 0 := by
  rw [resolve, String.toList_ofList, absolute]
  have whole := rootDepth_below_ne_zero rooted
  rw [rootDepth_normalize (whole _)]
  exact whole _

/-- What is resolved is in normal form. -/
theorem normalize_resolve (path : Option String) (fallback : String) :
    normalize (resolve env path fallback).toList = (resolve env path fallback).toList := by
  rw [resolve, String.toList_ofList, absolute,
    normalize_normalize (rootDepth_below_ne_zero rooted _)]

end ComponentAtlas.Path

namespace ComponentAtlas.Scan

open ComponentAtlas.Path (Environment normalize expandVariables variableNames)

/-- Without a configured base directory, the base directory of a scan is the scanned directory
exactly if the scanned one stays where it is when the values of variables are put into it once
more. It does where it holds no name that has a value. -/
theorem baseDirectory_eq_rootDirectory_iff {env : Environment} {config : Config}
    (rooted : env.cwd.toList.head? = some '/') (blank : Text.trim config.basePath = "") :
    (baseDirectory env config = rootDirectory env config ↔
      normalize (expandVariables env (rootDirectory env config).toList) =
        (rootDirectory env config).toList) ∧
      ((∀ name ∈ variableNames (rootDirectory env config).toList,
        env.values.lookup name = none) →
        baseDirectory env config = rootDirectory env config) := by
  have exactly : baseDirectory env config = rootDirectory env config ↔
      normalize (expandVariables env (rootDirectory env config).toList) =
        (rootDirectory env config).toList := by
    have whole : Path.rootDepth (rootDirectory env config).toList ≠ 0 :=
      Path.rootDepth_resolve rooted _ _
    rw [← String.toList_inj, baseDirectory, Path.toList_resolve_blank blank whole]
  refine ⟨exactly, ?_⟩
  intro unset
  rw [exactly, Path.expandVariables_eq_self unset]
  exact Path.normalize_resolve rooted _ _

/-- Two variables, the first of which has a value that is written like a name. -/
def nestedValues : Environment where
  cwd := "/shop"
  values := [("WHERE", "$PART"), ("PART", "src")]
  homes := []

/-- A name without a value in the scanned directory does no harm. -/
theorem baseDirectory_eq_of_unset_name :
    let config := (Config.validated "/shop" (.object [("input_path", .str "$PART/$ABSENT")])).1
    let root := rootDirectory nestedValues config
    nestedValues.cwd.toList.head? = some '/' ∧ Text.trim config.basePath = "" ∧
      root = "/shop/src/$ABSENT" ∧
      (∀ name ∈ variableNames root.toList, nestedValues.values.lookup name = none) ∧
      baseDirectory nestedValues config = root := by
  intro config root
  have rooted : nestedValues.cwd.toList.head? = some '/' := by decide
  have blank : Text.trim config.basePath = "" := by decide +kernel
  have unset : ∀ name ∈ variableNames root.toList, nestedValues.values.lookup name = none := by
    decide +kernel
  have same := (baseDirectory_eq_rootDirectory_iff rooted blank).2 unset
  exact ⟨rooted, blank, by decide +kernel, unset, same⟩

/-- Where the scanned directory is really called `$PART`, it is not the base directory. -/
theorem baseDirectory_ne_of_nested_value :
    let config := (Config.validated "/shop" (.object [("input_path", .str "$WHERE")])).1
    nestedValues.cwd.toList.head? = some '/' ∧ Text.trim config.basePath = "" ∧
      rootDirectory nestedValues config = "/shop/$PART" ∧
      baseDirectory nestedValues config = "/shop/src" ∧
      baseDirectory nestedValues config ≠ rootDirectory nestedValues config := by
  decide +kernel

end ComponentAtlas.Scan
