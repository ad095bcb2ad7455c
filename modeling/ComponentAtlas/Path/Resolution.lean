import ComponentAtlas.Path.Segment
import ComponentAtlas.Text.Blank

/-!
# Resolving paths

A path that a user writes may start with a tilde for a home directory and may hold names of
environment variables. Both are put in before the path is made absolute; what a variable
holds is not searched for further names.
-/

namespace ComponentAtlas.Path

/-- What a path may refer to: the working directory, the values of variables, and
the home directories of the accounts, the first of which is the user's own. -/
structure Environment where
  cwd : String
  values : List (String × String)
  homes : List (String × String)
  deriving Repr

namespace Environment

/-- The user's home: the variable `HOME`, or the home of the user's account. -/
def home (env : Environment) : Option String :=
  (env.values.lookup "HOME").or (env.homes.head?.map (·.2))

end Environment

/-- Puts a home directory in for a tilde and the account name after it. An account that is
not known stays as it is written. -/
def expandHome (env : Environment) (path : List Char) : List Char :=
  match path with
  | '~' :: rest =>
    let (account, after) := rest.span (· != '/')
    let found :=
      if account.isEmpty then env.home else env.homes.lookup (String.ofList account)
    match found with
    | some home =>
      let bare := (home.toList.reverse.dropWhile (· == '/')).reverse
      if (bare ++ after).isEmpty then ['/'] else bare ++ after
    | none => path
  | _ => path

/-- A character of a variable's name that stands without braces. -/
def isVariablePart (c : Char) : Bool := c.isAlphanum || c == '_'

/-- The name of a variable after a dollar sign, and the number of characters that it takes
up with its braces. -/
def variableName? (chars : List Char) : Option (List Char × Nat) :=
  match chars with
  | '\x7b' :: rest =>
    let (name, after) := rest.span (· != '\x7d')
    if after.isEmpty then none else some (name, name.length + 2)
  | _ =>
    let name := chars.takeWhile isVariablePart
    if name.isEmpty then none else some (name, name.length)

/-- The names of variables that a text holds. -/
def variableNames : List Char → List String
  | [] => []
  | '$' :: rest =>
    match variableName? rest with
    | some (name, size) => String.ofList name :: variableNames (rest.drop size)
    | none => variableNames rest
  | _ :: rest => variableNames rest
termination_by chars => chars.length
decreasing_by all_goals simp only [List.length_cons, List.length_drop]; omega

/-- Puts in the values of variables. A name that has no value stays as it is written. -/
def expandVariables (env : Environment) : List Char → List Char
  | [] => []
  | '$' :: rest =>
    match variableName? rest with
    | some (name, size) =>
      match env.values.lookup (String.ofList name) with
      | some value => value.toList ++ expandVariables env (rest.drop size)
      | none => '$' :: rest.take size ++ expandVariables env (rest.drop size)
    | none => '$' :: expandVariables env rest
  | c :: rest => c :: expandVariables env rest
termination_by chars => chars.length
decreasing_by all_goals simp only [List.length_cons, List.length_drop]; omega

/-- The absolute path that a user means. A blank text means the fallback, which is resolved
in the same way. -/
def resolve (env : Environment) (path : Option String) (fallback : String) : String :=
  let written := Text.trim (path.getD "")
  let chosen := if written.isEmpty then fallback else written
  String.ofList
    (absolute env.cwd.toList (expandVariables env (expandHome env chosen.toList)))

/-- A path with slashes in the place of backslashes. -/
def toPosix (path : String) : String :=
  String.ofList (path.toList.map fun c => if c == '\\' then '/' else c)

/-- A path without backslashes is written with slashes already. -/
theorem toPosix_eq_self {path : String} (plain : '\\' ∉ path.toList) : toPosix path = path := by
  have same : path.toList.map (fun c => if c == '\\' then '/' else c) = path.toList := by
    refine (List.map_congr_left ?_).trans (List.map_id path.toList)
    intro c present
    have other : c ≠ '\\' := fun same => plain (same ▸ present)
    simp [other]
  rw [toPosix, same, String.ofList_toList]

/-- The way from a base directory to a path, written with slashes. -/
def relativePosix (cwd path base : String) : String :=
  toPosix (String.ofList (relative cwd.toList path.toList base.toList))

/-- The way from a base directory to a path that names something. No way leads to a path
that is written with nothing. -/
def relativePosix? (cwd path base : String) : Option String :=
  if path.isEmpty then none else some (relativePosix cwd path base)

/-- The extension of a file name is one of the given ones. -/
def hasExtension (extensions : List String) (name : String) : Bool :=
  extensions.contains (String.ofList (extension name.toList))

end ComponentAtlas.Path
