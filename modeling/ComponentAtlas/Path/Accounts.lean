import ComponentAtlas.Path.Resolution

/-!
# Accounts

A machine lists its accounts one a line, with colons between the fields. The first field is
the name of an account and the sixth its home directory.
-/

namespace ComponentAtlas.Path

/-- The account on a line, with its home directory. -/
def accountOfLine? (line : String) : Option (String × String) :=
  match line.splitOn ":" with
  | name :: _ :: _ :: _ :: _ :: home :: _ => some (name, home)
  | _ => none

/-- The accounts of a listing with their home directories, the user's own first. -/
def accounts (user listing : String) : List (String × String) :=
  let all := (listing.splitOn "\n").filterMap accountOfLine?
  all.filter (·.1 == user) ++ all.filter (·.1 != user)

end ComponentAtlas.Path
