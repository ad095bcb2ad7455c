/-!
# Paths as rows of segments

A path is a text in which slashes separate segments. A path starts with no slash, with one,
or with exactly two, which are a root of their own; more than two count as one. Normal form
drops empty segments and single dots and lets a double dot cancel the segment before it.
-/

namespace ComponentAtlas.Path

/-- The segments of a path: one more than it has slashes. -/
def split : List Char → List (List Char)
  | [] => [[]]
  | c :: rest =>
    if c == '/' then [] :: split rest
    else
      match split rest with
      | [] => [[c]]
      | first :: later => (c :: first) :: later

/-- Segments with slashes between them. -/
def join (segments : List (List Char)) : List Char := ['/'].intercalate segments

/-- The number of slashes that root a path: none, one or two. -/
def rootDepth : List Char → Nat
  | '/' :: '/' :: '/' :: _ => 1
  | '/' :: '/' :: _ => 2
  | '/' :: _ => 1
  | _ => 0

/-- Takes one more segment into a normal row, whose last segment comes first. A double dot
cancels a segment before it; at a root it means nothing, and at the start of a relative row
it stays. -/
def push (rooted : Bool) (row : List (List Char)) (segment : List Char) : List (List Char) :=
  if segment == [] || segment == ['.'] then row
  else if segment == ['.', '.'] then
    match row with
    | [] => if rooted then [] else [segment]
    | last :: earlier => if last == ['.', '.'] then segment :: row else earlier
  else segment :: row

/-- The segments of a path in normal form. -/
def normalSegments (path : List Char) : List (List Char) :=
  ((split path).foldl (push (rootDepth path != 0)) []).reverse

/-- The normal form of a path. Nothing at all is written as a single dot. -/
def normalize (path : List Char) : List Char :=
  let whole := List.replicate (rootDepth path) '/' ++ join (normalSegments path)
  if whole.isEmpty then ['.'] else whole

/-- A path below a directory, unless it is rooted itself. -/
def below (directory path : List Char) : List Char :=
  if path.head? == some '/' then path
  else if directory.isEmpty || directory.getLast? == some '/' then directory ++ path
  else directory ++ '/' :: path

/-- The normal form of a path seen from a working directory. -/
def absolute (cwd path : List Char) : List Char := normalize (below cwd path)

/-- The segments of a normal form that name something. -/
def names (path : List Char) : List (List Char) := (split path).filter (!·.isEmpty)

/-- Drops what two rows have in common at their start. -/
def dropCommon : List (List Char) → List (List Char) → List (List Char) × List (List Char)
  | a :: as, b :: bs => if a == b then dropCommon as bs else (a :: as, b :: bs)
  | as, bs => (as, bs)

/-- The way from one directory to a path: up to what they have in common, and down again. -/
def relative (cwd path base : List Char) : List Char :=
  let (up, down) := dropCommon (names (absolute cwd base)) (names (absolute cwd path))
  let row := up.map (fun _ => ['.', '.']) ++ down
  if row.isEmpty then ['.'] else join row

/-- The last segment of a path. -/
def baseName (path : List Char) : List Char := (split path).getLast?.getD []

/-- What stands before the last segment, without slashes at its end unless it holds nothing
else. -/
def directory (path : List Char) : List Char :=
  let head := path.take (path.length - (baseName path).length)
  let trimmed := (head.reverse.dropWhile (· == '/')).reverse
  if trimmed.isEmpty then head else trimmed

/-- The extension of a path, from its last dot on. Dots at the start of the last segment
begin no extension. -/
def extension (path : List Char) : List Char :=
  let stem := (baseName path).dropWhile (· == '.')
  match stem.reverse.span (· != '.') with
  | (tail, '.' :: _) => '.' :: tail.reverse
  | _ => []

end ComponentAtlas.Path
