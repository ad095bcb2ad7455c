/-!
# Instants

An instant is a number of milliseconds since the beginning of the year 1970, in universal
time. Its date is found by counting years from March on, so that a leap day ends a year.
-/

namespace ComponentAtlas.Time

/-- A point in time. -/
structure Instant where
  milliseconds : Nat
  deriving Repr, DecidableEq, Inhabited

/-- A day of the calendar. -/
structure Date where
  year : Nat
  month : Nat
  day : Nat
  deriving Repr, DecidableEq

/-- The number of days from the first of March of the year 0 to the beginning of 1970. -/
def daysBefore : Nat := 719468

/-- The days of four centuries. -/
def daysOfEra : Nat := 146097

/-- The date so many days after the beginning of 1970. -/
def Date.ofDays (days : Nat) : Date :=
  let shifted := days + daysBefore
  let era := shifted / daysOfEra
  let inEra := shifted % daysOfEra
  let year := (inEra - inEra / 1460 + inEra / 36524 - inEra / 146096) / 365
  let inYear := inEra - (365 * year + year / 4 - year / 100)
  let fromMarch := (5 * inYear + 2) / 153
  let day := inYear - (153 * fromMarch + 2) / 5 + 1
  let month := if fromMarch < 10 then fromMarch + 3 else fromMarch - 9
  ⟨year + era * 400 + (if month ≤ 2 then 1 else 0), month, day⟩

/-- A number with zeros in front, so that it has at least so many digits. -/
def padded (width value : Nat) : String :=
  let digits := Nat.toDigits 10 value
  String.ofList (List.replicate (width - digits.length) '0' ++ digits)

namespace Instant

/-- The whole seconds of an instant. -/
def seconds (instant : Instant) : Nat := instant.milliseconds / 1000

/-- The date of an instant. -/
def date (instant : Instant) : Date := Date.ofDays (instant.seconds / 86400)

/-- What a letter after a percent sign stands for in the writing of an instant. -/
def part? (instant : Instant) : Char → Option String
  | 'Y' => some (padded 4 instant.date.year)
  | 'm' => some (padded 2 instant.date.month)
  | 'd' => some (padded 2 instant.date.day)
  | 'H' => some (padded 2 (instant.seconds / 3600 % 24))
  | 'M' => some (padded 2 (instant.seconds / 60 % 60))
  | 'S' => some (padded 2 (instant.seconds % 60))
  | '%' => some "%"
  | _ => none

/-- Writes an instant by a layout, in which letters after percent signs stand for parts of it.
What stands for nothing is kept. -/
def write (instant : Instant) : List Char → List Char
  | '%' :: c :: rest =>
    match instant.part? c with
    | some part => part.toList ++ write instant rest
    | none => '%' :: c :: write instant rest
  | c :: rest => c :: write instant rest
  | [] => []

/-- The milliseconds after the last whole second. -/
def fraction (instant : Instant) : String := padded 3 (instant.milliseconds % 1000)

/-- The instant with date and time in one word. -/
def stamp (instant : Instant) : String :=
  String.ofList (instant.write "%Y-%m-%dT%H:%M:%S.".toList) ++ instant.fraction ++ "Z"

end Instant

end ComponentAtlas.Time
