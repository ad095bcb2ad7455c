import ComponentAtlas.Number.Binary64

/-!
# Shortest decimals

A finite number is written with the fewest digits that read back as the same number, and
among those with the digits nearest to it. The digits that read back form an interval
around the number, whose ends belong to it when the mantissa is even. On a decimal grid
only the two neighbours of the number have to be tried.

Decimals from `0.0001` up to sixteen digits before the point are written out, with at
least one digit after the point; others get an exponent of at least two digits.
-/

namespace ComponentAtlas.Number

/-- A positive decimal `0.d₁d₂… · 10 ^ point`, with `digits` the number `d₁d₂…`. -/
structure Decimal where
  digits : Nat
  point : Int
  deriving Repr, DecidableEq

namespace Shortest

/-- The interval of a positive number in quarters of its last binary place, put over a
common scale with the decimal grid of step `10 ^ step`: a grid point `c` stands for
`c * unit`. -/
structure Frame where
  low : Nat
  value : Nat
  high : Nat
  unit : Nat
  closed : Bool

/-- The frame of `mantissa · 2 ^ exponent` on a grid. The gap below a power of two is half
as wide as the gap above. -/
def frame (mantissa : Nat) (exponent : Int) (step : Int) : Frame :=
  let scale := Binary64.twoTo exponent.toNat * Binary64.tenTo (-step).toNat
  let unit := 4 * (Binary64.twoTo (-exponent).toNat * Binary64.tenTo step.toNat)
  let below :=
    if mantissa == Binary64.twoTo 52 && Binary64.leastExponent < exponent then 1 else 2
  { low := (4 * mantissa - below) * scale, value := 4 * mantissa * scale
    high := (4 * mantissa + 2) * scale, unit, closed := mantissa % 2 == 0 }

/-- A grid point that reads back as the number. -/
def Frame.admits (f : Frame) (c : Nat) : Bool :=
  let x := c * f.unit
  (f.low < x || (f.closed && f.low == x)) && (x < f.high || (f.closed && x == f.high))

/-- The neighbour of the number on the grid that reads back; of two the nearer, of two
equally near the even one. -/
def Frame.nearest? (f : Frame) : Option Nat :=
  let lower := f.value / f.unit
  let upper := lower + 1
  match f.admits lower, f.admits upper with
  | true, false => some lower
  | false, true => some upper
  | false, false => none
  | true, true =>
    let down := f.value - lower * f.unit
    let up := upper * f.unit - f.value
    if down < up || (down == up && lower % 2 == 0) then some lower else some upper

/-- The power of ten above the number: `10 ^ (p - 1) ≤ value < 10 ^ p`. The search starts
from an estimate that is at most two too small. -/
def magnitude (mantissa : Nat) (exponent : Int) : Int :=
  let bits : Int := (Nat.log2 mantissa : Int) + exponent
  let estimate : Int := bits * 30103 / 100000 - 1
  let reaches := fun (p : Int) =>
    let f := frame mantissa exponent p
    decide (f.unit ≤ f.value)
  if !reaches estimate then estimate
  else if !reaches (estimate + 1) then estimate + 1
  else if !reaches (estimate + 2) then estimate + 2
  else estimate + 3

/-- Tries ever finer grids, `count` of them, from `size` digits on. -/
def search (mantissa : Nat) (exponent : Int) (top : Int) : Nat → Nat → Decimal
  | 0, size =>
    let f := frame mantissa exponent (top - size)
    ⟨f.value / f.unit, top⟩
  | count + 1, size =>
    match (frame mantissa exponent (top - size)).nearest? with
    | some c => if c == Binary64.tenTo size then ⟨1, top + 1⟩ else ⟨c, top⟩
    | none => search mantissa exponent top count (size + 1)

/-- The shortest decimal of a positive number. -/
def ofPositive (mantissa : Nat) (exponent : Int) : Decimal :=
  search mantissa exponent (magnitude mantissa exponent) 17 1

end Shortest

namespace Decimal

/-- The digits without zeros at their end. -/
def significant (d : Decimal) : List Char :=
  ((Nat.toDigits 10 d.digits).reverse.dropWhile (· == '0')).reverse

/-- An exponent with its sign and at least two digits. -/
def exponentText (e : Int) : String :=
  let digits := toString e.natAbs
  (if e < 0 then "e-" else "e+") ++ (if digits.length < 2 then "0" ++ digits else digits)

/-- The decimal in the notation described above. -/
def render (d : Decimal) : String :=
  let digits := d.significant
  if -4 < d.point && d.point ≤ 16 then
    if d.point ≤ 0 then
      "0." ++ String.ofList (List.replicate (-d.point).toNat '0' ++ digits)
    else
      let whole := d.point.toNat
      let front := digits.take whole
      let back := digits.drop whole
      String.ofList (front ++ List.replicate (whole - front.length) '0') ++ "." ++
        (if back.isEmpty then "0" else String.ofList back)
  else
    match digits with
    | [] => "0" ++ exponentText (d.point - 1)
    | [only] => String.ofList [only] ++ exponentText (d.point - 1)
    | first :: rest => String.ofList (first :: '.' :: rest) ++ exponentText (d.point - 1)

end Decimal

namespace Binary64

/-- A number as text, with the given words for what is not finite. -/
def render (infinity undefinedWord : String) : Binary64 → String
  | .finite negative mantissa exponent =>
    let body :=
      if mantissa == 0 then "0.0" else (Shortest.ofPositive mantissa exponent).render
    if negative then "-" ++ body else body
  | .infinite negative => if negative then "-" ++ infinity else infinity
  | .undefined => undefinedWord

end Binary64

end ComponentAtlas.Number
