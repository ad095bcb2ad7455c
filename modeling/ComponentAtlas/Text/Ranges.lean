/-!
# Ranges of characters

A property of characters is a list of inclusive ranges of code points, in rising order.
-/

namespace ComponentAtlas.Text

/-- Some range of the list holds the character. -/
def inRanges (ranges : List (Nat × Nat)) (c : Char) : Bool :=
  ranges.any fun (first, last) => first ≤ c.toNat && c.toNat ≤ last

end ComponentAtlas.Text
