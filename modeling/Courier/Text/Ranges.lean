/-!
# Sets of characters

A set of characters is given by inclusive ranges of code points.  This is the shape in which
character properties are tabulated.
-/

namespace Courier.Text

/-- A set of characters as inclusive ranges of code points. -/
abbrev Ranges := List (Nat × Nat)

/-- Whether a range of the set holds the character. -/
def Ranges.contains (ranges : Ranges) (c : Char) : Bool :=
  ranges.any fun range => range.1 ≤ c.toNat && c.toNat ≤ range.2

end Courier.Text
