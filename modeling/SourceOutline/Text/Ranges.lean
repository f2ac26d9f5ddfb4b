/-!
# Character classes given by ranges

A class of characters is a list of ranges of code points. The tables of the library are written in
this form, in increasing order.
-/

namespace SourceOutline.Text

/-- A class of characters as ranges of code points, both ends included. -/
abbrev Ranges := List (Nat × Nat)

/-- Whether the code point of `c` lies in one of the ranges. -/
def Ranges.covers (r : Ranges) (c : Char) : Bool :=
  r.any fun p => p.1 ≤ c.toNat && c.toNat ≤ p.2

end SourceOutline.Text
