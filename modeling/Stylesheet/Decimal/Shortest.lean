/-! # Shortest decimals

The shortest decimal that is read back as a given binary fraction. A fraction `m · 2 ^ q` of a
binary format is read back from every real of an interval around it; the search tries grids of
`1, 2, … 17` significant digits and takes the first grid with a point in the interval. Of two such
points it takes the nearer one, and of two equally near ones the larger. -/

namespace Stylesheet

/-- A positive fraction of a binary format, with the width of the gap to the next smaller one. -/
structure BinaryFraction where
  /-- The integer `m` of `m · 2 ^ q`. -/
  mantissa : Nat
  /-- The exponent `q` of `m · 2 ^ q`. -/
  exponent : Int
  /-- The gap below is half of the gap above, as it is at a power of two. -/
  narrowBelow : Bool

/-- The **decimal** `digits · 10 ^ exponent`. -/
structure Decimal where
  /-- The significant digits, read as one integer. -/
  digits : Nat
  /-- The power of ten. -/
  exponent : Int
  deriving DecidableEq

namespace BinaryFraction

/-- The numerator of `base ^ exponent`. -/
def powNum (base : Nat) (exponent : Int) : Nat :=
  Nat.pow base exponent.toNat

/-- The denominator of `base ^ exponent`. -/
def powDen (base : Nat) (exponent : Int) : Nat :=
  Nat.pow base (-exponent).toNat

/-- The fraction in quarters of its unit, so that the ends of the interval are integers too. -/
def middle (f : BinaryFraction) : Nat := 4 * f.mantissa

/-- The lower end of the interval that is read back as `f`, in quarters of the unit. -/
def lower (f : BinaryFraction) : Nat := f.middle - if f.narrowBelow then 1 else 2

/-- The upper end of the interval that is read back as `f`, in quarters of the unit. -/
def upper (f : BinaryFraction) : Nat := f.middle + 2

/-- The numerator of a quarter of the unit. -/
def unitNum (f : BinaryFraction) : Nat := powNum 2 (f.exponent - 2)

/-- The denominator of a quarter of the unit. -/
def unitDen (f : BinaryFraction) : Nat := powDen 2 (f.exponent - 2)

/-- The exponent `k` with `10 ^ k ≤ f < 10 ^ (k + 1)`. -/
def magnitude (f : BinaryFraction) : Int :=
  let whole := f.middle * f.unitNum / f.unitDen
  if whole = 0 then
    -((Nat.toDigits 10 ((f.unitDen - 1) / (f.middle * f.unitNum))).length : Int)
  else
    ((Nat.toDigits 10 whole).length : Int) - 1

/-- `digits · 10 ^ k` is read back as `f`: the ends of the interval count exactly if the mantissa
is even. -/
def readsBack (f : BinaryFraction) (k : Int) (digits : Nat) : Bool :=
  let point := digits * powNum 10 k * f.unitDen
  let low := f.lower * f.unitNum * powDen 10 k
  let high := f.upper * f.unitNum * powDen 10 k
  if f.mantissa % 2 = 0 then low ≤ point && point ≤ high else low < point && point < high

/-- The point to take of the grid `10 ^ k`, if one of the two points around `f` is read back. -/
def onGrid? (f : BinaryFraction) (k : Int) : Option Decimal :=
  let step := powNum 10 k * f.unitDen
  let value := f.middle * f.unitNum * powDen 10 k
  let below := value / step
  match f.readsBack k below, f.readsBack k (below + 1) with
  | false, false => none
  | true, false => some ⟨below, k⟩
  | false, true => some ⟨below + 1, k⟩
  | true, true => some ⟨if 2 * (value % step) < step then below else below + 1, k⟩

/-- The point of the grid `10 ^ k` at or below `f`. -/
def floorOnGrid (f : BinaryFraction) (k : Int) : Decimal :=
  ⟨f.middle * f.unitNum * powDen 10 k / (powNum 10 k * f.unitDen), k⟩

/-- **The shortest decimal** that is read back as `f`. Seventeen digits suffice for every double, so
the last alternative is not reached from one. -/
def shortest (f : BinaryFraction) : Decimal :=
  let top := f.magnitude
  ((List.range 17).findSome? fun (n : Nat) => f.onGrid? (top - n)).getD (f.floorOnGrid (top - 16))

end BinaryFraction

end Stylesheet
