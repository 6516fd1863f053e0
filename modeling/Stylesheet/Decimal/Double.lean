import Stylesheet.Decimal.Positional

/-! # Texts of doubles

A double is printed with the shortest digits that are read back as the same double, in positional
notation. The sign of zero is kept; a NaN has no sign. -/

namespace Stylesheet.Double

/-- The magnitude of a finite double that is not zero, from its exponent field and its stored
fraction bits. -/
def magnitude (exponent fraction : Nat) : BinaryFraction :=
  if exponent = 0 then ⟨fraction, -1074, false⟩
  else ⟨0x10000000000000 + fraction, exponent - 1075, fraction = 0⟩

/-- **The text of the double** with the given bits. -/
def textOfBits (bits : UInt64) : String :=
  let sign := if bits >>> 63 = 0 then "" else "-"
  let exponent := (bits >>> 52 &&& 0x7ff).toNat
  let fraction := (bits &&& 0xfffffffffffff).toNat
  if exponent = 2047 then
    if fraction = 0 then sign ++ "inf" else "NaN"
  else if exponent = 0 ∧ fraction = 0 then sign ++ "0"
  else sign ++ (magnitude exponent fraction).shortest.positional

/-- The text of a double. -/
def text (x : Float) : String :=
  textOfBits x.toBits

/-- Negative zero keeps its sign, a tenth has one digit, and the smallest double one as well. -/
example : textOfBits 0x8000000000000000 = "-0" ∧ textOfBits 0x3fb999999999999a = "0.1" ∧
    (magnitude 0 1).shortest = ⟨5, -324⟩ := by
  decide +kernel

end Stylesheet.Double
