import Stylesheet.Decimal.Shortest

/-! # Positional notation

Decimals written without an exponent: `1e21` is written with all its zeros, and a fraction has no
more digits than it needs. -/

namespace Stylesheet.Decimal

/-- Digits behind a point, without trailing zeros. -/
def trimZeros (digits : List Char) : List Char :=
  (digits.reverse.dropWhile (· = '0')).reverse

/-- **Positional notation** of a decimal, without an exponent and without a fraction of zeros. -/
def positional (d : Decimal) : String :=
  let digits := Nat.toDigits 10 d.digits
  if 0 ≤ d.exponent then
    String.ofList (digits ++ List.replicate d.exponent.toNat '0')
  else
    let places := (-d.exponent).toNat
    let padded := List.replicate (places + 1 - digits.length) '0' ++ digits
    let whole := padded.take (padded.length - places)
    match trimZeros (padded.drop (padded.length - places)) with
    | [] => String.ofList whole
    | fraction => String.ofList (whole ++ '.' :: fraction)

end Stylesheet.Decimal
