import Lookalike.Decimal.Binary64

/-! ### Fixed decimal places

A number is written with a given count of decimal places, rounded from its exact binary value; a
tie goes to the even digit. -/

namespace Lookalike.Fixed

open Binary64

/-- The absolute value, in units of the last place. -/
def units (mantissa : Nat) (exponent : Int) (places : Nat) : Nat :=
  if 0 ≤ exponent then mantissa * twoTo exponent.toNat * tenTo places
  else roundDiv (mantissa * tenTo places) (twoTo (-exponent).toNat)

/-- A count of units of the last place as text. -/
def layout (n places : Nat) : String :=
  if places = 0 then toString n
  else
    let ds := Nat.toDigits 10 n
    let padded := List.replicate (places + 1 - ds.length) '0' ++ ds
    let whole := padded.length - places
    String.ofList (padded.take whole) ++ "." ++ String.ofList (padded.drop whole)

/-- A number with a fixed count of decimal places. -/
def render (x : Float) (places : Nat) : String :=
  match decode x with
  | .notANumber => "NaN"
  | .infinite negative => if negative then "-inf" else "inf"
  | .finite negative mantissa exponent =>
    (if negative then "-" else "") ++ layout (units mantissa exponent places) places

end Lookalike.Fixed
