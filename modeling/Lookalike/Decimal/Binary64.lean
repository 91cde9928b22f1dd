/-! ### Binary floating point numbers as exact fractions

A finite number is `mantissa · 2^exponent` with a sign. `Binary64.nearest` rounds a quotient of
natural numbers to the nearest such number, a tie going to the even mantissa; it is the one place
where decimal text becomes a floating point number. -/

namespace Lookalike

/-- A power of two. -/
def twoTo (n : Nat) : Nat :=
  Nat.pow 2 n

/-- A power of ten. -/
def tenTo (n : Nat) : Nat :=
  Nat.pow 10 n

namespace Binary64

/-- What the 64 bits of a floating point number stand for. -/
inductive Value where
  | notANumber
  | infinite (negative : Bool)
  | finite (negative : Bool) (mantissa : Nat) (exponent : Int)
  deriving DecidableEq

/-- The value of a bit pattern. -/
def ofBits (bits : Nat) : Value :=
  let negative := bits.testBit 63
  let biased : Nat := bits / twoTo 52 % twoTo 11
  let fraction : Nat := bits % twoTo 52
  if biased = 2047 then
    if fraction = 0 then .infinite negative else .notANumber
  else if biased = 0 then .finite negative fraction (-1074)
  else .finite negative (fraction + twoTo 52) ((biased : Int) - 1075)

/-- The value of a floating point number. -/
def decode (x : Float) : Value :=
  ofBits x.toBits.toNat

/-- The greatest number of 64 bits. -/
def maxWord : Nat :=
  twoTo 64 - 1

/-- A number as a natural number of 64 bits, where `cut` makes a quotient of natural numbers whole.
What is no number counts as zero, and so does what is negative. -/
def toNatBy (cut : Nat → Nat → Nat) (x : Float) : Nat :=
  match decode x with
  | .notANumber => 0
  | .infinite negative => if negative then 0 else maxWord
  | .finite negative mantissa exponent =>
    if negative then 0
    else if 0 ≤ exponent then min (mantissa * twoTo exponent.toNat) maxWord
    else min (cut mantissa (twoTo (-exponent).toNat)) maxWord

/-- A number without its fraction. -/
def floorNat (x : Float) : Nat :=
  toNatBy (· / ·) x

/-- A number rounded to the nearest natural number, a tie going up: half of the unit is added before
the fraction is cut off. -/
def roundNat (x : Float) : Nat :=
  toNatBy (fun num den => (2 * num + den) / (2 * den)) x

/-- A quotient rounded to the nearest natural number, a tie going to the even one. -/
def roundDiv (num den : Nat) : Nat :=
  let floor := num / den
  let twice := 2 * (num % den)
  if twice < den then floor
  else if den < twice then floor + 1
  else if floor % 2 = 0 then floor else floor + 1

/-- The bit pattern, without a sign, of the number nearest to `num / den`. -/
def nearestBits (num den : Nat) : Nat :=
  if num = 0 then 0
  else
    let estimate : Int := (Nat.log2 num : Int) - (Nat.log2 den : Int) - 52
    let scaled (e : Int) : Nat :=
      if 0 ≤ e then roundDiv num (den * twoTo e.toNat) else roundDiv (num * twoTo (-e).toNat) den
    let floorAt (e : Int) : Nat :=
      if 0 ≤ e then num / (den * twoTo e.toNat) else num * twoTo (-e).toNat / den
    let exponent : Int := if floorAt estimate < twoTo 52 then estimate - 1 else estimate
    -- Below the least exponent numbers lose digits instead.
    let exponent : Int := max exponent (-1074)
    let mantissa := scaled exponent
    if mantissa < twoTo 52 then mantissa
    else
      -- Rounding may have made the mantissa one digit longer.
      let (mantissa, exponent) :=
        if mantissa = twoTo 53 then (twoTo 52, exponent + 1) else (mantissa, exponent)
      if 971 < exponent then 2047 * twoTo 52
      else (exponent + 1075).toNat * twoTo 52 + (mantissa - twoTo 52)

/-- The number nearest to `num / den`, with a sign. -/
def nearest (negative : Bool) (num den : Nat) : Float :=
  Float.ofBits (UInt64.ofNat ((if negative then twoTo 63 else 0) + nearestBits num den))

/-! ### The total order -/

/-- A floating point number as its 64 bits. Words that are no number still differ in their signs and
in the rest of their bits. -/
@[ext] structure Word where
  bits : UInt64
  deriving DecidableEq

namespace Word

/-- The word of a floating point number. -/
def ofFloat (x : Float) : Word :=
  ⟨x.toBits⟩

/-- The floating point number of a word. -/
def toFloat (w : Word) : Float :=
  .ofBits w.bits

instance : Coe Word Float where
  coe w := w.toFloat

end Word

/-- The place of a word in the total order: negative numbers before positive ones, zeros told apart
by sign, and words that are no number at the ends. -/
def orderKey (w : Word) : UInt64 :=
  if w.bits >>> 63 = 1 then ~~~ w.bits else w.bits ^^^ ((1 : UInt64) <<< 63)

/-- Comparison of words in the total order. -/
def compareWords (v w : Word) : Ordering :=
  compare (orderKey v) (orderKey w)

/-- Comparison of floating point numbers by their words. -/
def totalCompare (x y : Float) : Ordering :=
  compareWords (.ofFloat x) (.ofFloat y)

end Binary64

end Lookalike
