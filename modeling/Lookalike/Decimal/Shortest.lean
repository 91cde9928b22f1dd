import Lookalike.Decimal.Binary64

/-! ### The shortest decimal that reads back

A finite floating point number stands for every real in the interval that rounds to it.
`Shortest.digits` looks for a decimal in that interval on ever finer grids, one digit at a time,
and of two candidates on a grid takes the nearer one. `Shortest.render` writes the result:
positional from `0.00001` up to sixteen digits before the point, and beyond that with an exponent
that always has a sign. -/

namespace Lookalike.Shortest

open Binary64

/-- A decimal `digits · 10^exponent`. -/
structure Scaled where
  digits : Nat
  exponent : Int
  deriving DecidableEq

/-- A positive fraction. -/
structure Fraction where
  num : Nat
  den : Nat

/-- `mantissa · 2^exponent` as a fraction. -/
def Fraction.ofBinary (mantissa : Nat) (exponent : Int) : Fraction :=
  if 0 ≤ exponent then ⟨mantissa * twoTo exponent.toNat, 1⟩ else ⟨mantissa, twoTo (-exponent).toNat⟩

/-- A fraction times a power of ten. -/
def Fraction.timesTen (f : Fraction) (e : Int) : Fraction :=
  if 0 ≤ e then ⟨f.num * tenTo e.toNat, f.den⟩ else ⟨f.num, f.den * tenTo (-e).toNat⟩

/-- The number of decimal digits of a natural number. -/
def digitCount (n : Nat) : Nat :=
  (Nat.toDigits 10 n).length

/-- The least number of decimal places at which `num / den` reaches one, searched up to `fuel`. -/
def leadingZeros (num den : Nat) : Nat → Nat
  | 0 => 0
  | fuel + 1 => if den ≤ num then 0 else leadingZeros (num * 10) den fuel + 1

/-- The decimal exponent of the leading digit. -/
def leadingExponent (f : Fraction) : Int :=
  if f.den ≤ f.num then (digitCount (f.num / f.den) : Int) - 1
  else -(leadingZeros f.num f.den 400 : Int)

/-- The interval of reals that round to `mantissa · 2^exponent`, in units of
`2^(exponent - 2)`: its ends, and whether they belong to it. -/
structure Interval where
  low : Nat
  high : Nat
  closed : Bool

/-- The interval of a number: narrower below a power of two. -/
def Interval.around (mantissa : Nat) (exponent : Int) : Interval :=
  let low := if mantissa = twoTo 52 ∧ -1074 < exponent then 4 * mantissa - 1 else 4 * mantissa - 2
  ⟨low, 4 * mantissa + 2, mantissa % 2 = 0⟩

/-- Whether `digits · 10^place` lies in the interval of units `2^(exponent - 2)`. -/
def Interval.holds (i : Interval) (exponent : Int) (digits : Nat) (place : Int) : Bool :=
  let d := (Fraction.mk digits 1).timesTen place
  let unit := Fraction.ofBinary 1 (exponent - 2)
  let left := d.num * unit.den
  let right := d.den * unit.num
  if i.closed then i.low * right ≤ left && left ≤ i.high * right
  else i.low * right < left && left < i.high * right

/-- The distance of two fractions, as a numerator over the product of their denominators. -/
def distance (a b : Fraction) : Nat :=
  let x := a.num * b.den
  let y := b.num * a.den
  (x - y) + (y - x)

/-- The nearest decimal with `count` digits that lies in the interval of the number. -/
def onGrid? (mantissa : Nat) (exponent : Int) (top : Int) (count : Nat) : Option Scaled :=
  let f := Fraction.ofBinary mantissa exponent
  let place : Int := top - count + 1
  let scaled := f.timesTen (-place)
  let below := scaled.num / scaled.den
  let interval := Interval.around mantissa exponent
  let lowFits := interval.holds exponent below place
  let highFits := interval.holds exponent (below + 1) place
  let value := scaled
  let lowDistance := distance value ⟨below, 1⟩
  let highDistance := distance value ⟨below + 1, 1⟩
  match lowFits, highFits with
  | false, false => none
  | true, false => some ⟨below, place⟩
  | false, true => some ⟨below + 1, place⟩
  | true, true =>
    if lowDistance < highDistance then some ⟨below, place⟩
    else if highDistance < lowDistance then some ⟨below + 1, place⟩
    else if below % 2 = 0 then some ⟨below, place⟩ else some ⟨below + 1, place⟩

/-- The shortest decimal of a positive number. -/
def digits (mantissa : Nat) (exponent : Int) : Scaled :=
  let top := leadingExponent (Fraction.ofBinary mantissa exponent)
  ((List.range 17).findSome? fun n => onGrid? mantissa exponent top (n + 1)).getD ⟨mantissa, 0⟩

/-- Digits with the zeros at their end moved into the exponent. -/
def stripZeros : Nat → Scaled → Scaled
  | 0, s => s
  | fuel + 1, s =>
    if s.digits ≠ 0 ∧ s.digits % 10 = 0 then stripZeros fuel ⟨s.digits / 10, s.exponent + 1⟩ else s

/-- A decimal as it is written: the digits before and after the point, and the power of ten with
its sign, where the last one may be empty. -/
structure Written where
  whole : List Char
  fraction : List Char
  power : List Char
  deriving DecidableEq

/-- The text of a decimal. -/
def Written.text (w : Written) : String :=
  String.ofList (w.whole ++ (if w.fraction.isEmpty then [] else '.' :: w.fraction) ++
    (if w.power.isEmpty then [] else 'e' :: w.power))

/-- How a positive decimal is written. -/
def layout (s : Scaled) : Written :=
  let s := stripZeros 400 s
  let ds := Nat.toDigits 10 s.digits
  let point : Int := ds.length + s.exponent
  if 0 ≤ s.exponent ∧ point ≤ 16 then
    ⟨ds ++ List.replicate s.exponent.toNat '0', ['0'], []⟩
  else if 0 < point ∧ point ≤ 16 then ⟨ds.take point.toNat, ds.drop point.toNat, []⟩
  else if -5 < point ∧ point ≤ 0 then ⟨['0'], List.replicate (-point).toNat '0' ++ ds, []⟩
  else
    let sign := if 0 < point then '+' else '-'
    ⟨ds.take 1, ds.drop 1, sign :: Nat.toDigits 10 (point - 1).natAbs⟩

/-- The sign of a finite floating point number and how the rest of it is written; `none` for
infinities and for what is no number. -/
def write? (x : Float) : Option (Bool × Written) :=
  match decode x with
  | .finite negative mantissa exponent =>
    some (negative, if mantissa = 0 then ⟨['0'], ['0'], []⟩ else layout (digits mantissa exponent))
  | _ => none

end Lookalike.Shortest
