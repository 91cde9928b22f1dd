import Lookalike.Json.Basic

/-! ### Numbers as values

A numeral is read as a natural number, as an integer, or as a floating point number. For the last
one, the digits that fit into sixty-four bits make the significand, the digits behind them only
move the point, and the significand is multiplied or divided by a power of ten in floating point.
A number too large for that cannot be read. -/

namespace Lookalike.Numeral

/-- The value of a digit. -/
def digitValue (c : Char) : Nat :=
  c.toNat - 48

/-- The value of some digits. -/
def ofDigits (cs : List Char) : Nat :=
  cs.foldl (fun n c => 10 * n + digitValue c) 0

/-- The greatest significand. -/
def maxSignificand : Nat := twoTo 64 - 1

/-- The significand and the exponent that some digits before the point make: the digits from the
first one that does not fit only count. -/
def wholePart : List Char → Nat → Nat × Nat
  | [], n => (n, 0)
  | c :: rest, n =>
    if maxSignificand < 10 * n + digitValue c then (n, rest.length + 1)
    else wholePart rest (10 * n + digitValue c)

/-- The significand after some digits behind the point, and how many of them fit. -/
def fractionPart : List Char → Nat → Nat × Nat
  | [], n => (n, 0)
  | c :: rest, n =>
    if maxSignificand < 10 * n + digitValue c then (n, 0)
    else
      let (m, places) := fractionPart rest (10 * n + digitValue c)
      (m, places + 1)

/-- The greatest power of ten that a floating point number holds. -/
def maxPower : Nat := 308

/-- A power of ten. -/
def powerOfTen (n : Nat) : Float :=
  Binary64.nearest false (tenTo n) 1

/-- A number divided by a power of ten, in `fuel` steps of at most the greatest power. -/
def divide : Nat → Float → Nat → Float
  | 0, x, _ => x
  | fuel + 1, x, n =>
    if n ≤ maxPower then x / powerOfTen n
    else if x == 0.0 then x
    else divide fuel (x / powerOfTen maxPower) (n - maxPower)

/-- A significand times a power of ten, unless it is too large. -/
def scaled? (significand : Nat) (exponent : Int) : Option Float :=
  let x := Float.ofNat significand
  if exponent < 0 then some (divide 8 x exponent.natAbs)
  else if exponent.natAbs ≤ maxPower then
    let y := x * powerOfTen exponent.natAbs
    if y.isInf then none else some y
  else if significand = 0 then some x else none

/-- The greatest exponent that is looked at. -/
def maxExponent : Nat := twoTo 31 - 1

/-- The sign and the digits of an exponent. -/
def splitPower : List Char → Bool × List Char
  | '-' :: ds => (true, ds)
  | '+' :: ds => (false, ds)
  | ds => (false, ds)

/-- The floating point number without its sign. -/
def magnitude? (n : Numeral) : Option Float :=
  let (m, before) := wholePart n.whole 0
  let (m, after) := fractionPart n.fraction m
  let start : Int := (before : Int) - after
  let (down, ds) := splitPower n.power
  let e := ofDigits ds
  if maxExponent < e then if m ≠ 0 && !down then none else some 0.0
  else scaled? m (if down then start - e else start + e)

/-- The floating point number. -/
def float? (n : Numeral) : Option Float :=
  n.magnitude?.map fun x => if n.negative then -x else x

/-- The natural number below `2 ^ width`. -/
def natural? (width : Nat) (n : Numeral) : Option Nat :=
  let m := ofDigits n.whole
  if n.isWhole && !n.negative && m < twoTo width then some m else none

/-- The integer that fits into sixty-four bits with a sign. A zero with a minus sign is none. -/
def integer? (n : Numeral) : Option Int :=
  let m := ofDigits n.whole
  if !n.isWhole then none
  else if n.negative then if 0 < m && m ≤ twoTo 63 then some (-(m : Int)) else none
  else if m < twoTo 63 then some m else none

end Lookalike.Numeral
