import Lookalike.Decimal.Binary64

/-! ### Numbers read from text

Natural numbers of a bounded width and floating point numbers in decimal notation. A natural
number may carry a plus sign; a floating point number may carry either sign, may leave out the
digits on one side of its point, and may be one of the words for infinity and for no number. -/

namespace Lookalike.Reading

/-- Whether a character is one of the ten ASCII digits. -/
def isDigit (c : Char) : Bool :=
  '0' ≤ c && c ≤ '9'

/-- The number that a list of digits stands for. -/
def ofDigits (cs : List Char) : Nat :=
  cs.foldl (fun n c => 10 * n + (c.toNat - 48)) 0

/-- A natural number below `2 ^ width`. -/
def natural? (width : Nat) (s : String) : Option Nat :=
  let digits := match s.toList with
    | '+' :: rest => rest
    | all => all
  if digits.isEmpty || !digits.all isDigit then none
  else
    let n := ofDigits digits
    if n < twoTo width then some n else none

/-- The number `digits · 10^exponent`, rounded. -/
def scaled (negative : Bool) (digits : Nat) (exponent : Int) : Float :=
  if digits = 0 then Binary64.nearest negative 0 1
  else
    let top := ((Nat.log2 digits : Int) * 3) / 10 + exponent
    if 400 < top then Binary64.nearest negative (twoTo 1100) 1
    else if top < -400 then Binary64.nearest negative 0 1
    else if 0 ≤ exponent then Binary64.nearest negative (digits * tenTo exponent.toNat) 1
    else Binary64.nearest negative digits (tenTo (-exponent).toNat)

/-- A sign and what follows it. -/
def sign : List Char → Bool × List Char
  | '-' :: rest => (true, rest)
  | '+' :: rest => (false, rest)
  | all => (false, all)

/-- The exponent after its letter, where nothing may follow it. -/
def exponent? (cs : List Char) : Option Int :=
  let (negative, digits) := sign cs
  if digits.isEmpty || !digits.all isDigit then none
  else
    let n : Int := ofDigits digits
    some (if negative then -n else n)

/-- A decimal without its sign. -/
def unsigned? (negative : Bool) (cs : List Char) : Option Float :=
  let whole := cs.takeWhile isDigit
  let afterWhole := cs.dropWhile isDigit
  let (fraction, rest) := match afterWhole with
    | '.' :: tail => (tail.takeWhile isDigit, tail.dropWhile isDigit)
    | other => ([], other)
  if whole.isEmpty && fraction.isEmpty then none
  else
    let exponent := match rest with
      | [] => some 0
      | c :: tail => if c = 'e' ∨ c = 'E' then exponent? tail else none
    exponent.map fun e => scaled negative (ofDigits (whole ++ fraction)) (e - fraction.length)

/-- A floating point number in decimal notation. -/
def float? (s : String) : Option Float :=
  let (negative, rest) := sign s.toList
  let word := String.ofList (rest.map Char.toLower)
  if word = "inf" ∨ word = "infinity" then some (if negative then -(1.0 / 0.0) else 1.0 / 0.0)
  else if word = "nan" then some (0.0 / 0.0)
  else unsigned? negative rest

end Lookalike.Reading
