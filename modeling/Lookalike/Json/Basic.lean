import Lookalike.Decimal.Shortest

/-! ### Values of the data format

A value keeps what its text says: numbers as they are written, the fields of an object in their
order and with repetitions, and texts whose escapes name no character as `unpaired`, since such a
text may be skipped but not read. -/

namespace Lookalike

/-- A number as written: digits before the point, digits after it, and the power of ten with its
sign, where the last two may be empty. -/
structure Numeral where
  negative : Bool
  whole : List Char
  fraction : List Char
  power : List Char
  deriving DecidableEq

/-- A value of the data format. -/
inductive Json where
  | null
  | bool (b : Bool)
  | number (n : Numeral)
  | text (s : String)
  | unpaired
  | array (items : List Json)
  | object (fields : List (String × Json))

namespace Numeral

/-- A natural number. -/
def ofNat (n : Nat) : Numeral :=
  ⟨false, Nat.toDigits 10 n, [], []⟩

/-- An integer. -/
def ofInt (i : Int) : Numeral :=
  ⟨i < 0, Nat.toDigits 10 i.natAbs, [], []⟩

/-- A finite floating point number, with the fewest digits that read back. -/
def ofFloat? (x : Float) : Option Numeral :=
  (Shortest.write? x).map fun (negative, w) => ⟨negative, w.whole, w.fraction, w.power⟩

/-- The text of a number. -/
def render (n : Numeral) : List Char :=
  (if n.negative then ['-'] else []) ++ n.whole ++
    (if n.fraction.isEmpty then [] else '.' :: n.fraction) ++
    (if n.power.isEmpty then [] else 'e' :: n.power)

/-- Whether a number is written without a point and without a power of ten. -/
def isWhole (n : Numeral) : Bool :=
  n.fraction.isEmpty && n.power.isEmpty

end Numeral

namespace Json

/-- A natural number. -/
def ofNat (n : Nat) : Json :=
  .number (.ofNat n)

/-- An integer. -/
def ofInt (i : Int) : Json :=
  .number (.ofInt i)

/-- A floating point number; one that is not finite has no value. -/
def ofFloat (x : Float) : Json :=
  match Numeral.ofFloat? x with
  | some n => .number n
  | none => .null

/-- The value of a field that may be absent. -/
def ofOption {α : Type} (f : α → Json) : Option α → Json
  | none => .null
  | some a => f a

/-- A list of texts. -/
def ofTexts (ss : List String) : Json :=
  .array (ss.map .text)

end Json

end Lookalike
