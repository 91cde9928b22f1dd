import Mathlib
import Lookalike.Proofs.Decimal.TotalOrder

/-! ### Rounding to natural numbers

A finite number that is not negative is a fraction. Its whole part is the floor of the fraction, and
the natural number nearest to it is the floor after one half was added. The numbers that are read
off the bit pattern are the same. -/

namespace Lookalike.Binary64

open Float.Model Float.Model.UnpackedFloat

/-- The natural number that a floating point number is made by making its fraction whole, at most
`2 ^ 64 - 1`. What is negative counts as zero, and so does what is no number. -/
def asNat (whole : ℚ → Nat) (x : Float) : Nat :=
  match x.toModel.unpack with
  | .notANumber => 0
  | .infinity .negative => 0
  | .infinity .positive => 2 ^ 64 - 1
  | .zero _ => 0
  | .finite .negative _ _ _ => 0
  | .finite .positive m e _ => min (whole (m * 2 ^ e)) (2 ^ 64 - 1)

/-- The whole part of a floating point number. -/
def wholePart (x : Float) : Nat :=
  asNat (fun q => ⌊q⌋₊) x

/-- The natural number that is nearest to a floating point number, a tie going up. -/
def nearestNat (x : Float) : Nat :=
  asNat (fun q => ⌊q + 1 / 2⌋₊) x

/-- The greatest number of 64 bits is one less than `2 ^ 64`. -/
lemma maxWord_eq : maxWord = 2 ^ 64 - 1 :=
  rfl

/-- A way to make quotients of natural numbers whole does so as a function of the fraction. -/
structure Cuts (cut : Nat → Nat → Nat) (whole : ℚ → Nat) : Prop where
  natCast (n : Nat) : whole n = n
  div (m : Nat) {unit : Nat} : 0 < unit → cut m unit = whole (m / unit)

/-- Quotients of natural numbers are cut off to their floors. -/
lemma cuts_div : Cuts (· / ·) (fun q => ⌊q⌋₊) where
  natCast n := Nat.floor_natCast n
  div m unit _ := (Nat.floor_div_eq_div m unit).symm

/-- Quotients of natural numbers are rounded by adding one half. -/
lemma cuts_round : Cuts (fun num den => (2 * num + den) / (2 * den)) (fun q => ⌊q + 1 / 2⌋₊) where
  natCast n := by
    rw [Nat.floor_eq_iff (by positivity)]
    constructor <;> linarith
  div m unit hunit := by
    have hne : (unit : ℚ) ≠ 0 := by positivity
    have hsum : (m : ℚ) / unit + 1 / 2 = ((2 * m + unit : ℕ) : ℚ) / (2 * unit : ℕ) := by
      push_cast
      field_simp
    rw [hsum, Nat.floor_div_eq_div]

/-- A number with a mantissa and an exponent is made whole as the fraction that it stands for. -/
lemma Cuts.toNatBy_of_decode_eq {cut : Nat → Nat → Nat} {whole : ℚ → Nat} (h : Cuts cut whole)
    {x : Float} {m : Nat} {e : Int} (hx : decode x = .finite false m e) :
    toNatBy cut x = min (whole (m * 2 ^ e)) (2 ^ 64 - 1) := by
  rw [toNatBy, hx, maxWord_eq]
  dsimp only
  rw [if_neg Bool.false_ne_true]
  split
  · rename_i he
    obtain ⟨n, rfl⟩ := Int.eq_ofNat_of_zero_le he
    have hcast : (m : ℚ) * 2 ^ (n : ℤ) = ((m * 2 ^ n : ℕ) : ℚ) := by
      push_cast
      rw [zpow_natCast]
    rw [hcast, h.natCast]
    rfl
  · rename_i he
    obtain ⟨n, rfl⟩ : ∃ n : ℕ, e = -n := ⟨(-e).toNat, by omega⟩
    have hcast : (m : ℚ) * 2 ^ (-(n : ℤ)) = (m : ℚ) / (2 ^ n : ℕ) := by
      rw [zpow_neg, zpow_natCast, ← div_eq_mul_inv]
      push_cast
      rfl
    rw [hcast, ← h.div m (Nat.two_pow_pos n)]
    simp [twoTo]

/-- The sign of a bit pattern is its greatest bit. -/
lemma testBit_eq_msb (w : UInt64) : w.toNat.testBit 63 = w.toBitVec.msb := by
  rw [BitVec.msb_eq_getLsbD_last, ← UInt64.toNat_toBitVec, BitVec.testBit_toNat]

/-- What a bit pattern stands for by its fields. -/
lemma decode_eq (x : Float) :
    decode x =
      if exponentOf x.toBits.toNat = 2047 then
        if fractionOf x.toBits.toNat = 0 then .infinite x.toBits.toBitVec.msb else .notANumber
      else if exponentOf x.toBits.toNat = 0 then
        .finite x.toBits.toBitVec.msb (fractionOf x.toBits.toNat) (-1074)
      else
        .finite x.toBits.toBitVec.msb (fractionOf x.toBits.toNat + 2 ^ 52)
          ((exponentOf x.toBits.toNat : Int) - 1075) := by
  rw [← testBit_eq_msb]
  rfl

/-- What a bit pattern is read as in parts, and what it stands for as a fraction. -/
inductive Shows : UnpackedFloat → Value → Prop where
  | notANumber : Shows .notANumber .notANumber
  | negativeInfinity : Shows (.infinity .negative) (.infinite true)
  | positiveInfinity : Shows (.infinity .positive) (.infinite false)
  | zero (s : Sign) (negative : Bool) : Shows (.zero s) (.finite negative 0 (-1074))
  | negative (m : Nat) (e : Int) (h : 0 < m) : Shows (.finite .negative m e h) (.finite true m e)
  | positive (m : Nat) (e : Int) (h : 0 < m) : Shows (.finite .positive m e h) (.finite false m e)

/-- The parts of a number and its fraction agree. -/
lemma shows_unpack (x : Float) : Shows x.toModel.unpack (decode x) := by
  have hplace : place x.toModel.unpack = _ := place_unpack x.toBits.toBitVec
  have hdecode := decode_eq x
  rw [UInt64.toNat_toBitVec, placeOfBits] at hplace
  generalize x.toBits.toBitVec.msb = sign at hplace hdecode
  generalize x.toModel.unpack = u at hplace
  rw [hdecode]
  -- The sign and the fields of the pattern settle the place, and the place settles the parts.
  cases sign with
  | false =>
    rw [if_neg Bool.false_ne_true] at hplace
    split_ifs at hplace ⊢ with hgreatest hzero hleast hzero <;>
      rcases u with (_ | _) | _ | (_ | _) | ⟨_ | _, m, e, h⟩ <;> simp [place] at hplace
    · exact .positiveInfinity
    · exact .notANumber
    · exact hzero ▸ .zero ..
    · exact hzero ▸ .zero ..
    · convert Shows.positive m e h using 2 <;> omega
    · convert Shows.positive m e h using 2 <;> omega
  | true =>
    rw [if_pos rfl] at hplace
    split_ifs at hplace ⊢ with hgreatest hzero hleast hzero <;>
      rcases u with (_ | _) | _ | (_ | _) | ⟨_ | _, m, e, h⟩ <;> simp [place, negPlace] at hplace
    · exact .negativeInfinity
    · exact .notANumber
    · exact hzero ▸ .zero ..
    · exact hzero ▸ .zero ..
    · convert Shows.negative m e h using 2 <;> omega
    · convert Shows.negative m e h using 2 <;> omega

/-- The natural number that is read off a bit pattern is that of the number. -/
lemma Cuts.toNatBy_eq_asNat {cut : Nat → Nat → Nat} {whole : ℚ → Nat} (h : Cuts cut whole)
    (x : Float) : toNatBy cut x = asNat whole x := by
  have hshows := shows_unpack x
  unfold asNat
  generalize hvalue : decode x = v at hshows
  generalize x.toModel.unpack = u at hshows
  cases hshows with
  | notANumber => rw [toNatBy, hvalue]
  | negativeInfinity =>
    rw [toNatBy, hvalue]
    rfl
  | positiveInfinity =>
    rw [toNatBy, hvalue]
    rfl
  | zero s negative =>
    cases negative with
    | true =>
      rw [toNatBy, hvalue]
      rfl
    | false =>
      have hzero : whole ((0 : ℕ) * 2 ^ (-1074 : ℤ)) = 0 := by
        rw [Nat.cast_zero, zero_mul, ← Nat.cast_zero, h.natCast]
      rw [h.toNatBy_of_decode_eq hvalue, hzero]
      rfl
  | negative m e hm =>
    rw [toNatBy, hvalue]
    rfl
  | positive m e hm => exact h.toNatBy_of_decode_eq hvalue

/-- Cutting a bit pattern off gives the whole part. -/
theorem floorNat_eq_wholePart (x : Float) : floorNat x = wholePart x :=
  cuts_div.toNatBy_eq_asNat x

/-- Rounding a bit pattern gives the nearest natural number. -/
theorem roundNat_eq_nearestNat (x : Float) : roundNat x = nearestNat x :=
  cuts_round.toNatBy_eq_asNat x

end Lookalike.Binary64
