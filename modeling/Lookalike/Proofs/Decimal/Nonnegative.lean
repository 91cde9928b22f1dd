import Lookalike.Proofs.Decimal.Counts

/-! ### Floating point numbers that are not negative

Counts and what is computed from them by sums, by products with positive numbers and by quotients of
positive numbers are zero, positive or infinite, but never the value that is no number: nothing
infinite is subtracted, and no zero is divided by zero or multiplied by infinity. -/

namespace Lookalike.Binary64

open Float.Model Float.Model.UnpackedFloat

/-! #### Parts of numbers -/

/-- A number is zero, positive or infinite, and its sign is not set. -/
inductive IsNonnegative : UnpackedFloat → Prop where
  | zero : IsNonnegative (.zero .positive)
  | finite (mantissa : Nat) (exponent : Int) (h : 0 < mantissa) :
    IsNonnegative (.finite .positive mantissa exponent h)
  | infinity : IsNonnegative (.infinity .positive)

/-- A number is positive and not infinite. -/
inductive IsPositive : UnpackedFloat → Prop where
  | finite (mantissa : Nat) (exponent : Int) (h : 0 < mantissa) :
    IsPositive (.finite .positive mantissa exponent h)

/-- A positive number is not negative. -/
lemma IsPositive.isNonnegative {a : UnpackedFloat} (h : IsPositive a) : IsNonnegative a := by
  cases h
  exact .finite ..

/-- A number that is not negative is a number. -/
lemma IsNonnegative.isNaN_eq_false {a : UnpackedFloat} (h : IsNonnegative a) : a.isNaN = false := by
  cases h <;> rfl

/-- Rounding a positive number gives zero or a positive number. -/
lemma isNonnegative_roundWithAccuracy (m : Nat) (e : Int) (acc : Accuracy) :
    IsNonnegative (roundWithAccuracy .binary64 .positive m e acc) := by
  unfold roundWithAccuracy
  dsimp only
  split
  · exact .zero
  · exact .finite ..

/-- A natural number as a mantissa is rounded to zero or to a positive number. -/
lemma isNonnegative_normalize (m : Nat) (e : Int) :
    IsNonnegative (UnpackedFloat.normalize .binary64 m e .positive) := by
  unfold UnpackedFloat.normalize
  split
  · rename_i hlt
    exact absurd (Int.compare_eq_lt.1 hlt) (by omega)
  · exact .zero
  · exact isNonnegative_roundWithAccuracy ..

/-- The sum of two numbers that are not negative is not. -/
lemma IsNonnegative.add {a b : UnpackedFloat} (ha : IsNonnegative a) (hb : IsNonnegative b) :
    IsNonnegative (UnpackedFloat.add .binary64 a b) := by
  cases ha with
  | zero => cases hb <;> constructor
  | infinity => cases hb <;> constructor
  | finite m e h =>
    cases hb with
    | zero => exact .finite ..
    | infinity => exact .infinity
    | finite m' e' h' => exact isNonnegative_normalize (_ + _) _

/-- The product of a positive number and one that is not negative is not negative. -/
lemma IsPositive.mul {a b : UnpackedFloat} (ha : IsPositive a) (hb : IsNonnegative b) :
    IsNonnegative (UnpackedFloat.mul .binary64 a b) := by
  cases ha
  cases hb with
  | zero => exact .zero
  | infinity => exact .infinity
  | finite m e h => exact isNonnegative_roundWithAccuracy ..

/-- The quotient of a number that is not negative by a positive one is not negative. -/
lemma IsNonnegative.div {a b : UnpackedFloat} (ha : IsNonnegative a) (hb : IsPositive b) :
    IsNonnegative (UnpackedFloat.div .binary64 a b) := by
  cases hb
  cases ha with
  | zero => exact .zero
  | infinity => exact .infinity
  | finite m e h => exact isNonnegative_roundWithAccuracy ..

/-- The quotient of a positive number by one that is not negative is not negative. -/
lemma IsPositive.div {a b : UnpackedFloat} (ha : IsPositive a) (hb : IsNonnegative b) :
    IsNonnegative (UnpackedFloat.div .binary64 a b) := by
  cases ha
  cases hb with
  | zero => exact .infinity
  | infinity => exact .zero
  | finite m e h => exact isNonnegative_roundWithAccuracy ..

/-! #### Packed numbers -/

/-- What is packed without a sign, and with an exponent that is not the greatest, is unpacked as
zero or as a positive number. -/
lemma isNonnegative_unpack_packComponents {e : BitVec 11} (he : e ≠ -1#11) (m : BitVec 52) :
    IsNonnegative (UnpackedFloat.unpack .binary64 (packComponents .binary64 .positive e m)) := by
  unfold UnpackedFloat.unpack
  simp only [unpackMantissa_packComponents, unpackExponent_packComponents, Full.unpackSign_positive]
  rw [if_neg he]
  split
  · split
    · exact .zero
    · exact .finite ..
  · exact .finite ..

/-- An exponent below the greatest one that fits is not the greatest one. -/
lemma ofNat_ne_of_lt {b : Nat} (h : ¬ 2 ^ 11 ≤ b + 1) : BitVec.ofNat 11 b ≠ -1#11 := by
  intro heq
  have htoNat := congrArg BitVec.toNat heq
  rw [BitVec.toNat_ofNat, Nat.mod_eq_of_lt (by omega)] at htoNat
  exact absurd htoNat (by change ¬ b = 2047; omega)

/-- A number that is not negative is still not negative after it was packed. -/
lemma IsNonnegative.unpack_pack {a : UnpackedFloat} (h : IsNonnegative a) :
    IsNonnegative (Float.Model.pack a).unpack := by
  cases h with
  | zero => exact .zero
  | infinity => exact .infinity
  | finite m e h =>
    change IsNonnegative (UnpackedFloat.unpack .binary64 (UnpackedFloat.pack .binary64 _))
    unfold UnpackedFloat.pack
    dsimp only
    split
    · exact .infinity
    · rename_i hlt
      split
      · exact isNonnegative_unpack_packComponents (ofNat_ne_of_lt hlt) _
      · exact isNonnegative_unpack_packComponents (by decide) _

/-! #### Floating point numbers -/

/-- A floating point number is zero, positive or infinite. -/
def Nonnegative (x : Float) : Prop :=
  IsNonnegative x.toModel.unpack

/-- A floating point number is positive and not infinite. -/
def Positive (x : Float) : Prop :=
  IsPositive x.toModel.unpack

variable {x y : Float}

/-- A positive floating point number is not negative. -/
lemma Positive.nonnegative (hx : Positive x) : Nonnegative x :=
  IsPositive.isNonnegative hx

/-- The sum of two numbers that are not negative is not. -/
lemma Nonnegative.add (hx : Nonnegative x) (hy : Nonnegative y) : Nonnegative (x + y) :=
  (IsNonnegative.add hx hy).unpack_pack

/-- The product of a positive number and one that is not negative is not negative. -/
lemma Positive.mul (hx : Positive x) (hy : Nonnegative y) : Nonnegative (x * y) :=
  (IsPositive.mul hx hy).unpack_pack

/-- The quotient of a number that is not negative by a positive one is not negative. -/
lemma Nonnegative.div (hx : Nonnegative x) (hy : Positive y) : Nonnegative (x / y) :=
  (IsNonnegative.div hx hy).unpack_pack

/-- The quotient of a positive number by one that is not negative is not negative. -/
lemma Positive.div (hx : Positive x) (hy : Nonnegative y) : Nonnegative (x / y) :=
  (IsPositive.div hx hy).unpack_pack

/-- A floating point number that is not negative is a number. -/
lemma Nonnegative.isNaN_eq_false (hx : Nonnegative x) : x.isNaN = false :=
  IsNonnegative.isNaN_eq_false hx

/-- A number with a full mantissa is positive. -/
lemma Full.positive (a : Full) : Positive a.toFloat := by
  rw [Positive, a.unpack_toFloat]
  exact .finite ..

/-- No count is negative. -/
lemma nonnegative_ofNat (n : Nat) : Nonnegative (Float.ofNat n) := by
  rcases Nat.eq_zero_or_pos n with rfl | hpos
  · exact .zero
  · by_cases hn : n < 2 ^ 53
    · rw [ofNat_eq_toFloat hpos hn]
      exact (Full.positive _).nonnegative
    · obtain heq | ⟨a, heq, -⟩ := ofNat_eq_of_le (Nat.not_lt.1 hn)
      · rw [heq]
        exact .infinity
      · rw [heq]
        exact a.positive.nonnegative

/-- A positive count of at most 64 bits is positive. -/
lemma positive_ofNat {n : Nat} (hpos : 0 < n) (h : n < 2 ^ 64) : Positive (Float.ofNat n) := by
  obtain ⟨a, heq⟩ := exists_ofNat_eq_toFloat hpos h
  rw [heq]
  exact a.positive

end Lookalike.Binary64
