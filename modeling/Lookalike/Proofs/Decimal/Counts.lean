import Mathlib
import Lookalike.Decimal.Binary64

/-! ### Counts as floating point numbers

A count of at most 53 bits is a floating point number, and counts are compared as such as they are
compared as natural numbers. A greater count is rounded, but never below the counts of 53 bits. To
multiply such a number by one, or to divide it by itself, is exact. -/

namespace Lookalike.Binary64

open Float.Model Float.Model.UnpackedFloat

/-! #### Full mantissas -/

/-- A positive number `mantissa · 2^exponent` whose mantissa fills its 53 bits. -/
structure Full where
  mantissa : Nat
  exponent : Int
  log2_eq : mantissa.log2 = 52
  least_le : -1074 ≤ exponent
  le_greatest : exponent ≤ 971

namespace Full

variable (x y : Full)

/-- A full mantissa is at least `2^52`. -/
lemma le_mantissa : 2 ^ 52 ≤ x.mantissa := by
  have h : x.mantissa ≠ 0 := fun h => by
    have hlog := x.log2_eq
    rw [h] at hlog
    exact absurd hlog (by decide)
  rw [← x.log2_eq]
  exact Nat.log2_self_le h

/-- A full mantissa is less than `2^53`. -/
lemma mantissa_lt : x.mantissa < 2 ^ 53 := by
  have h : x.mantissa < 2 ^ (x.mantissa.log2 + 1) := Nat.lt_log2_self
  rwa [x.log2_eq] at h

/-- A full mantissa is positive. -/
lemma pos : 0 < x.mantissa :=
  Nat.lt_of_lt_of_le (by decide) x.le_mantissa

/-- The number with its parts. -/
def unpacked : UnpackedFloat :=
  .finite .positive x.mantissa x.exponent x.pos

/-- The number as a floating point number. -/
def toFloat : Float :=
  ⟨Float.Model.pack x.unpacked⟩

/-- The exponent with its bias fits into its 11 bits, and is neither the least nor the greatest
that does. -/
lemma exists_biased : ∃ b : Nat, x.exponent + 1075 = b ∧ 1 ≤ b ∧ b < 2047 := by
  have hleast := x.least_le
  have hgreatest := x.le_greatest
  exact ⟨(x.exponent + 1075).toNat, by omega, by omega, by omega⟩

/-- The sign of a packed positive number. -/
lemma unpackSign_positive (e : BitVec 11) (m : BitVec 52) :
    Sign.ofBitVec (unpackSign (packComponents .binary64 .positive e m)) = .positive := by
  simp only [unpackSign, packComponents, BitVec.extractLsb]
  rw [BitVec.extractLsb'_append_eq_of_le (by decide),
    BitVec.extractLsb'_append_eq_of_le (by decide)]
  rfl

/-- The implicit bit in front of a packed mantissa makes it full again. -/
lemma toNat_append_mantissa : (1#1 ++ BitVec.ofNat 52 x.mantissa).toNat = x.mantissa := by
  have hleast := x.le_mantissa
  have hlt := x.mantissa_lt
  rw [BitVec.toNat_append, ← Nat.shiftLeft_add_eq_or_of_lt (BitVec.isLt _), BitVec.toNat_ofNat,
    BitVec.toNat_ofNat, Nat.shiftLeft_eq]
  omega

/-- A number with a full mantissa is not changed by being packed. -/
lemma unpack_toFloat : x.toFloat.toModel.unpack = x.unpacked := by
  obtain ⟨b, hb, hpos, hlt⟩ := x.exists_biased
  have hbias : (x.exponent + Format.binary64.exponentBias +
      Format.binary64.mantissaBitsWithoutImplicit).toNat = b := by
    change (x.exponent + (1023 : Nat) + (52 : Nat)).toNat = b
    omega
  have hexponent : (BitVec.ofNat 11 b).toNat = b := by
    rw [BitVec.toNat_ofNat, Nat.mod_eq_of_lt (by omega)]
  -- The exponent is packed neither like those of infinities nor like those of small numbers.
  have hfinite : BitVec.ofNat 11 b ≠ -1#11 := by
    intro heq
    rw [heq] at hexponent
    exact absurd hexponent (by change ¬ 2047 = b; omega)
  have hnormal : BitVec.ofNat 11 b ≠ 0#11 := by
    intro heq
    rw [heq] at hexponent
    exact absurd hexponent (by change ¬ 0 = b; omega)
  change UnpackedFloat.unpack .binary64 (UnpackedFloat.pack .binary64 x.unpacked) = _
  rw [unpacked, UnpackedFloat.pack]
  simp only [hbias, x.log2_eq]
  rw [if_neg (by change ¬ 2048 ≤ b + 1; omega), if_pos (by decide), UnpackedFloat.unpack]
  simp only [unpackMantissa_packComponents, unpackExponent_packComponents, unpackSign_positive]
  rw [if_neg hfinite, if_neg hnormal]
  have he : ((BitVec.ofNat 11 b).toNat : Int) - (Format.binary64.exponentBias +
      Format.binary64.mantissaBitsWithoutImplicit) = x.exponent := by
    rw [hexponent]
    change (b : Int) - ((1023 : Nat) + (52 : Nat)) = x.exponent
    omega
  simp only [he, x.toNat_append_mantissa]

end Full

/-! #### Rounding -/

/-- A shift by `k` bits makes a number `k` bits longer. -/
lemma log2_mul_two_pow {m : Nat} (hm : 0 < m) (k : Nat) : (m * 2 ^ k).log2 = m.log2 + k := by
  rw [Nat.log2_eq_iff (Nat.ne_of_gt (Nat.mul_pos hm (Nat.two_pow_pos k)))]
  constructor
  · rw [Nat.pow_add]
    exact Nat.mul_le_mul_right _ (Nat.log2_self_le (Nat.ne_of_gt hm))
  · rw [Nat.add_right_comm, Nat.pow_add]
    exact Nat.mul_lt_mul_of_pos_right Nat.lt_log2_self (Nat.two_pow_pos k)

/-- The mantissa that is left by a shift to the right. -/
lemma mantissa_shiftRight (em : ExtendedMantissa) (k : Nat) :
    (em >>> k).mantissa = em.mantissa / 2 ^ k := by
  induction k with
  | zero => exact (Nat.div_one _).symm
  | succ k ih =>
    change (em >>> k).mantissa / 2 = _
    rw [ih, Nat.div_div_eq_div_mul, Nat.pow_succ]

/-- A shift back to the right loses nothing. -/
lemma shiftRight_mul_two_pow (m k : Nat) :
    ExtendedMantissa.mk (m * 2 ^ k) false false >>> k = ⟨m, false, false⟩ := by
  induction k generalizing m with
  | zero => simp [HShiftRight.hShiftRight, Nat.repeat]
  | succ k ih =>
    have hmul : m * 2 ^ (k + 1) = m * 2 * 2 ^ k := by
      rw [Nat.pow_succ, Nat.mul_comm (2 ^ k) 2, Nat.mul_assoc]
    change (ExtendedMantissa.mk (m * 2 ^ (k + 1)) false false >>> k).shiftRightOne = _
    rw [hmul, ih]
    simp [ExtendedMantissa.shiftRightOne]

/-- Rounding adds at most one. -/
lemma roundedMantissa_bounds (em : ExtendedMantissa) :
    em.mantissa ≤ em.roundedMantissa ∧ em.roundedMantissa ≤ em.mantissa + 1 := by
  obtain ⟨m, round, sticky⟩ := em
  cases round <;> cases sticky <;>
    simp [ExtendedMantissa.roundedMantissa, ExtendedMantissa.accuracy, Accuracy.roundToNearestEven]
  omega

/-- A mantissa that is `k` bits too long is shifted by `k` bits. -/
lemma shiftToTargetExponent_eq {m k : Nat} {e : Int} (hm : m.log2 = 52 + k)
    (he : -1074 ≤ e + k) :
    shiftToTargetExponent .binary64 m e .exact =
      (ExtendedMantissa.mk m false false >>> k, e + k) := by
  have htarget : Format.binary64.targetExponent (totalExponent m e) = e + k := by
    change max ((m.log2 : Int) + 1 + e - (53 : Nat)) (-1074) = e + k
    omega
  have hshift : (e + k - e).toNat = k := by omega
  rw [shiftToTargetExponent, htarget, shiftToExponent]
  simp only [hshift]
  rfl

/-- What is rounded is shifted, rounded, and shifted again if the rounding made it longer. -/
lemma roundWithAccuracy_eq_of_shifts {m : Nat} {e e' e'' : Int} {em em' : ExtendedMantissa}
    (hfirst : shiftToTargetExponent .binary64 m e .exact = (em, e'))
    (hsecond : shiftToTargetExponent .binary64 em.roundedMantissa e' .exact = (em', e''))
    (h : 0 < em'.mantissa) :
    roundWithAccuracy .binary64 .positive m e .exact = .finite .positive em'.mantissa e'' h := by
  simp only [roundWithAccuracy, hfirst, hsecond]
  rw [dif_neg (Nat.ne_of_gt h)]

/-- A mantissa of 53 bits is rounded to itself, also if it was shifted to the left. -/
lemma Full.roundWithAccuracy_eq (x : Full) (k : Nat) :
    roundWithAccuracy .binary64 .positive (x.mantissa * 2 ^ k) (x.exponent - k) .exact =
      x.unpacked := by
  have hleast := x.least_le
  have hlong : (x.mantissa * 2 ^ k).log2 = 52 + k := by
    rw [log2_mul_two_pow x.pos, x.log2_eq]
  have hback : x.exponent - k + k = x.exponent := by omega
  have hfirst := shiftToTargetExponent_eq (e := x.exponent - k) hlong (by omega)
  rw [shiftRight_mul_two_pow, hback] at hfirst
  have hsecond := shiftToTargetExponent_eq (k := 0) (e := x.exponent) x.log2_eq (by omega)
  rw [Int.natCast_zero, Int.add_zero] at hsecond
  exact roundWithAccuracy_eq_of_shifts hfirst hsecond x.pos

/-- A longer mantissa is rounded to a full one, with an exponent that is not less, and greater by
at most one. -/
lemma exists_roundWithAccuracy_eq {m k : Nat} {e : Int} (hm : m.log2 = 52 + k)
    (he : -1074 ≤ e + k) :
    ∃ m' e' h, roundWithAccuracy .binary64 .positive m e .exact = .finite .positive m' e' h ∧
      m'.log2 = 52 ∧ e + k ≤ e' ∧ e' ≤ e + k + 1 := by
  have hfirst := shiftToTargetExponent_eq hm he
  have hpos : m ≠ 0 := by
    rintro rfl
    exact absurd hm (by change ¬ 0 = 52 + k; omega)
  have hbounds := (Nat.log2_eq_iff hpos).1 hm
  -- The shifted mantissa has 53 bits, and rounding may carry it over to `2^53`.
  have hleast : 2 ^ 52 ≤ m / 2 ^ k := by
    rw [Nat.le_div_iff_mul_le (Nat.two_pow_pos k), ← Nat.pow_add]
    exact hbounds.1
  have hlt : m / 2 ^ k < 2 ^ 53 := by
    rw [Nat.div_lt_iff_lt_mul (Nat.two_pow_pos k), ← Nat.pow_add, Nat.add_comm 53 k]
    exact Nat.lt_of_lt_of_le hbounds.2 (Nat.pow_le_pow_right Nat.two_pos (by omega))
  obtain ⟨hle, hadd⟩ := roundedMantissa_bounds (ExtendedMantissa.mk m false false >>> k)
  rw [mantissa_shiftRight] at hle hadd
  change m / 2 ^ k ≤ _ at hle
  change _ ≤ m / 2 ^ k + 1 at hadd
  generalize hr : (ExtendedMantissa.mk m false false >>> k).roundedMantissa = r at hle hadd
  by_cases hcarry : r = 2 ^ 52 * 2 ^ 1
  · have hlong : (2 ^ 52 * 2 ^ 1 : Nat).log2 = 52 + 1 := by decide
    have hsecond := shiftToTargetExponent_eq (e := e + k) hlong (by omega)
    rw [shiftRight_mul_two_pow, ← hcarry, ← hr] at hsecond
    exact ⟨_, _, by decide, roundWithAccuracy_eq_of_shifts hfirst hsecond (by decide), by decide,
      by omega, by omega⟩
  · have hfull : r.log2 = 52 + 0 := (Nat.log2_eq_iff (by omega)).2 ⟨by omega, by omega⟩
    have hsecond := shiftToTargetExponent_eq (e := e + k) hfull (by omega)
    rw [← hr] at hsecond
    have hr' : 0 < r := by omega
    exact ⟨_, _, hr ▸ hr', roundWithAccuracy_eq_of_shifts hfirst hsecond (hr ▸ hr'), hr ▸ hfull,
      by omega, by omega⟩

/-! #### One -/

namespace Full

/-- The number one. -/
def one : Full :=
  ⟨2 ^ 52, -52, by decide, by decide, by decide⟩

/-- The number one as a floating point number. -/
lemma toFloat_one : one.toFloat = 1.0 := by
  rfl

variable (x y : Full)

/-- To multiply by one changes nothing. -/
lemma toFloat_mul_one : x.toFloat * one.toFloat = x.toFloat := by
  change (⟨Float.Model.pack (UnpackedFloat.mul .binary64 x.toFloat.toModel.unpack
    one.toFloat.toModel.unpack)⟩ : Float) = _
  rw [unpack_toFloat, unpack_toFloat]
  exact congrArg (fun u => (⟨Float.Model.pack u⟩ : Float)) (x.roundWithAccuracy_eq 52)

/-- To divide a number by itself gives one. -/
lemma toFloat_div_self : x.toFloat / x.toFloat = one.toFloat := by
  have hcore : divCore .binary64 x.mantissa x.exponent x.mantissa x.exponent =
      (one.mantissa * 2 ^ 1, one.exponent - 1, .exact) := by
    have htarget : Format.binary64.targetExponent (totalExponent x.mantissa x.exponent -
        totalExponent x.mantissa x.exponent) = -53 := by
      rw [Int.sub_self]
      rfl
    have hshift : x.mantissa <<< (0 - min 0 (-53) : Int).toNat = 2 ^ 53 * x.mantissa := by
      rw [Nat.shiftLeft_eq, Nat.mul_comm]
      rfl
    rw [divCore, htarget, Int.sub_self]
    simp only [hshift, Nat.mul_div_cancel _ x.pos, Nat.mul_mod_left]
    rfl
  change (⟨Float.Model.pack (UnpackedFloat.div .binary64 x.toFloat.toModel.unpack
    x.toFloat.toModel.unpack)⟩ : Float) = _
  rw [unpack_toFloat]
  simp only [unpacked, UnpackedFloat.div, hcore]
  exact congrArg (fun u => (⟨Float.Model.pack u⟩ : Float)) (one.roundWithAccuracy_eq 1)

/-- Numbers with full mantissas are compared by their exponents first. -/
lemma compare_unpacked :
    x.unpacked.compare y.unpacked =
      some ((compare x.exponent y.exponent).then (compare x.mantissa y.mantissa)) :=
  rfl

end Full

/-! #### Counts -/

/-- A positive count of at most 53 bits as a number with a full mantissa. -/
def Full.ofNat (n : Nat) (hpos : 0 < n) (h : n < 2 ^ 53) : Full where
  mantissa := n * 2 ^ (52 - n.log2)
  exponent := n.log2 - 52
  log2_eq := by
    have hlog := (Nat.log2_lt (Nat.ne_of_gt hpos)).2 h
    rw [log2_mul_two_pow hpos]
    omega
  least_le := by omega
  le_greatest := by
    have hlog := (Nat.log2_lt (Nat.ne_of_gt hpos)).2 h
    omega

/-- A positive count of at most 53 bits is a floating point number. -/
lemma ofNat_eq_toFloat {n : Nat} (hpos : 0 < n) (h : n < 2 ^ 53) :
    Float.ofNat n = (Full.ofNat n hpos h).toFloat := by
  have hlog := (Nat.log2_lt (Nat.ne_of_gt hpos)).2 h
  have hword : n.toUInt64.toFloat = (Full.ofNat n hpos h).toFloat := by
    have hsize : n.toUInt64.toNat = n := Nat.mod_eq_of_lt (by omega)
    have hpositive : compare (n : Int) 0 = .gt := Int.compare_eq_gt.2 (by omega)
    have htarget : Format.binary64.targetExponent (totalExponent n 0) = n.log2 - 52 := by
      change max ((n.log2 : Int) + 1 + 0 - (53 : Nat)) (-1074) = n.log2 - 52
      omega
    have hshift : (0 - ((n.log2 : Int) - 52)).toNat = 52 - n.log2 := by omega
    change (⟨Float.Model.pack (UnpackedFloat.normalize .binary64 (n.toUInt64.toNat : Nat) 0
      .positive)⟩ : Float) = _
    rw [hsize, UnpackedFloat.normalize, hpositive]
    have hexponent : (0 : Int) - (52 - n.log2 : Nat) = n.log2 - 52 := by omega
    simp only [Int.toNat_natCast, UnpackedFloat.round, htarget, decreaseExponent, hshift,
      Nat.shiftLeft_eq, hexponent]
    have hround := (Full.ofNat n hpos h).roundWithAccuracy_eq 0
    rw [Nat.pow_zero, Nat.mul_one, Int.natCast_zero, Int.sub_zero] at hround
    exact congrArg (fun u => (⟨Float.Model.pack u⟩ : Float)) hround
  change Float.ofScientific n false 0 = _
  rw [Float.ofScientific, dif_pos ⟨h, by decide⟩]
  simp only [hword]
  exact (Full.ofNat n hpos h).toFloat_mul_one

/-- A number whose exponent is too great is packed as infinity. -/
lemma pack_of_lt_exponent {m : Nat} {e : Int} (h : 0 < m) (he : 971 < e) :
    Float.Model.pack (.finite .positive m e h) = Float.Model.pack (.infinity .positive) := by
  have hbias : 2 ^ 11 ≤ (e + (1023 : Nat) + (52 : Nat)).toNat + 1 := by omega
  have hpack : UnpackedFloat.pack .binary64 (.finite .positive m e h) =
      UnpackedFloat.pack .binary64 (.infinity .positive) := if_pos hbias
  simp only [Float.Model.pack, hpack]

/-- A greater count is rounded to 53 bits before it is packed. -/
lemma exists_ofNat_eq_pack {n : Nat} (h : 2 ^ 53 ≤ n) :
    ∃ m e hm, Float.ofNat n = ⟨Float.Model.pack (.finite .positive m e hm)⟩ ∧
      m.log2 = 52 ∧ 0 < e ∧ e ≤ n.log2 - 51 := by
  have hpos : 0 < n := by omega
  have hlog : 53 ≤ n.log2 := (Nat.le_log2 (Nat.ne_of_gt hpos)).2 h
  have hlong : (n <<< 53 * 10 ^ 0).log2 = 52 + (n.log2 + 1) := by
    rw [Nat.pow_zero, Nat.mul_one, Nat.shiftLeft_eq, log2_mul_two_pow hpos]
    omega
  have hround : Float.ofNat n = ⟨Float.Model.pack
      (roundWithAccuracy .binary64 .positive (n <<< 53 * 10 ^ 0) (-53 + 0) .exact)⟩ := by
    change Float.ofScientific n false 0 = _
    rw [Float.ofScientific, dif_neg (by omega)]
    change (⟨Float.Model.pack (UnpackedFloat.ofScientific .binary64 n 0)⟩ : Float) = _
    rw [UnpackedFloat.ofScientific, dif_neg (Nat.ne_of_gt hpos), if_neg (by decide),
      if_neg (by change ¬ (0 : Int) < -(2 ^ 11 + n.log2); omega), if_pos (by decide)]
    rfl
  obtain ⟨m, e, hm, heq, hfull, hleast, hgreatest⟩ :=
    exists_roundWithAccuracy_eq (e := -53 + 0) hlong (by omega)
  exact ⟨m, e, hm, by rw [hround, heq], hfull, by omega, by omega⟩

/-- A greater count is infinite, or a number with a full mantissa and a positive exponent. -/
lemma ofNat_eq_of_le {n : Nat} (h : 2 ^ 53 ≤ n) :
    Float.ofNat n = ⟨Float.Model.pack (.infinity .positive)⟩ ∨
      ∃ x : Full, Float.ofNat n = x.toFloat ∧ 0 < x.exponent := by
  obtain ⟨m, e, hm, heq, hfull, hexponent, -⟩ := exists_ofNat_eq_pack h
  by_cases hgreat : e ≤ 971
  · exact .inr ⟨⟨m, e, hfull, by omega, hgreat⟩, heq, hexponent⟩
  · exact .inl (by rw [heq, pack_of_lt_exponent hm (by omega)])

/-- A positive count of at most 64 bits is a number with a full mantissa. -/
lemma exists_ofNat_eq_toFloat {n : Nat} (hpos : 0 < n) (h : n < 2 ^ 64) :
    ∃ x : Full, Float.ofNat n = x.toFloat := by
  by_cases hn : n < 2 ^ 53
  · exact ⟨_, ofNat_eq_toFloat hpos hn⟩
  · obtain ⟨m, e, hm, heq, hfull, hleast, hgreatest⟩ := exists_ofNat_eq_pack (Nat.not_lt.1 hn)
    have hlog := (Nat.log2_lt (Nat.ne_of_gt hpos)).2 h
    exact ⟨⟨m, e, hfull, by omega, by omega⟩, heq⟩

/-! #### Comparing counts -/

/-- The comparison of two numbers does not depend on which of them comes first. -/
lemma compare_swap (a b : UnpackedFloat) : b.compare a = (a.compare b).map Ordering.swap := by
  cases a with
  | notANumber => cases b <;> rfl
  | infinity s => cases b <;> cases s <;> first | rfl | (rename_i t; cases t <;> rfl)
  | zero s =>
    cases b with
    | notANumber | zero t => rfl
    | infinity t => cases t <;> rfl
    | finite t m e h => cases t <;> rfl
  | finite s m e h =>
    cases b with
    | notANumber => cases s <;> rfl
    | infinity t => cases s <;> cases t <;> rfl
    | zero t => cases s <;> rfl
    | finite t m' e' h' =>
      cases s <;> cases t <;>
        simp [UnpackedFloat.compare, Ordering.swap_then, Int.compare_swap, Nat.compare_swap]

/-- A number that is at most another one is not exceeded by it. -/
lemma not_lt_of_le {x y : Float} (h : x ≤ y) : ¬ y < x := by
  intro hlt
  change Float.le x y = true at h
  change Float.lt y x = true at hlt
  rw [Float.le, decide_eq_true_eq] at h
  rw [Float.lt, decide_eq_true_eq] at hlt
  change (x.toModel.unpack.compare y.toModel.unpack).any (·.isLE) = true at h
  change (y.toModel.unpack.compare x.toModel.unpack == some .lt) = true at hlt
  rw [compare_swap, beq_iff_eq, Option.map_eq_some_iff] at hlt
  obtain ⟨o, ho, hswap⟩ := hlt
  rw [ho, Option.any_some] at h
  cases o <;> cases hswap
  cases h

/-- A shift by `k` bits does not change how two numbers compare. -/
lemma compare_mul_two_pow (m n k : Nat) : compare (m * 2 ^ k) (n * 2 ^ k) = compare m n := by
  have hpos := Nat.two_pow_pos k
  rcases Nat.lt_trichotomy m n with hlt | rfl | hgt
  · rw [Nat.compare_eq_lt.2 hlt, Nat.compare_eq_lt.2 (Nat.mul_lt_mul_of_pos_right hlt hpos)]
  · rw [Nat.compare_eq_eq.2 rfl, Nat.compare_eq_eq.2 rfl]
  · rw [Nat.compare_eq_gt.2 hgt, Nat.compare_eq_gt.2 (Nat.mul_lt_mul_of_pos_right hgt hpos)]

/-- A number with fewer bits is less. -/
lemma lt_of_log2_lt {m n : Nat} (hn : 0 < n) (h : m.log2 < n.log2) : m < n :=
  calc m < 2 ^ (m.log2 + 1) := Nat.lt_log2_self
    _ ≤ 2 ^ n.log2 := Nat.pow_le_pow_right Nat.two_pos h
    _ ≤ n := Nat.log2_self_le (Nat.ne_of_gt hn)

/-- Two positive counts of at most 53 bits are compared by their lengths first. -/
lemma compare_ofNat_of_pos {m n : Nat} (hm : 0 < m) (hm' : m < 2 ^ 53) (hn : 0 < n)
    (hn' : n < 2 ^ 53) :
    (Full.ofNat m hm hm').unpacked.compare (Full.ofNat n hn hn').unpacked = some (compare m n) := by
  rw [Full.compare_unpacked]
  simp only [Full.ofNat]
  rcases Nat.lt_trichotomy m.log2 n.log2 with hlt | heq | hgt
  · rw [Int.compare_eq_lt.2 (by omega), Nat.compare_eq_lt.2 (lt_of_log2_lt hn hlt)]
    rfl
  · rw [heq, Int.compare_eq_eq.2 rfl, compare_mul_two_pow]
    rfl
  · rw [Int.compare_eq_gt.2 (by omega), Nat.compare_eq_gt.2 (lt_of_log2_lt hm hgt)]
    rfl

/-- A count of more than 53 bits is greater than one of at most 53 bits. -/
lemma compare_ofNat_of_le {n c : Nat} (hn : 2 ^ 53 ≤ n) (hpos : 0 < c) (hc : c < 2 ^ 53) :
    (Float.ofNat n).toModel.unpack.compare (Full.ofNat c hpos hc).unpacked = some .gt := by
  obtain heq | ⟨x, heq, hx⟩ := ofNat_eq_of_le hn
  · rw [heq]
    rfl
  · have hexponent : (Full.ofNat c hpos hc).exponent < x.exponent := by
      have hlog := (Nat.log2_lt (Nat.ne_of_gt hpos)).2 hc
      simp only [Full.ofNat]
      omega
    rw [heq, Full.unpack_toFloat, Full.compare_unpacked, Int.compare_eq_gt.2 hexponent]
    rfl

/-- A positive count is greater than zero. -/
lemma compare_ofNat_zero {n : Nat} (hpos : 0 < n) :
    (Float.ofNat n).toModel.unpack.compare (.zero .positive) = some .gt := by
  by_cases hn : n < 2 ^ 53
  · rw [ofNat_eq_toFloat hpos hn, Full.unpack_toFloat]
    rfl
  · obtain heq | ⟨x, heq, -⟩ := ofNat_eq_of_le (Nat.not_lt.1 hn)
    · rw [heq]
      rfl
    · rw [heq, Full.unpack_toFloat]
      rfl

/-- As a floating point number, a positive count is greater than zero. -/
lemma zero_lt_ofNat {n : Nat} (hpos : 0 < n) : (0.0 : Float) < Float.ofNat n := by
  change Float.lt 0.0 (Float.ofNat n) = true
  rw [Float.lt, decide_eq_true_eq]
  change ((0.0 : Float).toModel.unpack.compare (Float.ofNat n).toModel.unpack == some .lt) = true
  have hzero : (0.0 : Float).toModel.unpack = .zero .positive := rfl
  rw [hzero, compare_swap, compare_ofNat_zero hpos]
  rfl

/-- A count is compared with one of at most 53 bits as they are compared as natural numbers. -/
lemma compare_ofNat {c : Nat} (hc : c < 2 ^ 53) (n : Nat) :
    (Float.ofNat n).toModel.unpack.compare (Float.ofNat c).toModel.unpack =
      some (compare n c) := by
  have hzero : (Float.ofNat 0).toModel.unpack = .zero .positive := rfl
  rcases Nat.eq_zero_or_pos n with rfl | hn
  · rcases Nat.eq_zero_or_pos c with rfl | hpos
    · rfl
    · rw [hzero, compare_swap, compare_ofNat_zero hpos, Nat.compare_eq_lt.2 hpos]
      rfl
  · rcases Nat.eq_zero_or_pos c with rfl | hpos
    · rw [hzero, compare_ofNat_zero hn, Nat.compare_eq_gt.2 hn]
    · rw [ofNat_eq_toFloat hpos hc, Full.unpack_toFloat]
      by_cases hn' : n < 2 ^ 53
      · rw [ofNat_eq_toFloat hn hn', Full.unpack_toFloat, compare_ofNat_of_pos]
      · rw [compare_ofNat_of_le (Nat.not_lt.1 hn'), Nat.compare_eq_gt.2 (by omega)]

/-- As floating point numbers, a count is less than one of at most 53 bits if it is less. -/
lemma ofNat_lt_ofNat {c : Nat} (hc : c < 2 ^ 53) (n : Nat) :
    Float.ofNat n < Float.ofNat c ↔ n < c := by
  change Float.lt (Float.ofNat n) (Float.ofNat c) = true ↔ _
  rw [Float.lt, decide_eq_true_eq]
  change
    ((Float.ofNat n).toModel.unpack.compare (Float.ofNat c).toModel.unpack == some .lt) = true ↔ _
  rw [compare_ofNat hc n, beq_iff_eq, Option.some_inj, Nat.compare_eq_lt]

/-- As floating point numbers, a count is at most one of at most 53 bits if it is at most that. -/
lemma ofNat_le_ofNat {c : Nat} (hc : c < 2 ^ 53) (n : Nat) :
    Float.ofNat n ≤ Float.ofNat c ↔ n ≤ c := by
  change Float.le (Float.ofNat n) (Float.ofNat c) = true ↔ _
  rw [Float.le, decide_eq_true_eq]
  change ((Float.ofNat n).toModel.unpack.compare (Float.ofNat c).toModel.unpack).any (·.isLE) =
    true ↔ _
  rw [compare_ofNat hc n, Option.any_some, Nat.isLE_compare]

/-- As floating point numbers, a count of at most 53 bits is at most another one if it is at most
that. -/
lemma ofNat_le_ofNat_of_lt {c : Nat} (hc : c < 2 ^ 53) (n : Nat) :
    Float.ofNat c ≤ Float.ofNat n ↔ c ≤ n := by
  change Float.le (Float.ofNat c) (Float.ofNat n) = true ↔ _
  rw [Float.le, decide_eq_true_eq]
  change ((Float.ofNat c).toModel.unpack.compare (Float.ofNat n).toModel.unpack).any (·.isLE) =
    true ↔ _
  rw [compare_swap, compare_ofNat hc n, Option.map_some, Option.any_some, Nat.compare_swap,
    Nat.isLE_compare]

/-- To multiply a count of at most 53 bits by one changes nothing. -/
lemma ofNat_mul_one {c : Nat} (hc : c < 2 ^ 53) : Float.ofNat c * 1.0 = Float.ofNat c := by
  rcases Nat.eq_zero_or_pos c with rfl | hpos
  · rfl
  · rw [ofNat_eq_toFloat hpos hc, ← Full.toFloat_one, Full.toFloat_mul_one]

/-- To divide a positive count of at most 64 bits by itself gives one. -/
lemma ofNat_div_self {n : Nat} (hpos : 0 < n) (h : n < 2 ^ 64) :
    Float.ofNat n / Float.ofNat n = 1.0 := by
  obtain ⟨x, hx⟩ := exists_ofNat_eq_toFloat hpos h
  rw [hx, Full.toFloat_div_self, Full.toFloat_one]

end Lookalike.Binary64
