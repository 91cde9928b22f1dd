import Mathlib
import Lookalike.Proofs.Decimal.Order

/-! ### The total order of bit patterns and the order of numbers

A bit pattern holds a sign, an exponent and a fraction, the greater ones first, so that patterns
without a sign ascend as the numbers that they stand for. With a sign they descend, and the key by
which bit patterns are ordered turns them round. Wherever numbers are sorted by their bit patterns
they are therefore in order as numbers too; only the two zeros are told apart. -/

namespace Lookalike.Binary64

open Float.Model Float.Model.UnpackedFloat

/-! #### Places -/

/-- A place does not come after another one if its parts are less or equal, one after another. -/
lemma isLE_comparePlaces_iff {p q : Int × Int × Int} :
    (comparePlaces p q).isLE = true ↔
      p.1 < q.1 ∨ p.1 = q.1 ∧ (p.2.1 < q.2.1 ∨ p.2.1 = q.2.1 ∧ p.2.2 ≤ q.2.2) := by
  change ((compare p.1 q.1).then ((compare p.2.1 q.2.1).then (compare p.2.2 q.2.2))).isLE = true ↔ _
  simp only [Ordering.isLE_then_iff_or, Int.compare_eq_lt, Int.compare_eq_eq, Int.isLE_compare]

/-- The place of a number with the other sign. -/
def negPlace (p : Int × Int × Int) : Int × Int × Int :=
  (-p.1, -p.2.1, -p.2.2)

/-- Negative places are compared the other way round. -/
lemma isLE_negPlace {p q : Int × Int × Int} (h : (comparePlaces q p).isLE = true) :
    (comparePlaces (negPlace p) (negPlace q)).isLE = true := by
  rw [isLE_comparePlaces_iff] at h ⊢
  unfold negPlace
  dsimp only
  omega

/-! #### Bit patterns -/

/-- The biased exponent of a bit pattern. -/
def exponentOf (bits : Nat) : Nat :=
  bits / 2 ^ 52 % 2 ^ 11

/-- The fraction of a bit pattern. -/
def fractionOf (bits : Nat) : Nat :=
  bits % 2 ^ 52

/-- The place of a bit pattern without its sign. -/
def placeOfBits (bits : Nat) : Option (Int × Int × Int) :=
  if exponentOf bits = 2047 then if fractionOf bits = 0 then some (2, 0, 0) else none
  else if exponentOf bits = 0 then
    if fractionOf bits = 0 then some (0, 0, 0) else some (1, -1074, fractionOf bits)
  else some (1, exponentOf bits - 1075, (fractionOf bits + 2 ^ 52 : Nat))

section Bits

variable {a b : Nat} {p q : Int × Int × Int}

/-- The places of bit patterns with one sign ascend with the patterns, apart from the sign. -/
lemma isLE_of_mem_placeOfBits (hp : p ∈ placeOfBits a) (hq : q ∈ placeOfBits b) (h : a ≤ b)
    (hsign : a / 2 ^ 63 = b / 2 ^ 63) : (comparePlaces p q).isLE = true := by
  have hfraction : fractionOf a < 2 ^ 52 := Nat.mod_lt _ (by decide)
  have hexponent : exponentOf b < 2 ^ 11 := Nat.mod_lt _ (by decide)
  have hfields : exponentOf a < exponentOf b ∨
      exponentOf a = exponentOf b ∧ fractionOf a ≤ fractionOf b := by
    unfold exponentOf fractionOf
    omega
  rw [isLE_comparePlaces_iff]
  unfold placeOfBits at hp hq
  split_ifs at hp hq <;> cases hp <;> cases hq <;> dsimp only <;> omega

/-- A place without a sign does not come before zero. -/
lemma isLE_zero_of_mem_placeOfBits (hp : p ∈ placeOfBits a) :
    (comparePlaces (0, 0, 0) p).isLE = true := by
  rw [isLE_comparePlaces_iff]
  unfold placeOfBits at hp
  split_ifs at hp <;> cases hp <;> dsimp only <;> omega

end Bits

/-- The sign of a bit pattern is its first bit. -/
lemma ofBitVec_unpackSign (w : BitVec 64) :
    Sign.ofBitVec (@unpackSign .binary64 w) = if w.msb then .negative else .positive := by
  have hfirst : @unpackSign .binary64 w = BitVec.ofBool w.msb := by
    ext i hi
    obtain rfl : i = 0 := by omega
    have hlast : w.getLsbD 63 = w[63] := BitVec.getLsbD_eq_getElem (by decide)
    simp [unpackSign, BitVec.msb_eq_getLsbD_last, hlast]
  rw [hfirst, Sign.ofBitVec]
  cases w.msb <;> rfl

/-- The place of what a bit pattern stands for. -/
lemma place_unpack (w : BitVec 64) :
    place (UnpackedFloat.unpack .binary64 w) =
      (placeOfBits w.toNat).map (if w.msb then negPlace else id) := by
  have hmantissa : (@unpackMantissa .binary64 w).toNat = fractionOf w.toNat := by
    simp [unpackMantissa, fractionOf]
  have hexponent : (@unpackExponent .binary64 w).toNat = exponentOf w.toNat := by
    simp [unpackExponent, exponentOf, Nat.shiftRight_eq_div_pow]
  have hgreatest : @unpackExponent .binary64 w = -1#11 ↔ exponentOf w.toNat = 2047 := by
    rw [← hexponent, ← BitVec.toNat_inj]
    rfl
  have hleast : @unpackExponent .binary64 w = 0#11 ↔ exponentOf w.toNat = 0 := by
    rw [← hexponent, ← BitVec.toNat_inj]
    rfl
  have hzero : @unpackMantissa .binary64 w = 0#52 ↔ fractionOf w.toNat = 0 := by
    rw [← hmantissa, ← BitVec.toNat_inj]
    rfl
  have hfull : (1#1 ++ @unpackMantissa .binary64 w).toNat =
      fractionOf w.toNat + 2 ^ 52 := by
    rw [BitVec.toNat_append, ← Nat.shiftLeft_add_eq_or_of_lt (BitVec.isLt _), hmantissa,
      Nat.add_comm]
    rfl
  have hbias : (Format.binary64.exponentBias : Int) + (52 : Nat) = 1075 := rfl
  unfold UnpackedFloat.unpack placeOfBits
  simp only [hbias, ofBitVec_unpackSign, hgreatest, hleast, hzero, hfull, hmantissa, hexponent]
  cases w.msb with
  | true => split_ifs <;> simp_all [place, negPlace]
  | false => split_ifs <;> simp_all [place]

/-- The first bit of a word is set if the word is at least `2 ^ 63`. -/
lemma msb_toBitVec_iff (w : UInt64) : w.toBitVec.msb = true ↔ 2 ^ 63 ≤ w.toNat := by
  rw [BitVec.msb_eq_decide, decide_eq_true_eq, UInt64.toNat_toBitVec]

variable {x y : Float}

/-- Where a number stands by its bit pattern. -/
lemma exists_place_of_isNaN_eq_false (hx : x.isNaN = false) :
    ∃ p ∈ placeOfBits x.toBits.toNat,
      place x.toModel.unpack = some (if 2 ^ 63 ≤ x.toBits.toNat then negPlace p else p) := by
  have hplace : place x.toModel.unpack = _ := place_unpack x.toBits.toBitVec
  simp only [msb_toBitVec_iff, UInt64.toNat_toBitVec] at hplace
  rw [Bool.eq_false_iff, ne_eq, isNaN_iff_place, hplace, Option.map_eq_none_iff] at hx
  obtain ⟨p, hp⟩ := Option.ne_none_iff_exists'.1 hx
  refine ⟨p, hp, ?_⟩
  rw [hplace, hp]
  split <;> rfl

/-! #### Keys -/

/-- Without a sign, the key of a word is greater by the first bit; with a sign it is the
complement. -/
lemma toNat_orderKey (w : Word) :
    (orderKey w).toNat =
      if 2 ^ 63 ≤ w.bits.toNat then 2 ^ 64 - 1 - w.bits.toNat else 2 ^ 63 + w.bits.toNat := by
  unfold orderKey
  simp only [shiftRight_eq_one_iff, msb_toBitVec_iff]
  split
  · exact UInt64.toNat_not _
  · rename_i hsign
    have hlt := Nat.not_le.1 hsign
    have hbit : ((1 : UInt64) <<< 63).toNat = 2 ^ 63 := by decide
    rw [UInt64.toNat_xor, hbit]
    -- The first bit is set in one of the two words, and the other bits in the other one.
    have hdiv : (w.bits.toNat ^^^ 2 ^ 63) / 2 ^ 63 = 1 := by
      rw [Nat.xor_div_two_pow, Nat.div_eq_of_lt hlt]
      decide
    have hmod : (w.bits.toNat ^^^ 2 ^ 63) % 2 ^ 63 = w.bits.toNat := by
      rw [Nat.xor_mod_two_pow, Nat.mod_self, Nat.xor_zero, Nat.mod_eq_of_lt hlt]
    omega

/-- A number that does not come after another one in the total order of bit patterns is at most
that. -/
lemma le_of_totalCompare (hx : x.isNaN = false) (hy : y.isNaN = false)
    (h : (totalCompare x y).isLE = true) : x ≤ y := by
  have hkeys : (orderKey (.ofFloat x)).toNat ≤ (orderKey (.ofFloat y)).toNat := by
    change (compare (orderKey (.ofFloat x)) (orderKey (.ofFloat y))).isLE = true at h
    exact UInt64.le_iff_toNat_le.1 (Std.isLE_compare.1 h)
  obtain ⟨p, hp, hplacex⟩ := exists_place_of_isNaN_eq_false hx
  obtain ⟨q, hq, hplacey⟩ := exists_place_of_isNaN_eq_false hy
  refine le_iff_places.2 ⟨_, hplacex, _, hplacey, ?_⟩
  have hx' := x.toBits.toNat_lt
  have hy' := y.toBits.toNat_lt
  rw [toNat_orderKey, toNat_orderKey, Word.ofFloat, Word.ofFloat] at hkeys
  generalize x.toBits.toNat = a at *
  generalize y.toBits.toNat = b at *
  by_cases hsignx : 2 ^ 63 ≤ a
  · by_cases hsigny : 2 ^ 63 ≤ b
    · -- Of two negative numbers the lesser one has the greater pattern.
      rw [if_pos hsignx, if_pos hsigny] at hkeys ⊢
      exact isLE_negPlace (isLE_of_mem_placeOfBits hq hp (by omega) (by omega))
    · rw [if_pos hsignx, if_neg hsigny]
      have hzero : (comparePlaces (negPlace p) (0, 0, 0)).isLE = true :=
        isLE_negPlace (isLE_zero_of_mem_placeOfBits hp)
      exact Std.TransCmp.isLE_trans hzero (isLE_zero_of_mem_placeOfBits hq)
  · by_cases hsigny : 2 ^ 63 ≤ b
    · -- A positive number has a greater key than a negative one.
      rw [if_neg hsignx, if_pos hsigny] at hkeys
      omega
    · rw [if_neg hsignx, if_neg hsigny] at hkeys ⊢
      exact isLE_of_mem_placeOfBits hp hq (by omega) (by omega)

end Lookalike.Binary64
