import Mathlib.Tactic.Lemma
import Mathlib.Tactic.Common
import Lookalike.Fingerprint.Basic

/-! ### The distance of fingerprints

The number of bits on which two fingerprints differ is a metric: it does not depend on the order of
the two, it is zero from a fingerprint to itself, and a way over a third fingerprint is not shorter.
It is never more than the number of bits. -/

namespace Lookalike.Fingerprint

/-- A bit of a word is that bit of its number. -/
lemma bitAt_eq_testBit {i : Nat} (hi : i < 64) (w : UInt64) : bitAt w i = w.toNat.testBit i := by
  have hshift : (w >>> UInt64.ofNat i &&& 1).toNat = w.toNat >>> i % 2 := by
    rw [UInt64.toNat_and, UInt64.toNat_shiftRight, UInt64.toNat_ofNat', UInt64.toNat_one,
      Nat.and_one_is_mod, Nat.mod_eq_of_lt (by omega : i < 2 ^ 64), Nat.mod_eq_of_lt hi]
  unfold bitAt
  rw [Nat.testBit, Nat.one_and_eq_mod_two, Bool.eq_iff_iff, beq_iff_eq, bne_iff_ne,
    ← UInt64.toNat_inj, hshift, UInt64.toNat_one]
  omega

/-- A bit of an exclusive or is set when the two words differ there. -/
lemma bitAt_xor {i : Nat} (hi : i < 64) (a b : UInt64) :
    bitAt (a ^^^ b) i = (bitAt a i ^^ bitAt b i) := by
  rw [bitAt_eq_testBit hi, bitAt_eq_testBit hi, bitAt_eq_testBit hi, UInt64.toNat_xor,
    Nat.testBit_xor]

/-- The distance counts the positions at which the bits differ. -/
lemma distance_eq_countP (a b : Fingerprint) :
    a.distance b = positions.countP fun i => bitAt a.bits i ^^ bitAt b.bits i :=
  List.countP_congr fun i hi => by rw [bitAt_xor (List.mem_range.1 hi)]

/-- The distance does not depend on the order of the two. -/
lemma distance_comm (a b : Fingerprint) : a.distance b = b.distance a := by
  unfold distance
  rw [UInt64.xor_comm]

/-- A fingerprint is at no distance from itself. -/
lemma distance_self (a : Fingerprint) : a.distance a = 0 := by
  rw [distance_eq_countP, List.countP_eq_zero]
  intro i _
  simp

/-- No distance is greater than the number of bits. -/
lemma distance_le (a b : Fingerprint) : a.distance b ≤ 64 :=
  List.countP_le_length

/-- What passes one test of two can be counted by either of them. -/
lemma countP_le_add {α : Type} {p q r : α → Bool} (h : ∀ x, p x = true → q x = true ∨ r x = true)
    (xs : List α) : xs.countP p ≤ xs.countP q + xs.countP r := by
  induction xs with
  | nil => simp
  | cons x xs ih =>
    have hx := h x
    simp only [List.countP_cons]
    cases hp : p x <;> cases hq : q x <;> cases hr : r x <;> simp_all <;> omega

/-- The way over a third fingerprint is not shorter. -/
lemma distance_triangle (a b c : Fingerprint) : a.distance c ≤ a.distance b + b.distance c := by
  rw [distance_eq_countP, distance_eq_countP, distance_eq_countP]
  refine countP_le_add (fun i => ?_) positions
  cases bitAt a.bits i <;> cases bitAt b.bits i <;> cases bitAt c.bits i <;> simp

end Lookalike.Fingerprint
