import Mathlib.Tactic.Lemma
import Mathlib.Tactic.Common
import Lookalike.Decimal.Binary64

/-! ### The order of floating point numbers

Apart from what is no number, floating point numbers are totally ordered: the negative ones come
before the zeros and these before the positive ones, and numbers of one sign are ordered by their
exponents and then by their mantissas. What is no number is neither less nor greater than
anything. The total order of the bit patterns has a place for everything, and tells apart whatever
has different bits. -/

namespace Lookalike.Binary64

open Float.Model Float.Model.UnpackedFloat

/-- Where a number stands among all: its kind, from negative to positive infinity, and then its
exponent and its mantissa with its sign. What is no number stands nowhere. -/
def place : UnpackedFloat → Option (Int × Int × Int)
  | .notANumber => none
  | .infinity .negative => some (-2, 0, 0)
  | .finite .negative m e _ => some (-1, -e, -m)
  | .zero _ => some (0, 0, 0)
  | .finite .positive m e _ => some (1, e, m)
  | .infinity .positive => some (2, 0, 0)

/-- Places are compared part by part. -/
def comparePlaces : Int × Int × Int → Int × Int × Int → Ordering :=
  compareLex (compareOn (·.1)) (compareLex (compareOn (·.2.1)) (compareOn (·.2.2)))

instance : Std.TransCmp comparePlaces :=
  inferInstanceAs (Std.TransCmp (compareLex _ _))

/-- Negatives are compared the other way round. -/
lemma compare_neg_neg (a b : Int) : compare (-a) (-b) = (compare a b).swap := by
  rw [Int.compare_swap, Int.compare_eq_ite_lt, Int.compare_eq_ite_lt]
  simp only [Int.neg_lt_neg_iff]

/-- Natural numbers are compared as integers are. -/
lemma compare_natCast (m n : Nat) : compare (m : Int) n = compare m n := by
  rw [Int.compare_eq_ite_lt, Nat.compare_eq_ite_lt]
  simp only [Int.ofNat_lt]

/-- Numbers are compared by their places. -/
lemma compare_eq_comparePlaces (a b : UnpackedFloat) :
    a.compare b = (place a).bind fun p => (place b).map (comparePlaces p) := by
  rcases a with s | _ | _ | ⟨s, m, e, h⟩
  · cases s <;> rcases b with (_ | _) | _ | _ | ⟨_ | _, _, _, _⟩ <;> rfl
  · rfl
  · rcases b with (_ | _) | _ | _ | ⟨_ | _, _, _, _⟩ <;> rfl
  · cases s with
    | negative =>
      rcases b with (_ | _) | _ | _ | ⟨_ | _, m', e', h'⟩ <;> try rfl
      have hplaces : comparePlaces (-1, -e, -m) (-1, -e', -m') =
          (compare (-e) (-e')).then (compare (-(m : Int)) (-m')) := rfl
      change _ = some (comparePlaces (-1, -e, -m) (-1, -e', -m'))
      rw [hplaces, compare_neg_neg, compare_neg_neg, compare_natCast, ← Ordering.swap_then]
      rfl
    | positive =>
      rcases b with (_ | _) | _ | _ | ⟨_ | _, m', e', h'⟩ <;> try rfl
      have hplaces : comparePlaces (1, e, m) (1, e', m') =
          (compare e e').then (compare (m : Int) m') := rfl
      change _ = some (comparePlaces (1, e, m) (1, e', m'))
      rw [hplaces, compare_natCast]
      rfl

/-- A number is less than another one if its place is. -/
lemma lt_iff_places {x y : Float} :
    x < y ↔ ∃ p ∈ place x.toModel.unpack, ∃ q ∈ place y.toModel.unpack,
      comparePlaces p q = .lt := by
  change Float.lt x y = true ↔ _
  rw [Float.lt, decide_eq_true_eq]
  change (x.toModel.unpack.compare y.toModel.unpack == some .lt) = true ↔ _
  rw [compare_eq_comparePlaces]
  cases place x.toModel.unpack <;> cases place y.toModel.unpack <;> simp

/-- A number is at most another one if its place is. -/
lemma le_iff_places {x y : Float} :
    x ≤ y ↔ ∃ p ∈ place x.toModel.unpack, ∃ q ∈ place y.toModel.unpack,
      (comparePlaces p q).isLE = true := by
  change Float.le x y = true ↔ _
  rw [Float.le, decide_eq_true_eq]
  change (x.toModel.unpack.compare y.toModel.unpack).any (·.isLE) = true ↔ _
  rw [compare_eq_comparePlaces]
  cases place x.toModel.unpack <;> cases place y.toModel.unpack <;> simp

/-- Less than a number that is at most another one is less than that. -/
lemma lt_of_lt_of_le {x y z : Float} (hxy : x < y) (hyz : y ≤ z) : x < z := by
  obtain ⟨p, hp, q, hq, hpq⟩ := lt_iff_places.1 hxy
  obtain ⟨q', hq', r, hr, hqr⟩ := le_iff_places.1 hyz
  obtain rfl := Option.mem_unique hq hq'
  exact lt_iff_places.2 ⟨p, hp, r, hr, Std.TransCmp.lt_of_lt_of_isLE hpq hqr⟩

/-- At most a number that is at most another one is at most that. -/
lemma le_trans {x y z : Float} (hxy : x ≤ y) (hyz : y ≤ z) : x ≤ z := by
  obtain ⟨p, hp, q, hq, hpq⟩ := le_iff_places.1 hxy
  obtain ⟨q', hq', r, hr, hqr⟩ := le_iff_places.1 hyz
  obtain rfl := Option.mem_unique hq hq'
  exact le_iff_places.2 ⟨p, hp, r, hr, Std.TransCmp.isLE_trans hpq hqr⟩

/-- What is no number stands nowhere, and nothing else. -/
lemma isNaN_iff_place {x : Float} : x.isNaN = true ↔ place x.toModel.unpack = none := by
  change x.toModel.unpack.isNaN = true ↔ _
  cases x.toModel.unpack with
  | notANumber => exact iff_of_true rfl rfl
  | infinity s => cases s <;> exact iff_of_false Bool.false_ne_true (Option.some_ne_none _)
  | zero s => exact iff_of_false Bool.false_ne_true (Option.some_ne_none _)
  | finite s m e h => cases s <;> exact iff_of_false Bool.false_ne_true (Option.some_ne_none _)

/-- Nothing is less than what is no number. -/
lemma not_lt_of_isNaN {x y : Float} (hy : y.isNaN = true) : ¬ x < y := by
  intro hlt
  obtain ⟨-, -, q, hq, -⟩ := lt_iff_places.1 hlt
  rw [isNaN_iff_place.1 hy] at hq
  cases hq

/-- What is no number is not at most anything. -/
lemma not_le_of_isNaN {x y : Float} (hx : x.isNaN = true) : ¬ x ≤ y := by
  intro hle
  obtain ⟨p, hp, -⟩ := le_iff_places.1 hle
  rw [isNaN_iff_place.1 hx] at hp
  cases hp

/-- Of two numbers, one is at most the other or greater. -/
lemma le_of_not_lt {x y : Float} (hx : x.isNaN = false) (hy : y.isNaN = false) (h : ¬ x < y) :
    y ≤ x := by
  have hplace {z : Float} (hz : z.isNaN = false) : ∃ p, p ∈ place z.toModel.unpack := by
    rw [Bool.eq_false_iff, ne_eq, isNaN_iff_place] at hz
    exact Option.ne_none_iff_exists'.1 hz
  obtain ⟨p, hp⟩ := hplace hx
  obtain ⟨q, hq⟩ := hplace hy
  refine le_iff_places.2 ⟨q, hq, p, hp, ?_⟩
  have hpq : comparePlaces p q ≠ .lt := fun hlt => h (lt_iff_places.2 ⟨p, hp, q, hq, hlt⟩)
  have hswap : comparePlaces q p = (comparePlaces p q).swap := Std.OrientedCmp.eq_swap
  rw [hswap]
  cases hcompare : comparePlaces p q <;> simp_all

/-! #### The total order of bit patterns -/

/-- A floating point number is given by its bits. -/
lemma toBits_injective : Function.Injective Float.toBits := by
  rintro ⟨⟨_, _⟩⟩ ⟨⟨_, _⟩⟩ rfl
  rfl

/-- The first bit of a word is what is left when the others are shifted out. -/
lemma shiftRight_eq_one_iff (w : UInt64) : w >>> 63 = 1 ↔ w.toBitVec.msb = true := by
  have hlt := w.toNat_lt
  have hshift : w.toNat >>> ((63 : UInt64).toNat % 64) = w.toNat / 2 ^ 63 :=
    Nat.shiftRight_eq_div_pow _ _
  rw [BitVec.msb_eq_decide, decide_eq_true_eq, UInt64.toNat_toBitVec, ← UInt64.toNat_inj,
    UInt64.toNat_shiftRight, UInt64.toNat_one, hshift]
  omega

/-- The first bit of a key tells the sign. -/
lemma msb_orderKey (w : Word) : (orderKey w).toBitVec.msb = !w.bits.toBitVec.msb := by
  have hfirst : ((1 : UInt64) <<< 63).toBitVec.msb = true := by decide
  unfold orderKey
  simp only [shiftRight_eq_one_iff]
  split
  · rw [UInt64.toBitVec_not, BitVec.msb_not]
    simp
  · rw [UInt64.toBitVec_xor, BitVec.msb_xor, hfirst, Bool.xor_true]

/-- Different words have different keys: their signs differ in the keys too, and words of one sign
are changed in the same way, which can be undone. -/
lemma orderKey_injective : Function.Injective orderKey := by
  intro v w h
  have hsign : v.bits >>> 63 = 1 ↔ w.bits >>> 63 = 1 := by
    rw [shiftRight_eq_one_iff, shiftRight_eq_one_iff, ← Bool.eq_iff_iff, ← Bool.not_inj_iff,
      ← msb_orderKey, ← msb_orderKey, h]
  refine Word.ext ?_
  unfold orderKey at h
  by_cases hw : w.bits >>> 63 = 1
  · rw [if_pos (hsign.2 hw), if_pos hw] at h
    exact UInt64.not_inj.1 h
  · rw [if_neg (mt hsign.1 hw), if_neg hw] at h
    exact (UInt64.xor_left_inj _).1 h

/-- Different numbers have different words. -/
lemma ofFloat_injective : Function.Injective Word.ofFloat :=
  fun _ _ h => toBits_injective (congrArg Word.bits h)

instance : Std.TransCmp compareWords :=
  inferInstanceAs (Std.TransCmp (compareOn orderKey))

instance : Std.LawfulEqCmp compareWords where
  compare_self := Std.ReflOrd.compare_self
  eq_of_compare h := orderKey_injective (Std.LawfulEqOrd.eq_of_compare h)

instance : Std.TransCmp totalCompare :=
  inferInstanceAs (Std.TransCmp (compareOn fun x => orderKey (.ofFloat x)))

instance : Std.LawfulEqCmp totalCompare where
  compare_self := Std.ReflOrd.compare_self
  eq_of_compare {x y} h := by
    have hwords : compareWords (.ofFloat x) (.ofFloat y) = .eq := h
    exact ofFloat_injective (Std.LawfulEqCmp.eq_of_compare hwords)

/-- Things may be compared by their words, the greatest first. -/
instance {α : Type} (key : α → Word) :
    Std.TransCmp fun x y : α => compareWords (key y) (key x) :=
  inferInstanceAs (Std.TransCmp fun x y : α => compareOn (fun x => orderKey (key x)) y x)

/-- Things may be compared by their numbers, the greatest first. -/
instance {α : Type} (key : α → Float) :
    Std.TransCmp fun x y : α => totalCompare (key y) (key x) :=
  inferInstanceAs (Std.TransCmp fun x y : α => compareWords (.ofFloat (key y)) (.ofFloat (key x)))

end Lookalike.Binary64
