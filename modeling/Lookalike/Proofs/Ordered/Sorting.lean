import Mathlib.Tactic.Lemma
import Mathlib.Tactic.Common

/-! ### Sorting

A list that is sorted by a total order has only one form, however its elements were given: sorting
forgets the order of the input, and leaving out elements before sorting or after it is the same. The
order has to tell apart only the elements of the list itself. -/

namespace Lookalike.Sorting

variable {α : Type}

/-- A test that never holds in both directions for different elements of a list. -/
def Separates (le : α → α → Bool) (xs : List α) : Prop :=
  ∀ a ∈ xs, ∀ b ∈ xs, le a b = true → le b a = true → a = b

/-- A test that goes on separating when fewer elements are there. -/
lemma Separates.mono {le : α → α → Bool} {xs ys : List α} (h : Separates le xs)
    (hsub : ∀ a ∈ ys, a ∈ xs) : Separates le ys :=
  fun a ha b hb => h a (hsub a ha) b (hsub b hb)

/-- A test separates a list in which it never leads back. -/
lemma separates_of_pairwise {le : α → α → Bool} {xs : List α}
    (h : xs.Pairwise fun a b => le b a = false) : Separates le xs := by
  induction xs with
  | nil =>
    intro a ha
    cases ha
  | cons x xs ih =>
    obtain ⟨hx, hxs⟩ := List.pairwise_cons.1 h
    intro a ha b hb hab hba
    rcases List.mem_cons.1 ha with rfl | ha' <;> rcases List.mem_cons.1 hb with rfl | hb'
    · rfl
    · exact absurd hba (Bool.eq_false_iff.1 (hx b hb'))
    · exact absurd hab (Bool.eq_false_iff.1 (hx a ha'))
    · exact ih hxs a ha' b hb' hab hba

section Total

variable {le : α → α → Bool} (trans : ∀ a b c, le a b = true → le b c = true → le a c = true)
  (total : ∀ a b, (le a b || le b a) = true)
include trans total

/-- Sorting gives the one sorted list with the same elements. -/
lemma mergeSort_eq_of_perm {xs ys : List α} (hp : xs.Perm ys)
    (hs : ys.Pairwise fun a b => le a b = true) (hsep : Separates le ys) :
    xs.mergeSort le = ys := by
  have hperm : (xs.mergeSort le).Perm ys := (List.mergeSort_perm xs le).trans hp
  refine List.Perm.eq_of_pairwise (fun a b ha hb => hsep a (hperm.mem_iff.1 ha) b hb) ?_ hs hperm
  exact List.pairwise_mergeSort trans total xs

/-- Sorting forgets the order of the input. -/
lemma mergeSort_congr {xs ys : List α} (hp : xs.Perm ys) (hsep : Separates le ys) :
    xs.mergeSort le = ys.mergeSort le := by
  refine mergeSort_eq_of_perm trans total (hp.trans (List.mergeSort_perm ys le).symm) ?_ ?_
  · exact List.pairwise_mergeSort trans total ys
  · exact hsep.mono fun a ha => List.mem_mergeSort.1 ha

/-- Elements may be left out before sorting or after it. -/
lemma filter_mergeSort {xs : List α} (keep : α → Bool) (hsep : Separates le xs) :
    (xs.filter keep).mergeSort le = (xs.mergeSort le).filter keep := by
  refine mergeSort_eq_of_perm trans total ((List.mergeSort_perm xs le).symm.filter keep) ?_ ?_
  · exact (List.pairwise_mergeSort trans total xs).filter keep
  · exact hsep.mono fun a ha => List.mem_mergeSort.1 (List.mem_filter.1 ha).1

end Total

/-- A list in which numbers ascend is what sorting by them gives. -/
lemma mergeSort_eq_of_ascending (key : α → Nat) {xs ys : List α} (hp : xs.Perm ys)
    (hs : ys.Pairwise fun a b => key a < key b) :
    xs.mergeSort (fun a b => decide (key a ≤ key b)) = ys := by
  refine mergeSort_eq_of_perm (fun a b c => ?_) (fun a b => ?_) hp ?_ ?_
  · simp only [decide_eq_true_eq]
    exact Nat.le_trans
  · simp only [Bool.or_eq_true, decide_eq_true_eq]
    exact Nat.le_total (key a) (key b)
  · exact hs.imp fun h => decide_eq_true (Nat.le_of_lt h)
  · exact separates_of_pairwise (hs.imp fun h => decide_eq_false (Nat.not_le.2 h))

/-! ### Tests given by comparisons -/

section Comparison

variable (cmp : α → α → Ordering) [Std.TransCmp cmp]

/-- Not coming after is transitive. -/
lemma isLE_trans (a b c : α) (hab : (cmp a b).isLE = true) (hbc : (cmp b c).isLE = true) :
    (cmp a c).isLE = true :=
  Std.TransCmp.isLE_trans hab hbc

/-- Of two elements one does not come after the other. -/
lemma isLE_total (a b : α) : ((cmp a b).isLE || (cmp b a).isLE) = true := by
  have hswap : cmp b a = (cmp a b).swap := Std.OrientedCmp.eq_swap
  rw [hswap]
  cases cmp a b <;> rfl

/-- Two elements neither of which comes after the other compare as equal. -/
lemma eq_of_isLE_of_isLE {a b : α} (hab : (cmp a b).isLE = true) (hba : (cmp b a).isLE = true) :
    cmp a b = .eq := by
  have hswap : cmp b a = (cmp a b).swap := Std.OrientedCmp.eq_swap
  rw [hswap] at hba
  cases h : cmp a b <;> simp_all

end Comparison

/-- One name does not come after another one if it is not greater. -/
lemma isLE_compare_iff {a b : String} : (compare a b).isLE = true ↔ a ≤ b := by
  have hlt : compare a b = .lt ↔ a < b := compareOfLessAndEq_eq_lt
  rw [Ordering.isLE_iff_eq_lt_or_eq_eq, Std.compare_eq_iff_eq, hlt]
  exact Std.le_iff_lt_or_eq.symm

/-- What is ordered by a key, the greatest first, and then by its name: one thing does not come
after another one if its key is greater, or if it has the same key and no greater name. -/
lemma isLE_then_compare_iff (cmp : α → α → Ordering) [Std.LawfulEqCmp cmp] {x y : α}
    {a b : String} :
    ((cmp y x).then (compare a b)).isLE = true ↔ cmp y x = .lt ∨ x = y ∧ a ≤ b := by
  cases h : cmp y x with
  | lt => simp
  | eq =>
    obtain rfl := Std.LawfulEqCmp.eq_of_compare h
    simp [isLE_compare_iff]
  | gt =>
    have hne : x ≠ y := by
      rintro rfl
      have hself : cmp x x = .eq := Std.ReflCmp.compare_self
      rw [hself] at h
      cases h
    simp [hne]

end Lookalike.Sorting
