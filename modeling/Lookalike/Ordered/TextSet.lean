import Lookalike.Ordered.TextMap

/-! ### Sets of texts

A set keeps its texts in ascending order, each once. Two sets with the same texts are therefore
equal. -/

namespace Lookalike

/-- A text put into its place in an ascending list, unless it is there already. -/
def putText (x : String) : List String → List String
  | [] => [x]
  | y :: rest =>
    if x < y then x :: y :: rest
    else if x = y then y :: rest
    else y :: putText x rest

theorem mem_putText {x z : String} : ∀ {ys : List String}, z ∈ putText x ys ↔ z = x ∨ z ∈ ys
  | [] => by simp [putText]
  | y :: rest => by
    simp only [putText]
    split
    · simp
    · split
      · rename_i heq
        simp [heq]
      · simp only [List.mem_cons, @mem_putText x z rest]
        constructor
        · rintro (h | h | h) <;> simp [h]
        · rintro (h | h | h) <;> simp [h]

theorem pairwise_putText {x : String} :
    ∀ {ys : List String}, ys.Pairwise (· < ·) → (putText x ys).Pairwise (· < ·)
  | [], _ => by simp [putText]
  | y :: rest, h => by
    have ⟨hy, hrest⟩ := List.pairwise_cons.1 h
    simp only [putText]
    split
    · rename_i hlt
      refine List.pairwise_cons.2 ⟨fun z hz => ?_, h⟩
      rcases List.mem_cons.1 hz with rfl | hz
      · exact hlt
      · exact String.lt_trans hlt (hy z hz)
    · rename_i hnlt
      split
      · exact h
      · rename_i hne
        refine List.pairwise_cons.2 ⟨fun z hz => ?_, pairwise_putText hrest⟩
        rcases mem_putText.1 hz with rfl | hz
        · exact text_lt_of_not_lt hnlt hne
        · exact hy z hz

/-- A set of texts, in ascending order. -/
structure TextSet where
  items : List String
  ascending : items.Pairwise (· < ·) := by exact List.Pairwise.nil
  deriving DecidableEq

namespace TextSet

@[ext] theorem ext {a b : TextSet} (h : a.items = b.items) : a = b := by
  cases a
  cases b
  cases h
  rfl

/-- The set without texts. -/
def empty : TextSet :=
  ⟨[], List.Pairwise.nil⟩

/-- The set with one more text. -/
def insert (s : TextSet) (x : String) : TextSet :=
  ⟨putText x s.items, pairwise_putText s.ascending⟩

/-- Whether a text is in the set. -/
def contains (s : TextSet) (x : String) : Bool :=
  s.items.contains x

/-- The set of the texts in a list. -/
def ofList (xs : List String) : TextSet :=
  xs.foldl insert empty

/-- The number of texts. -/
def size (s : TextSet) : Nat :=
  s.items.length

instance : Membership String TextSet :=
  ⟨fun s x => x ∈ s.items⟩

theorem mem_foldl_insert (xs : List String) (s : TextSet) (x : String) :
    x ∈ xs.foldl insert s ↔ x ∈ xs ∨ x ∈ s := by
  induction xs generalizing s with
  | nil => simp
  | cons y ys ih =>
    rw [List.foldl_cons, ih, List.mem_cons]
    have h : x ∈ s.insert y ↔ x = y ∨ x ∈ s := mem_putText
    rw [h]
    constructor
    · rintro (h | h | h) <;> simp [h]
    · rintro ((h | h) | h) <;> simp [h]

theorem mem_ofList (xs : List String) (x : String) : x ∈ ofList xs ↔ x ∈ xs := by
  have h := mem_foldl_insert xs empty x
  have hempty : ¬ x ∈ empty := List.not_mem_nil
  simpa [ofList, hempty] using h

end TextSet

end Lookalike
