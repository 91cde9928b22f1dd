import Mathlib.Data.Finset.Card
import Lookalike.Proofs.Decimal.Counts
import Lookalike.Proofs.Similarity

/-! ### Similarity as a measure of sets

Of the tokens of two pieces of program, similarity sees only which there are: it counts the distinct
ones that they share and the distinct ones of both together. Neither the order of tokens nor how
often one is repeated reaches the arithmetic, and nor does anything else in the features but the
complexities, so that equal sets give the same floating point number to the last bit. -/

namespace Lookalike

open Python

/-! #### Counting distinct texts -/

namespace TextSet

/-- The set of some texts is settled by which texts there are. -/
lemma ofList_eq_of_mem_iff {xs ys : List String} (h : ∀ x, x ∈ xs ↔ x ∈ ys) :
    ofList xs = ofList ys :=
  eq_of_mem_iff fun x => by rw [mem_ofList, mem_ofList, h]

/-- A set made of a list has the texts of the list. -/
lemma toFinset_items_ofList (xs : List String) : (ofList xs).items.toFinset = xs.toFinset := by
  ext x
  rw [List.mem_toFinset, List.mem_toFinset]
  exact mem_ofList xs x

/-- A set made of a list counts its distinct texts. -/
lemma size_ofList (xs : List String) : (ofList xs).size = xs.toFinset.card := by
  rw [← toFinset_items_ofList, List.toFinset_card_of_nodup (nodup_items _), size]

/-- What two sets have in common counts the distinct texts of both lists. -/
lemma length_common (xs ys : List String) :
    ((ofList xs).items.filter (ofList ys).contains).length = (xs.toFinset ∩ ys.toFinset).card := by
  have hnodup := (nodup_items (ofList xs)).filter (ofList ys).contains
  have hcommon : ((ofList xs).items.filter (ofList ys).contains).toFinset =
      xs.toFinset ∩ ys.toFinset := by
    ext x
    rw [List.mem_toFinset, List.mem_filter, contains, List.contains_iff_mem, Finset.mem_inter,
      List.mem_toFinset, List.mem_toFinset]
    exact and_congr (mem_ofList xs x) (mem_ofList ys x)
  rw [← hcommon, List.toFinset_card_of_nodup hnodup]

/-- A set made of a list is empty exactly if the list is. -/
lemma isEmpty_items_ofList (xs : List String) : (ofList xs).items.isEmpty = true ↔ xs = [] := by
  rw [List.isEmpty_iff, ← List.toFinset_eq_empty_iff, toFinset_items_ofList,
    List.toFinset_eq_empty_iff]

end TextSet

/-- Two lists that are not both empty have a text. -/
lemma card_union_pos {a b : List String} (h : ¬ (a = [] ∧ b = [])) :
    0 < (a.toFinset ∪ b.toFinset).card := by
  refine Nat.pos_of_ne_zero fun hzero => h ?_
  rwa [Finset.card_eq_zero, Finset.union_eq_empty, List.toFinset_eq_empty_iff,
    List.toFinset_eq_empty_iff] at hzero

/-- The share of common texts is the number of distinct texts in both lists by that of distinct
texts in either, and one for two empty lists. -/
lemma jaccard_eq (a b : List String) :
    jaccard a b =
      if a = [] ∧ b = [] then 1.0
      else Float.ofNat (a.toFinset ∩ b.toFinset).card /
        Float.ofNat (a.toFinset ∪ b.toFinset).card := by
  have hcount := Finset.card_union_add_card_inter a.toFinset b.toFinset
  have hunion : a.toFinset.card + b.toFinset.card - (a.toFinset ∩ b.toFinset).card =
      (a.toFinset ∪ b.toFinset).card := by omega
  unfold jaccard
  dsimp only
  simp only [Bool.and_eq_true, TextSet.isEmpty_items_ofList, TextSet.size_ofList,
    TextSet.length_common, hunion]

/-! #### Features with the same tokens -/

/-- Features have the same structure tokens and the same control flow tokens, in whatever order and
however often each. -/
structure Python.Features.HaveSameTokens (f g : Features) : Prop where
  structureTokens : ∀ t, t ∈ f.structureTokens ↔ t ∈ g.structureTokens
  controlFlow : ∀ t, t ∈ f.controlFlow ↔ t ∈ g.controlFlow

/-- Features have the same tokens as themselves. -/
lemma Python.Features.HaveSameTokens.refl (f : Features) : f.HaveSameTokens f :=
  ⟨fun _ => Iff.rfl, fun _ => Iff.rfl⟩

/-- The share of common texts is settled by which texts there are. -/
lemma jaccard_congr {a b a' b' : List String} (ha : ∀ t, t ∈ a ↔ t ∈ a')
    (hb : ∀ t, t ∈ b ↔ t ∈ b') : jaccard a b = jaccard a' b' := by
  unfold jaccard
  rw [TextSet.ofList_eq_of_mem_iff ha, TextSet.ofList_eq_of_mem_iff hb]

/-- Similarity is settled by the tokens that there are and by the complexities. -/
lemma similarity_congr {f g f' g' : Features} (hf : f.HaveSameTokens f')
    (hf' : f.complexity = f'.complexity) (hg : g.HaveSameTokens g')
    (hg' : g.complexity = g'.complexity) : similarity f g = similarity f' g' := by
  unfold similarity
  rw [jaccard_congr hf.structureTokens hg.structureTokens, hf', hg',
    jaccard_congr hf.controlFlow hg.controlFlow]

/-- **Similarity is a symmetric measure of sets**: features with the same tokens and the same
complexities have the same similarity, bit for bit, whatever the order and number of their tokens
and whatever else they hold, and whichever of the two comes first. The share of common texts is the
number of distinct texts in both lists divided by that of distinct texts in either, which is
positive, and one for two empty lists. -/
theorem similarity_of_tokenSets :
    (∀ f g f' g' : Features,
      f.HaveSameTokens f' → f.complexity = f'.complexity →
      g.HaveSameTokens g' → g.complexity = g'.complexity →
        similarity f' g' = similarity f g ∧ similarity g' f' = similarity f g) ∧
    ∀ a b : List String,
      (a = [] ∧ b = [] → jaccard a b = 1.0) ∧
      (¬ (a = [] ∧ b = []) →
        0.0 < Float.ofNat (a.toFinset ∪ b.toFinset).card ∧
        jaccard a b = Float.ofNat (a.toFinset ∩ b.toFinset).card /
          Float.ofNat (a.toFinset ∪ b.toFinset).card) := by
  constructor
  · intro f g f' g' hf hf' hg hg'
    have hsame := similarity_congr hf hf' hg hg'
    exact ⟨hsame.symm, (similarity_comm g' f').trans hsame.symm⟩
  · intro a b
    rw [jaccard_eq]
    constructor
    · intro hempty
      exact if_pos hempty
    · intro hempty
      exact ⟨Binary64.zero_lt_ofNat (card_union_pos hempty), if_neg hempty⟩

/-- Features of a function with a loop. -/
def loopFeatures : Features :=
  ⟨["FUNC:2", "RETURN"], 2, .empty, ["f"], ["FOR@1"], .empty⟩

/-- Features with the same tokens as those of the loop, in another order and some of them
repeated, and with other calls. -/
def repeatedFeatures : Features :=
  ⟨["RETURN", "FUNC:2", "RETURN"], 2, .ofList ["os"], ["g", "h"], ["FOR@1", "FOR@1"], .empty⟩

/-- Features of a function without control structures. -/
def straightFeatures : Features :=
  ⟨["FUNC:1", "RETURN", "RAISE"], 1, .empty, [], [], .empty⟩

/-- The features of the loop and the repeated ones have the same tokens. -/
lemma haveSameTokens_repeatedFeatures : loopFeatures.HaveSameTokens repeatedFeatures := by
  constructor
  · intro t
    simp only [loopFeatures, repeatedFeatures, List.mem_cons, List.not_mem_nil, or_false]
    tauto
  · intro t
    simp only [loopFeatures, repeatedFeatures, List.mem_cons, List.not_mem_nil, or_false, or_self]

/-- The features of the loop and the repeated ones are as similar to others. -/
theorem similarity_of_tokenSets_repeated :
    similarity repeatedFeatures straightFeatures = similarity loopFeatures straightFeatures ∧
      similarity straightFeatures repeatedFeatures = similarity loopFeatures straightFeatures := by
  exact similarity_of_tokenSets.1 loopFeatures straightFeatures repeatedFeatures straightFeatures
    haveSameTokens_repeatedFeatures rfl (.refl _) rfl

end Lookalike
