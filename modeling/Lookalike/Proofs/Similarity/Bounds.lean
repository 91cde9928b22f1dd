import Lookalike.Proofs.Decimal.Nonnegative
import Lookalike.Proofs.Decimal.Order
import Lookalike.Proofs.Similarity.TokenSets

/-! ### The bounds of similarity

A similarity is a number between zero and one: its parts are sums, products and quotients of numbers
that are not negative, and no zero is divided by zero. Where the same tokens meet the same
complexity each part is exactly one, and so is the mean, with no rounding on the way. The same
formula in exact arithmetic is one only there; it is always positive, and it falls as the
complexities move apart. -/

namespace Lookalike

open Python Binary64

/-! #### Similarities are numbers -/

/-- Features have fewer than `2 ^ 63` tokens of each of the two sorts that similarity counts. -/
structure Python.Features.FitsMemory (f : Features) : Prop where
  structureTokens : f.structureTokens.length < 2 ^ 63
  controlFlow : f.controlFlow.length < 2 ^ 63

/-- The share of common texts is not negative. -/
lemma nonnegative_jaccard {a b : List String} (ha : a.length < 2 ^ 63) (hb : b.length < 2 ^ 63) :
    Nonnegative (jaccard a b) := by
  have hunion := Finset.card_union_le a.toFinset b.toFinset
  have hcarda := List.toFinset_card_le a
  have hcardb := List.toFinset_card_le b
  rw [jaccard_eq]
  split
  · exact IsNonnegative.finite ..
  · rename_i hempty
    exact (nonnegative_ofNat _).div (positive_ofNat (card_union_pos hempty) (by omega))

/-- How close two complexities are is not negative. -/
lemma nonnegative_closeness (a b : Nat) : Nonnegative (closeness a b) := by
  have hone : Positive 1.0 := .finite ..
  have htenth : Positive 0.1 := .finite ..
  exact hone.div (hone.nonnegative.add (htenth.mul (nonnegative_ofNat _)))

/-- A number moved into the interval from zero to one is a number. -/
lemma isNaN_clampUnit {x : Float} (hx : x.isNaN = false) : (clampUnit x).isNaN = false := by
  unfold clampUnit
  split
  · rfl
  · split
    · rfl
    · exact hx

/-- The mean of the three parts of similarity is a number. -/
lemma isNaN_mean {f g : Features} (hf : f.FitsMemory) (hg : g.FitsMemory) :
    ((5.0 * jaccard f.structureTokens g.structureTokens +
      2.0 * closeness f.complexity g.complexity +
      3.0 * jaccard f.controlFlow g.controlFlow) / 10.0).isNaN = false := by
  have htwo : Positive 2.0 := .finite ..
  have hthree : Positive 3.0 := .finite ..
  have hfive : Positive 5.0 := .finite ..
  have hten : Positive 10.0 := .finite ..
  have hshape := nonnegative_jaccard hf.structureTokens hg.structureTokens
  have hflow := nonnegative_jaccard hf.controlFlow hg.controlFlow
  have hclose := nonnegative_closeness f.complexity g.complexity
  have hsum := ((hfive.mul hshape).add (htwo.mul hclose)).add (hthree.mul hflow)
  exact (hsum.div hten).isNaN_eq_false

/-- A number lies between zero and one after it was moved there. -/
lemma clampUnit_bounds {x : Float} (hx : x.isNaN = false) :
    0.0 ≤ clampUnit x ∧ clampUnit x ≤ 1.0 := by
  unfold clampUnit
  split
  · constructor <;> decide +kernel
  · rename_i hlow
    split
    · constructor <;> decide +kernel
    · rename_i hhigh
      exact ⟨le_of_not_lt hx rfl hlow, le_of_not_lt rfl hx hhigh⟩

/-- A similarity is a number between zero and one. -/
lemma similarity_bounds {f g : Features} (hf : f.FitsMemory) (hg : g.FitsMemory) :
    0.0 ≤ similarity f g ∧ similarity f g ≤ 1.0 :=
  clampUnit_bounds (isNaN_mean hf hg)

/-- A similarity is a number. -/
lemma isNaN_similarity {f g : Features} (hf : f.FitsMemory) (hg : g.FitsMemory) :
    (similarity f g).isNaN = false :=
  isNaN_clampUnit (isNaN_mean hf hg)

/-! #### Equal tokens -/

/-- Two lists of the same texts share all, if there are fewer than `2 ^ 64`. -/
lemma jaccard_eq_one {a b : List String} (h : ∀ t, t ∈ a ↔ t ∈ b) (hlen : a.length < 2 ^ 64) :
    jaccard a b = 1.0 := by
  have hcard := (List.toFinset_card_le a).trans_lt hlen
  have hsame : b.toFinset = a.toFinset := (List.toFinset.ext_iff.2 h).symm
  rw [jaccard_eq]
  split
  · rfl
  · rename_i hempty
    have hpos := card_union_pos hempty
    rw [hsame, Finset.union_idempotent] at hpos
    rw [hsame, Finset.inter_self, Finset.union_idempotent]
    exact ofNat_div_self hpos hcard

/-- Equal complexities are as close as can be. -/
lemma closeness_self (n : Nat) : closeness n n = 1.0 := by
  have hgap : gap n n = 0 := by
    rw [gap, Nat.sub_self]
  rw [closeness, hgap]
  -- The closed fact that is left: one divided by one and a tenth of zero is one.
  decide +kernel

/-- The similarity of features with the same tokens and the same complexity is exactly one, if they
have fewer than `2 ^ 64` tokens. -/
lemma similarity_eq_one {f g : Features} (h : f.HaveSameTokens g)
    (hcomplexity : f.complexity = g.complexity) (htokens : f.structureTokens.length < 2 ^ 64)
    (hflow : f.controlFlow.length < 2 ^ 64) : similarity f g = 1.0 := by
  unfold similarity
  rw [jaccard_eq_one h.structureTokens htokens, jaccard_eq_one h.controlFlow hflow, hcomplexity,
    closeness_self]
  -- The closed fact that is left: five, two and three tenths are one, which stays as it is.
  decide +kernel

/-! #### Exact arithmetic -/

section Arithmetic

variable {α : Type} [Add α] [Mul α] [Div α] [OfScientific α]

/-- The share of common texts in an arithmetic with its own counts. -/
def shareIn (count : ℕ → α) (a b : List String) : α :=
  if a = [] ∧ b = [] then 1.0
  else count (a.toFinset ∩ b.toFinset).card / count (a.toFinset ∪ b.toFinset).card

/-- The mean of the three parts of similarity in an arithmetic with its own counts. -/
def meanIn (count : ℕ → α) (f g : Features) : α :=
  (5.0 * shareIn count f.structureTokens g.structureTokens +
    2.0 * (1.0 / (1.0 + 0.1 * count (gap f.complexity g.complexity))) +
    3.0 * shareIn count f.controlFlow g.controlFlow) / 10.0

end Arithmetic

/-- Similarity is the mean in floating point arithmetic, moved into the interval. -/
lemma similarity_eq_clampUnit (f g : Features) :
    similarity f g = clampUnit (meanIn Float.ofNat f g) := by
  unfold similarity closeness meanIn shareIn
  rw [jaccard_eq, jaccard_eq]

/-- The share of common texts in exact arithmetic. -/
def exactShare (a b : List String) : ℚ :=
  shareIn Nat.cast a b

/-- Similarity in exact arithmetic. -/
def exactSimilarity (f g : Features) : ℚ :=
  meanIn Nat.cast f g

/-- The share of common texts lies between zero and one. -/
lemma exactShare_bounds (a b : List String) : 0 ≤ exactShare a b ∧ exactShare a b ≤ 1 := by
  unfold exactShare shareIn
  split
  · norm_num
  · have hle : (a.toFinset ∩ b.toFinset).card ≤ (a.toFinset ∪ b.toFinset).card :=
      Finset.card_le_card Finset.inter_subset_union
    constructor
    · positivity
    · exact div_le_one_of_le₀ (Nat.cast_le.2 hle) (Nat.cast_nonneg _)

/-- Two lists share all texts exactly if they have the same ones. -/
lemma exactShare_eq_one_iff {a b : List String} :
    exactShare a b = 1 ↔ ∀ t, t ∈ a ↔ t ∈ b := by
  rw [← List.toFinset.ext_iff]
  unfold exactShare shareIn
  split
  · rename_i hempty
    rw [hempty.1, hempty.2]
    norm_num
  · rename_i hempty
    have hpos : ((a.toFinset ∪ b.toFinset).card : ℚ) ≠ 0 :=
      Nat.cast_ne_zero.2 (card_union_pos hempty).ne'
    rw [div_eq_one_iff_eq hpos, Nat.cast_inj]
    constructor
    · intro hcard
      -- The common texts are as many as all, so that they are all.
      have hall : a.toFinset ∩ b.toFinset = a.toFinset ∪ b.toFinset :=
        Finset.eq_of_subset_of_card_le Finset.inter_subset_union hcard.ge
      exact inf_eq_sup.1 hall
    · intro hsame
      rw [hsame, Finset.inter_self, Finset.union_idempotent]

/-- The share of common texts is settled by which texts there are. -/
lemma exactShare_congr {a b a' b' : List String} (ha : ∀ t, t ∈ a ↔ t ∈ a')
    (hb : ∀ t, t ∈ b ↔ t ∈ b') : exactShare a b = exactShare a' b' := by
  unfold exactShare shareIn
  simp only [← List.toFinset_eq_empty_iff, List.toFinset.ext_iff.2 ha, List.toFinset.ext_iff.2 hb]

/-- How close complexities at a distance are in exact arithmetic. -/
def exactCloseness (d : ℕ) : ℚ :=
  1 / (1 + d / 10)

/-- Complexities are the less close the farther they are apart. -/
lemma exactCloseness_strictAnti : StrictAnti exactCloseness := by
  intro d d' hlt
  have hcast : (d : ℚ) < d' := Nat.cast_lt.2 hlt
  have hpos : (0 : ℚ) < 1 + d / 10 := by positivity
  exact one_div_lt_one_div_of_lt hpos (by linarith)

/-- Complexities at no distance are as close as can be. -/
lemma exactCloseness_zero : exactCloseness 0 = 1 := by
  norm_num [exactCloseness]

/-- Complexities are always close to some degree. -/
lemma exactCloseness_pos (d : ℕ) : 0 < exactCloseness d := by
  unfold exactCloseness
  positivity

/-- No complexities are closer than those at no distance. -/
lemma exactCloseness_le_one (d : ℕ) : exactCloseness d ≤ 1 := by
  rw [← exactCloseness_zero]
  exact exactCloseness_strictAnti.antitone (Nat.zero_le d)

/-- The distance of two complexities in exact arithmetic. -/
lemma cast_gap (a b : ℕ) : (gap a b : ℚ) = |(a : ℚ) - b| := by
  rcases Nat.le_total a b with h | h
  · rw [gap, Nat.sub_eq_zero_of_le h, Nat.zero_add, Nat.cast_sub h, abs_sub_comm,
      abs_of_nonneg (sub_nonneg.2 (Nat.cast_le.2 h))]
  · rw [gap, Nat.sub_eq_zero_of_le h, Nat.add_zero, Nat.cast_sub h,
      abs_of_nonneg (sub_nonneg.2 (Nat.cast_le.2 h))]

/-- Complexities are at no distance exactly if they are equal. -/
lemma gap_eq_zero_iff {a b : ℕ} : gap a b = 0 ↔ a = b := by
  unfold gap
  omega

/-- Similarity in exact arithmetic is the mean of three parts. -/
lemma exactSimilarity_eq (f g : Features) :
    exactSimilarity f g =
      (5 * exactShare f.structureTokens g.structureTokens +
        2 * exactCloseness (gap f.complexity g.complexity) +
        3 * exactShare f.controlFlow g.controlFlow) / 10 := by
  unfold exactSimilarity meanIn exactShare exactCloseness
  norm_num
  ring

/-- Similarity in exact arithmetic lies between zero and one, and is not zero. -/
lemma exactSimilarity_bounds (f g : Features) :
    0 < exactSimilarity f g ∧ exactSimilarity f g ≤ 1 := by
  obtain ⟨hshape, hshape'⟩ := exactShare_bounds f.structureTokens g.structureTokens
  obtain ⟨hflow, hflow'⟩ := exactShare_bounds f.controlFlow g.controlFlow
  have hclose := exactCloseness_pos (gap f.complexity g.complexity)
  have hclose' := exactCloseness_le_one (gap f.complexity g.complexity)
  rw [exactSimilarity_eq]
  constructor <;> linarith

/-- In exact arithmetic only features with the same tokens and the same complexity have a
similarity of one: a mean of parts that are at most one is one only if all parts are. -/
lemma exactSimilarity_eq_one_iff {f g : Features} :
    exactSimilarity f g = 1 ↔ f.HaveSameTokens g ∧ f.complexity = g.complexity := by
  have hshape := (exactShare_bounds f.structureTokens g.structureTokens).2
  have hflow := (exactShare_bounds f.controlFlow g.controlFlow).2
  have hclose := exactCloseness_le_one (gap f.complexity g.complexity)
  rw [exactSimilarity_eq]
  constructor
  · intro hone
    have hshape' : exactShare f.structureTokens g.structureTokens = 1 := by linarith
    have hflow' : exactShare f.controlFlow g.controlFlow = 1 := by linarith
    have hclose' : exactCloseness (gap f.complexity g.complexity) = exactCloseness 0 := by
      rw [exactCloseness_zero]
      linarith
    have hgap := exactCloseness_strictAnti.injective hclose'
    refine ⟨⟨exactShare_eq_one_iff.1 hshape', exactShare_eq_one_iff.1 hflow'⟩, ?_⟩
    exact gap_eq_zero_iff.1 hgap
  · rintro ⟨hsame, hcomplexity⟩
    rw [exactShare_eq_one_iff.2 hsame.structureTokens, exactShare_eq_one_iff.2 hsame.controlFlow,
      gap_eq_zero_iff.2 hcomplexity, exactCloseness_zero]
    norm_num

/-- In exact arithmetic, features with given tokens are the less similar the farther their
complexities are apart. -/
lemma exactSimilarity_lt {f g f' g' : Features} (hf : f.HaveSameTokens f')
    (hg : g.HaveSameTokens g')
    (hgap : gap f.complexity g.complexity < gap f'.complexity g'.complexity) :
    exactSimilarity f' g' < exactSimilarity f g := by
  have hclose := exactCloseness_strictAnti hgap
  rw [exactSimilarity_eq, exactSimilarity_eq,
    exactShare_congr hf.structureTokens hg.structureTokens,
    exactShare_congr hf.controlFlow hg.controlFlow]
  linarith

/-- **The bounds of similarity**: similarity is never the value that is no number, and it lies
between zero and one; for features with the same tokens and the same complexity it is exactly one.
It is computed by a formula that in exact arithmetic is one in that case only, is always positive
and at most one, and, with given tokens, falls strictly as the distance of the complexities grows.
The number of tokens of a piece of program is one of 63 bits. -/
theorem similarity_in_unit_interval :
    (∀ f g : Features, f.FitsMemory → g.FitsMemory →
      (similarity f g).isNaN = false ∧ 0.0 ≤ similarity f g ∧ similarity f g ≤ 1.0 ∧
      (f.HaveSameTokens g → f.complexity = g.complexity → similarity f g = 1.0)) ∧
    ∀ f g : Features,
      similarity f g = clampUnit (meanIn Float.ofNat f g) ∧
      exactSimilarity f g =
        (5 * exactShare f.structureTokens g.structureTokens +
          2 / (1 + |(f.complexity : ℚ) - g.complexity| / 10) +
          3 * exactShare f.controlFlow g.controlFlow) / 10 ∧
      0 < exactSimilarity f g ∧ exactSimilarity f g ≤ 1 ∧
      (exactSimilarity f g = 1 ↔ f.HaveSameTokens g ∧ f.complexity = g.complexity) ∧
      ∀ f' g' : Features, f.HaveSameTokens f' → g.HaveSameTokens g' →
        |(f.complexity : ℚ) - g.complexity| < |(f'.complexity : ℚ) - g'.complexity| →
          exactSimilarity f' g' < exactSimilarity f g := by
  constructor
  · intro f g hf hg
    obtain ⟨hzero, hone⟩ := similarity_bounds hf hg
    refine ⟨isNaN_similarity hf hg, hzero, hone, ?_⟩
    intro hsame hcomplexity
    have htokens : f.structureTokens.length < 2 ^ 64 := hf.structureTokens.trans (by decide)
    have hflow : f.controlFlow.length < 2 ^ 64 := hf.controlFlow.trans (by decide)
    exact similarity_eq_one hsame hcomplexity htokens hflow
  · intro f g
    obtain ⟨hpos, hle⟩ := exactSimilarity_bounds f g
    refine ⟨similarity_eq_clampUnit f g, ?_, hpos, hle, exactSimilarity_eq_one_iff, ?_⟩
    · rw [exactSimilarity_eq, exactCloseness, cast_gap, mul_one_div]
    · intro f' g' hf hg hdistance
      rw [← cast_gap, ← cast_gap, Nat.cast_lt] at hdistance
      exact exactSimilarity_lt hf hg hdistance

/-- The features of the loop and the repeated ones are as similar as can be, and with another
complexity they are less so in exact arithmetic. -/
theorem similarity_in_unit_interval_repeated :
    similarity loopFeatures repeatedFeatures = 1.0 ∧
      exactSimilarity loopFeatures { repeatedFeatures with complexity := 12 } <
        exactSimilarity loopFeatures repeatedFeatures := by
  obtain ⟨hfloat, hexact⟩ := similarity_in_unit_interval
  have hsame := haveSameTokens_repeatedFeatures
  have hloop : loopFeatures.FitsMemory := ⟨by decide, by decide⟩
  have hrepeated : repeatedFeatures.FitsMemory := ⟨by decide, by decide⟩
  constructor
  · obtain ⟨-, -, -, hone⟩ := hfloat loopFeatures repeatedFeatures hloop hrepeated
    exact hone hsame rfl
  · obtain ⟨-, -, -, -, -, hlt⟩ := hexact loopFeatures repeatedFeatures
    refine hlt loopFeatures { repeatedFeatures with complexity := 12 } (.refl _)
      ⟨fun _ => Iff.rfl, fun _ => Iff.rfl⟩ ?_
    norm_num [loopFeatures, repeatedFeatures]

end Lookalike
