import Lookalike.Proofs.Decimal.TotalOrder
import Lookalike.Proofs.Registry.Scoring
import Lookalike.Proofs.Similarity.Bounds
import Lookalike.Report

/-! ### Pairs in reports

A report is built pair by pair, each pair going to the end of its tier. Read tier by tier, it is
the stable partition of the pairs that came in: nothing is lost, and no two pairs of one tier change
places. The bounds of the tiers ascend with the similarity, so that pairs which come in with the
most similar first are read in the order in which they came. -/

namespace Lookalike

/-! #### Tiers -/

namespace Tier

/-- Where a tier stands in a report. -/
def rank : Tier → Nat
  | .high => 0
  | .medium => 1
  | .low => 2

/-- What is more similar stands in no later tier. -/
lemma rank_of_le {s t : Float} (h : s ≤ t) : (Tier.of t).rank ≤ (Tier.of s).rank := by
  have hhigh : (0.9 : Float) ≤ s → 0.9 ≤ t := fun hs => Binary64.le_trans hs h
  have hmedium : (0.7 : Float) ≤ s → 0.7 ≤ t := fun hs => Binary64.le_trans hs h
  unfold Tier.of
  split_ifs <;> simp_all [rank]

end Tier

/-- Whether a pair stands in no later tier than another one. -/
def Pair.tierLe (p q : Pair) : Bool :=
  p.tier.rank ≤ q.tier.rank

/-- Standing in no later tier is transitive. -/
lemma Pair.tierLe_trans (p q t : Pair) (hpq : p.tierLe q = true) (hqt : q.tierLe t = true) :
    p.tierLe t = true :=
  decide_eq_true ((of_decide_eq_true hpq).trans (of_decide_eq_true hqt))

/-- Of two pairs one stands in no later tier than the other. -/
lemma Pair.tierLe_total (p q : Pair) : (p.tierLe q || q.tierLe p) = true := by
  rw [Bool.or_eq_true, tierLe, tierLe, decide_eq_true_eq, decide_eq_true_eq]
  exact Nat.le_total _ _

namespace Report

/-! #### Building a report -/

/-- The pairs of a tier. -/
def ofTier (r : Report) : Tier → List Pair
  | .high => r.high
  | .medium => r.medium
  | .low => r.low

/-- A report with one more pair, at the end of its tier. -/
def push (r : Report) (p : Pair) : Report :=
  match p.tier with
  | .high => { r with high := r.high ++ [p] }
  | .medium => { r with medium := r.medium ++ [p] }
  | .low => { r with low := r.low ++ [p] }

/-- The pairs of a tier, in their order, are those that came in and belong there. -/
lemma ofTier_ofPairs (pairs : List Pair) (tier : Tier) :
    (ofPairs pairs).ofTier tier = pairs.filter (·.tier = tier) := by
  cases tier <;> rfl

/-- The pairs of a tier belong there. -/
lemma tier_of_mem_ofTier {pairs : List Pair} (tier : Tier) {p : Pair}
    (hp : p ∈ (ofPairs pairs).ofTier tier) : p.tier = tier := by
  rw [ofTier_ofPairs, List.mem_filter] at hp
  exact of_decide_eq_true hp.2

/-- To put one more pair into a report of some pairs gives the report of these pairs and that. -/
lemma push_ofPairs (pairs : List Pair) (p : Pair) (n : Nat) :
    push { ofPairs pairs with total := n } p = { ofPairs (pairs ++ [p]) with total := n } := by
  unfold push ofPairs
  cases htier : p.tier <;> simp [htier]

/-- Pairs put one after another into an empty report make their report. -/
lemma foldl_push_empty (pairs : List Pair) (n : Nat) :
    pairs.foldl push { empty with total := n } = { ofPairs pairs with total := n } := by
  induction pairs using List.reverseRecOn with
  | nil => rfl
  | append_singleton rest p ih =>
    rw [List.foldl_append, ih]
    exact push_ofPairs rest p n

/-- A report has the pairs that it was made of, each as often. -/
lemma pairs_ofPairs_perm (pairs : List Pair) : (ofPairs pairs).pairs.Perm pairs := by
  induction pairs with
  | nil => exact .nil
  | cons p rest ih =>
    have hmiddle (xs ys : List Pair) (h : (xs ++ ys).Perm rest) :
        (xs ++ p :: ys).Perm (p :: rest) := List.perm_middle.trans (h.cons p)
    unfold Report.pairs ofPairs at ih ⊢
    cases htier : p.tier with
    | high => simpa [htier] using ih
    | medium => simpa [htier] using hmiddle _ _ (by simpa using ih)
    | low => simpa [htier] using hmiddle _ _ ih

/-- A report has the pairs that it was made of. -/
lemma mem_pairs_ofPairs {pairs : List Pair} {p : Pair} : p ∈ (ofPairs pairs).pairs ↔ p ∈ pairs :=
  (pairs_ofPairs_perm pairs).mem_iff

/-- The report of the pairs that pass a test has those in each tier that pass it. -/
lemma ofPairs_filter (pairs : List Pair) (keep : Pair → Bool) :
    (ofPairs (pairs.filter keep)).high = (ofPairs pairs).high.filter keep ∧
      (ofPairs (pairs.filter keep)).medium = (ofPairs pairs).medium.filter keep ∧
      (ofPairs (pairs.filter keep)).low = (ofPairs pairs).low.filter keep :=
  ⟨List.filter_comm .., List.filter_comm .., List.filter_comm ..⟩

/-- The tiers of a report are as long as the list of the pairs that came in. -/
lemma total_ofPairs (pairs : List Pair) :
    (ofPairs pairs).total = (ofPairs pairs).high.length + (ofPairs pairs).medium.length +
      (ofPairs pairs).low.length := by
  have hlength := (pairs_ofPairs_perm pairs).length_eq
  rw [Report.pairs, List.length_append, List.length_append] at hlength
  exact hlength.symm

/-! #### The order of a report -/

/-- Pairs that come in tier by tier are read in the order in which they came. -/
lemma pairs_ofPairs_of_pairwise {pairs : List Pair}
    (h : pairs.Pairwise fun p q => p.tierLe q = true) : (ofPairs pairs).pairs = pairs := by
  induction pairs with
  | nil => rfl
  | cons p rest ih =>
    obtain ⟨hp, hrest⟩ := List.pairwise_cons.1 h
    have hread := ih hrest
    -- No pair of an earlier tier than the first one is left.
    have hnone (tier : Tier) (htier : tier.rank < p.tier.rank) :
        rest.filter (·.tier = tier) = [] := by
      refine List.filter_eq_nil_iff.2 fun q hq => ?_
      have hle : p.tier.rank ≤ q.tier.rank := of_decide_eq_true (hp q hq)
      simp only [decide_eq_true_eq]
      rintro rfl
      omega
    unfold Report.pairs ofPairs at hread ⊢
    cases htier : p.tier with
    | high => simpa [htier] using hread
    | medium =>
      have hhigh := hnone .high (by rw [htier]; decide)
      rw [hhigh] at hread
      simpa [htier, hhigh] using hread
    | low =>
      have hhigh := hnone .high (by rw [htier]; decide)
      have hmedium := hnone .medium (by rw [htier]; decide)
      rw [hhigh, hmedium] at hread
      simpa [htier, hhigh, hmedium] using hread

/-- Sorting by tiers does not change the order within a tier. -/
lemma filter_mergeSort_tierLe (pairs : List Pair) (tier : Tier) :
    (pairs.mergeSort Pair.tierLe).filter (·.tier = tier) = pairs.filter (·.tier = tier) := by
  have hsame : (pairs.filter (·.tier = tier)).Pairwise fun p q => p.tierLe q = true := by
    refine List.pairwise_of_forall_mem_list fun p hp q hq => ?_
    have hptier := of_decide_eq_true (List.mem_filter.1 hp).2
    have hqtier := of_decide_eq_true (List.mem_filter.1 hq).2
    rw [Pair.tierLe, hptier, hqtier]
    exact decide_eq_true le_rfl
  have hsub : (pairs.filter (·.tier = tier)).Sublist (pairs.mergeSort Pair.tierLe) :=
    List.sublist_mergeSort Pair.tierLe_trans Pair.tierLe_total hsame List.filter_sublist
  have hsub' := hsub.filter (·.tier = tier)
  rw [List.filter_filter, funext fun p => Bool.and_self _] at hsub'
  have hlength := ((List.mergeSort_perm pairs Pair.tierLe).filter (·.tier = tier)).length_eq
  exact (hsub'.eq_of_length hlength.symm).symm

/-- A report is read as its pairs are sorted by their tiers, without any other change. -/
lemma pairs_ofPairs_eq_mergeSort (pairs : List Pair) :
    (ofPairs pairs).pairs = pairs.mergeSort Pair.tierLe := by
  have hsorted := List.pairwise_mergeSort Pair.tierLe_trans Pair.tierLe_total pairs
  have hread := pairs_ofPairs_of_pairwise hsorted
  unfold Report.pairs ofPairs at hread ⊢
  simpa only [filter_mergeSort_tierLe] using hread

/-- Pairs that come in with the most similar first come in tier by tier. -/
lemma pairwise_tierLe_of_descending {pairs : List Pair}
    (h : pairs.Pairwise fun p q => q.similarity ≤ p.similarity) :
    pairs.Pairwise fun p q => p.tierLe q = true :=
  h.imp fun hle => decide_eq_true (Tier.rank_of_le hle)

/-! #### Scored pairs -/

/-- The similarities of scored pairs are numbers. -/
lemma isNaN_of_mem_similarPairs {candidates : List (Record × Record)}
    (hfits : ∀ c ∈ candidates, c.1.unit.features.FitsMemory ∧ c.2.unit.features.FitsMemory)
    {threshold : Float} {distinct : Bool} {p : Pair}
    (hp : p ∈ similarPairs candidates threshold distinct) : p.similarity.isNaN = false := by
  obtain ⟨⟨a, b⟩, hc, hpair⟩ := List.mem_filterMap.1 (List.mem_mergeSort.1 hp)
  obtain ⟨ha, hb⟩ := hfits _ hc
  obtain ⟨hends, hs⟩ := ends_of_pairOf_eq_some hpair
  rw [hs]
  rcases hends with ⟨hpa, hpb⟩ | ⟨hpa, hpb⟩
  · rw [hpa, hpb]
    exact isNaN_similarity ha hb
  · rw [hpa, hpb]
    exact isNaN_similarity hb ha

/-- Scored pairs are in descending order of similarity as numbers. -/
lemma descending_similarPairs {candidates : List (Record × Record)}
    (hfits : ∀ c ∈ candidates, c.1.unit.features.FitsMemory ∧ c.2.unit.features.FitsMemory)
    (threshold : Float) (distinct : Bool) :
    (similarPairs candidates threshold distinct).Pairwise fun p q =>
      q.similarity ≤ p.similarity := by
  have hsorted : (similarPairs candidates threshold distinct).Pairwise fun p q =>
      (p.compare q).isLE = true :=
    List.pairwise_mergeSort (Sorting.isLE_trans Pair.compare) (Sorting.isLE_total Pair.compare) _
  refine hsorted.imp_of_mem fun {p q} hp hq hle => ?_
  have hp' := isNaN_of_mem_similarPairs hfits hp
  have hq' := isNaN_of_mem_similarPairs hfits hq
  have hfirst := Ordering.isLE_left_of_isLE_then (Ordering.isLE_left_of_isLE_then hle)
  exact Binary64.le_of_totalCompare hq' hp' hfirst

/-- **Tiers neither lose nor reorder pairs**: the report of some pairs comes about by putting one
after another at the end of its tier. Each tier has exactly the pairs of that tier, each as often
and in the order in which they came in, the lengths of the tiers add up to the number of pairs, and
the report is read as the pairs are when they are sorted by tiers alone. Pairs that come in with the
most similar first, as scored pairs do, are read in the order in which they came. -/
theorem tiers_partition_pairs :
    (∀ pairs : List Pair,
      ofPairs pairs = pairs.foldl push { empty with total := pairs.length } ∧
      (ofPairs pairs).pairs.Perm pairs ∧
      (∀ tier, ((ofPairs pairs).ofTier tier).Sublist pairs ∧
        ∀ p, p ∈ (ofPairs pairs).ofTier tier ↔ p ∈ pairs ∧ Tier.of p.similarity = tier) ∧
      (ofPairs pairs).total = (ofPairs pairs).high.length + (ofPairs pairs).medium.length +
        (ofPairs pairs).low.length ∧
      (ofPairs pairs).pairs = pairs.mergeSort Pair.tierLe ∧
      (pairs.Pairwise (fun p q => q.similarity ≤ p.similarity) →
        (ofPairs pairs).pairs = pairs)) ∧
    ∀ (candidates : List (Record × Record)) (threshold : Float) (distinct : Bool) (watch : Watch)
      (notices : List Notice) (pairs : List Pair),
      (∀ c ∈ candidates, c.1.unit.features.FitsMemory ∧ c.2.unit.features.FitsMemory) →
      (scorePairs candidates threshold distinct watch notices).1 = .ok pairs →
        pairs.Pairwise (fun p q => q.similarity ≤ p.similarity) ∧
        (ofPairs pairs).pairs = pairs := by
  constructor
  · intro pairs
    refine ⟨(foldl_push_empty pairs pairs.length).symm, pairs_ofPairs_perm pairs, ?_,
      total_ofPairs pairs, pairs_ofPairs_eq_mergeSort pairs, ?_⟩
    · intro tier
      rw [ofTier_ofPairs]
      refine ⟨List.filter_sublist, fun p => ?_⟩
      rw [List.mem_filter, decide_eq_true_eq]
      exact Iff.rfl
    · intro hdescending
      exact pairs_ofPairs_of_pairwise (pairwise_tierLe_of_descending hdescending)
  · intro candidates threshold distinct watch notices pairs hfits hscored
    rw [scorePairs_eq] at hscored
    split at hscored
    · obtain rfl := Except.ok.inj hscored
      have hdescending := descending_similarPairs hfits threshold distinct
      have htiers := pairwise_tierLe_of_descending hdescending
      exact ⟨hdescending, pairs_ofPairs_of_pairwise htiers⟩
    · cases hscored

/-- A record of a function. -/
def sampleRecord (id : String) : Record :=
  ⟨id, .ofFeatures loopFeatures,
    ⟨"f", .function, "def f(): pass", 1, 1, none, loopFeatures, "f"⟩, 0, 1⟩

/-- Pairs at the bounds of the tiers and between them, the most similar first. -/
def samplePairs : List Pair :=
  [1.0, 0.9, 0.89, 0.7, 0.69].map fun s => ⟨sampleRecord "a", sampleRecord "b", s⟩

/-- The sample pairs, and a pair that was scored, are read in the order in which they came. -/
theorem tiers_partition_pairs_sample :
    (ofPairs samplePairs).pairs = samplePairs ∧
      (ofPairs (similarPairs [(sampleRecord "b", sampleRecord "a")] 0.5 false)).pairs =
        similarPairs [(sampleRecord "b", sampleRecord "a")] 0.5 false := by
  obtain ⟨hgiven, hscored⟩ := tiers_partition_pairs
  constructor
  · obtain ⟨-, -, -, -, -, hread⟩ := hgiven samplePairs
    exact hread (by decide +kernel)
  · have hfits : ∀ c ∈ [(sampleRecord "b", sampleRecord "a")],
        c.1.unit.features.FitsMemory ∧ c.2.unit.features.FitsMemory := by
      intro c hc
      obtain rfl := List.mem_singleton.1 hc
      exact ⟨⟨by decide, by decide⟩, ⟨by decide, by decide⟩⟩
    have hends : (scorePairs [(sampleRecord "b", sampleRecord "a")] 0.5 false .idle []).1 =
        .ok (similarPairs [(sampleRecord "b", sampleRecord "a")] 0.5 false) := by
      rw [scorePairs_eq]
      rfl
    exact (hscored _ _ _ _ _ _ hfits hends).2

end Report

end Lookalike
