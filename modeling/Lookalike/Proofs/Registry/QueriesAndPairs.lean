import Lookalike.Proofs.Components
import Lookalike.Proofs.Registry.Clones

/-! ### Queries and pairs

A query keeps the records whose similarity is at least the threshold; the search for pairs leaves
out the pairs whose similarity is below it. Since a similarity is always a number, the two decide
alike at every threshold that is a number. At a threshold that is none, nothing is at least the
threshold and nothing is below it: a query finds nothing then, and the search for pairs finds
all. -/

namespace Lookalike

open Python Binary64

/-! #### What a search for pairs keeps -/

/-- A pair is not below the threshold at which it was found. -/
lemma not_lt_of_pairOf_eq_some {threshold : Float} {distinct : Bool} {candidate : Record × Record}
    {p : Pair} (h : pairOf threshold distinct candidate = some p) : ¬ p.similarity < threshold := by
  obtain ⟨a, b⟩ := candidate
  unfold pairOf at h
  dsimp only at h
  split at h
  · cases h
  · split at h
    · cases h
    · rename_i hlt
      split at h <;> (obtain rfl := Option.some.inj h; exact hlt)

/-- Two records with different names that are not below a threshold have a pair at it. -/
lemma exists_pairOf_eq_some_of_not_lt {x y : Record} (hid : x.id ≠ y.id) {threshold : Float}
    (hlt : ¬ similarity x.unit.features y.unit.features < threshold) :
    ∃ p, pairOf threshold false (x, y) = some p ∧ p.joins x y = true ∧
      p.similarity = similarity x.unit.features y.unit.features := by
  unfold pairOf
  simp only [decide_eq_false hid, Bool.false_and, Bool.or_false, Bool.false_eq_true, if_false,
    if_neg hlt]
  split
  · exact ⟨_, rfl, by simp [Pair.joins], rfl⟩
  · exact ⟨_, rfl, by simp [Pair.joins], rfl⟩

/-- A pair of records in a list that joins two of them has their similarity. -/
lemma Pair.IsOf.similarity_eq_of_joins {xs : List Record} (hids : (xs.map (·.id)).Nodup) {p : Pair}
    (h : p.IsOf xs) {x y : Record} (hx : x ∈ xs) (hy : y ∈ xs) (hjoins : p.joins x y = true) :
    p.similarity = Lookalike.similarity x.unit.features y.unit.features := by
  have hinj := List.inj_on_of_nodup_map hids
  simp only [Pair.joins, Bool.or_eq_true, Bool.and_eq_true, decide_eq_true_eq] at hjoins
  rw [h.similarity_eq]
  obtain ⟨ha, hb⟩ | ⟨ha, hb⟩ := hjoins
  · rw [hinj h.fst_mem hx ha, hinj h.snd_mem hy hb]
  · rw [hinj h.fst_mem hy ha, hinj h.snd_mem hx hb, similarity_comm]

namespace Registry

/-- At a threshold that is no number a query finds nothing. -/
lemma related_of_isNaN {σ : Type} (r : Registry σ) (id : String) {threshold : Float}
    (ht : threshold.isNaN = true) (maxResults : Nat) : r.related id threshold maxResults = [] := by
  have hnone (u : CodeUnit) (hit : Record × Nat) : matchOf u threshold hit = none :=
    if_neg (not_le_of_isNaN ht)
  unfold related matchesAmong
  cases r.get? id with
  | none => rfl
  | some x => simp [hnone]

section Search

variable {σ : Type} [RecordStore σ] [LawfulStore σ] {r : Registry σ}

/-- The similar pairs in either mode are pairs of records that are not below the threshold. -/
lemma Agrees.of_mem_similarPairs (h : r.Agrees) {threshold : Float} {mode : Mode} {distinct : Bool}
    {p : Pair} (hp : p ∈ similarPairs (r.candidates threshold mode) threshold distinct) :
    p.IsOf r.all ∧ ¬ p.similarity < threshold := by
  rw [h.candidates_eq, similarPairs, List.mem_mergeSort] at hp
  obtain ⟨c, hc, hpair⟩ := List.mem_filterMap.1 hp
  have hall : c ∈ allPairs r.index.items := by
    cases mode with
    | fast => exact (List.mem_filter.1 hc).1
    | exhaustive => exact hc
  have hof := isOf_of_mem_filterMap_allPairs (List.mem_filterMap.2 ⟨c, hall, hpair⟩)
  refine ⟨⟨?_, ?_, hof.similarity_eq⟩, not_lt_of_pairOf_eq_some hpair⟩
  · exact h.items_perm.mem_iff.1 hof.fst_mem
  · exact h.items_perm.mem_iff.1 hof.snd_mem

/-- The exhaustive mode finds a pair of two records if they are not below the threshold. -/
lemma Agrees.exists_mem_similarPairs (h : r.Agrees) {x y : Record} (hx : x ∈ r.all)
    (hy : y ∈ r.all) (hid : x.id ≠ y.id) {threshold : Float}
    (hlt : ¬ similarity x.unit.features y.unit.features < threshold) :
    ∃ p ∈ similarPairs (r.candidates threshold .exhaustive) threshold false,
      p.joins x y = true ∧ p.similarity = similarity x.unit.features y.unit.features := by
  obtain ⟨p, hp, hjoins, hs⟩ := exists_pairOf_eq_some_of_not_lt hid hlt
  refine ⟨p, ?_, hjoins, hs⟩
  have honly := filter_joins_filterMap_allPairs h.nodup_ids (h.items_perm.mem_iff.2 hx)
    (h.items_perm.mem_iff.2 hy) hid hp hjoins
  have hmem : p ∈ ((allPairs r.index.items).filterMap (pairOf threshold false)).filter
      (Pair.joins x y) := by
    rw [honly]
    exact List.mem_singleton_self p
  exact List.mem_mergeSort.2 (List.mem_filter.1 hmem).1

/-- At a threshold that is a number, the similar pairs are at least as similar as it asks. -/
lemma Agrees.le_of_mem_similarPairs (h : r.Agrees)
    (hfits : ∀ x ∈ r.all, x.unit.features.FitsMemory) {threshold : Float}
    (ht : threshold.isNaN = false) {mode : Mode} {distinct : Bool} {p : Pair}
    (hp : p ∈ similarPairs (r.candidates threshold mode) threshold distinct) :
    threshold ≤ p.similarity := by
  obtain ⟨hof, hlt⟩ := h.of_mem_similarPairs hp
  refine le_of_not_lt ?_ ht hlt
  rw [hof.similarity_eq]
  exact isNaN_similarity (hfits _ hof.fst_mem) (hfits _ hof.snd_mem)

end Search

/-- **Queries and pairs**: at a threshold that is a number, all pairs in a report and all edges of a
graph are at least as similar as it asks, and a record is found by a query for another one, with
room for all records, exactly if the exhaustive search lists their pair and their fingerprints are
within the radius of the query, which is the whole part of what the threshold leaves open of the
greatest distance, and at least ten; the similarity is the same. -/
theorem queries_agree_with_pairs {σ : Type} [RecordStore σ] [LawfulStore σ]
    {r : Registry (Unreliable σ)} (h : Reachable r)
    (hfits : ∀ x ∈ r.all, x.unit.features.FitsMemory) {threshold : Float}
    (ht : threshold.isNaN = false) :
    (∀ mode, ∃ report graph,
      (r.duplicates threshold mode .idle).1 = .ok report ∧
      (r.graph threshold mode .idle).1 = .ok graph ∧
      (∀ p ∈ report.pairs, threshold ≤ p.similarity) ∧
      ∀ id, ∀ n ∈ graph.neighbours id, ∃ s, n.2 = .ofFloat s ∧ threshold ≤ s) ∧
    ∃ report, (r.duplicates threshold .exhaustive .idle).1 = .ok report ∧
      ∀ x ∈ r.all, ∀ y ∈ r.all, x.id ≠ y.id → ∀ s d maxResults, r.size ≤ maxResults →
        (⟨y, s, d⟩ ∈ r.related x.id threshold maxResults ↔
          (∃ p ∈ report.pairs, p.joins x y = true ∧ p.similarity = s) ∧
            d = y.fingerprint.distance x.fingerprint ∧
              d ≤ max 10 (min (Binary64.wholePart (64.0 * (1.0 - threshold))) 64)) := by
  constructor
  · intro mode
    refine ⟨_, _, r.duplicates_idle threshold mode, r.graph_idle threshold mode, ?_, ?_⟩
    · intro p hp
      exact h.agrees.le_of_mem_similarPairs hfits ht (Report.mem_pairs_ofPairs.1 hp)
    · intro id n hn
      obtain ⟨e, he, -, hs⟩ := Graph.mem_neighbours_ofEdges.1 hn
      obtain ⟨p, hp, rfl⟩ := List.mem_map.1 he
      exact ⟨_, hs, h.agrees.le_of_mem_similarPairs hfits ht hp⟩
  · refine ⟨_, r.duplicates_idle threshold .exhaustive, ?_⟩
    intro x hx y hy hid s d maxResults hroom
    simp only [h.agrees.mem_related_iff hx hroom, Report.mem_pairs_ofPairs, ← relatedRadius_eq]
    constructor
    · rintro ⟨hof, -, hradius, hle⟩
      have hs : s = similarity x.unit.features y.unit.features := hof.similarity_eq
      rw [hs] at hle
      obtain ⟨p, hp, hjoins, hp'⟩ :=
        h.agrees.exists_mem_similarPairs hx hy hid (not_lt_of_le hle)
      exact ⟨⟨p, hp, hjoins, hp'.trans hs.symm⟩, hof.distance_eq, hradius⟩
    · rintro ⟨⟨p, hp, hjoins, rfl⟩, rfl, hradius⟩
      have hle := h.agrees.le_of_mem_similarPairs hfits ht hp
      have hs := (h.agrees.of_mem_similarPairs hp).1.similarity_eq_of_joins h.agrees.keyed.nodup_id
        hx hy hjoins
      exact ⟨⟨hy, hs, rfl⟩, hid.symm, hradius, hle⟩

/-- A clone and its original: what a query for the original finds is what the pairs have. -/
theorem queries_agree_with_pairs_withClone :
    ∃ report, (withClone.duplicates 0.8 .exhaustive .idle).1 = .ok report ∧
      ∀ s d, (⟨{ shuffledRecord with id := "b" }, s, d⟩ ∈ withClone.related "a" 0.8 3 ↔
        (∃ p ∈ report.pairs, p.joins { tokenRecord with id := "a" }
            { shuffledRecord with id := "b" } = true ∧ p.similarity = s) ∧
          d = shuffledRecord.fingerprint.distance tokenRecord.fingerprint ∧
            d ≤ max 10 (min (Binary64.wholePart (64.0 * (1.0 - 0.8))) 64)) := by
  have hfits : ∀ x ∈ withClone.all, x.unit.features.FitsMemory := by
    rw [all_withClone]
    intro x hx
    simp only [storeWithClone, TextMap.values, List.map_cons, List.map_nil, List.mem_cons,
      List.not_mem_nil, or_false] at hx
    rcases hx with rfl | rfl | rfl <;> exact ⟨by decide, by decide⟩
  have hnumber : (0.8 : Float).isNaN = false := rfl
  obtain ⟨-, report, hreport, hagree⟩ :=
    queries_agree_with_pairs reachable_withClone hfits hnumber
  exact ⟨report, hreport, fun s d => hagree _ tokenRecord_mem_withClone _
    shuffledRecord_mem_withClone (by decide) s d 3 size_withClone.le⟩

/-- At the threshold that is no number the pair of a clone and its original is listed, although its
similarity is not at least the threshold, and a query for the original finds nothing, although the
fingerprints are the same. -/
theorem queries_disagree_with_pairs_withClone :
    (∃ report, (withClone.duplicates (0.0 / 0.0) .exhaustive .idle).1 = .ok report ∧
      ∃ p ∈ report.pairs, p.joins { tokenRecord with id := "a" }
        { shuffledRecord with id := "b" } = true ∧ ¬ 0.0 / 0.0 ≤ p.similarity) ∧
    shuffledRecord.fingerprint.distance tokenRecord.fingerprint ≤
      max 10 (min (Binary64.wholePart (64.0 * (1.0 - 0.0 / 0.0))) 64) ∧
    withClone.related "a" (0.0 / 0.0) 3 = [] := by
  have hnan : (0.0 / 0.0 : Float).isNaN = true := by decide +kernel
  refine ⟨⟨_, withClone.duplicates_idle _ .exhaustive, ?_⟩, ?_, related_of_isNaN _ _ hnan _⟩
  · obtain ⟨p, hp, hjoins, -⟩ := reachable_withClone.agrees.exists_mem_similarPairs
      tokenRecord_mem_withClone shuffledRecord_mem_withClone (by decide) (not_lt_of_isNaN hnan)
    exact ⟨p, Report.mem_pairs_ofPairs.2 hp, hjoins, not_le_of_isNaN hnan⟩
  · have hclones : shuffledRecord.unit.features.AreClones tokenRecord.unit.features :=
      ⟨.swap _ _ _, rfl, rfl, .swap _ _ _, .swap _ _ _⟩
    have hfingerprint : shuffledRecord.fingerprint = tokenRecord.fingerprint :=
      Fingerprint.ofFeatures_eq_of_areClones hclones
    rw [hfingerprint, Fingerprint.distance_self]
    exact Nat.zero_le _

end Registry

end Lookalike
