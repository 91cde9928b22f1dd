import Lookalike.Proofs.Clones
import Lookalike.Proofs.Registry.BruteForce

/-! ### Clones are never missed

Two records of clones have one fingerprint, so that the index finds each around the other in every
radius, and their similarity is exactly one, so that no threshold up to one shuts them out. Among
all pairs of records theirs is met once, whatever else is in the registry. -/

namespace Lookalike

open Python

/-! #### The pair of two records -/

namespace Pair

/-- Whether a pair is of two given records by their names, whichever of them it has first. -/
def joins (x y : Record) (p : Pair) : Bool :=
  (p.a.id = x.id && p.b.id = y.id) || (p.a.id = y.id && p.b.id = x.id)

/-- A pair of two given records that are as similar as can be. -/
structure IsExact (x y : Record) (p : Pair) : Prop where
  ends : p.a = x ∧ p.b = y ∨ p.a = y ∧ p.b = x
  similarity : p.similarity = 1.0
  tier : p.tier = .high
  distance : p.a.fingerprint.distance p.b.fingerprint = 0

variable {x y : Record} {p : Pair}

/-- An exact pair joins its records. -/
lemma IsExact.joins (h : p.IsExact x y) : p.joins x y = true := by
  obtain ⟨hx, hy⟩ | ⟨hy, hx⟩ := h.ends <;> simp [Pair.joins, hx, hy]

/-- An exact pair is within every radius. -/
lemma IsExact.isWithin (h : p.IsExact x y) (radius : Nat) : p.isWithin radius = true := by
  rw [Pair.isWithin, h.distance]
  exact decide_eq_true (Nat.zero_le radius)

end Pair

/-- Two records with different names, the same fingerprint and a similarity of one have an exact
pair. -/
lemma exists_pairOf_eq_some {x y : Record} (hid : x.id ≠ y.id)
    (hfingerprint : x.fingerprint = y.fingerprint)
    (hsimilarity : similarity x.unit.features y.unit.features = 1.0) {threshold : Float}
    (hthreshold : threshold ≤ 1.0) :
    ∃ p, pairOf threshold false (x, y) = some p ∧ p.IsExact x y := by
  have hnot : ¬ (1.0 : Float) < threshold := Binary64.not_lt_of_le hthreshold
  have hdistance : x.fingerprint.distance y.fingerprint = 0 := by
    rw [hfingerprint, Fingerprint.distance_self]
  unfold pairOf
  simp only [decide_eq_false hid, Bool.false_and, Bool.or_false, Bool.false_eq_true, if_false,
    hsimilarity, if_neg hnot]
  split
  · exact ⟨_, rfl, .inl ⟨rfl, rfl⟩, rfl, Tier.of_one, hdistance⟩
  · exact ⟨_, rfl, .inr ⟨rfl, rfl⟩, rfl, Tier.of_one, Fingerprint.distance_comm _ _ ▸ hdistance⟩

/-- A pair with a record of another name does not join two records. -/
lemma filter_joins_pairOf_eq_none {x y a b : Record} (hx : b.id ≠ x.id) (hy : b.id ≠ y.id)
    (threshold : Float) (distinct : Bool) :
    (pairOf threshold distinct (a, b)).filter (Pair.joins x y) = none := by
  cases hp : pairOf threshold distinct (a, b) with
  | none => rfl
  | some p =>
    have hjoins : p.joins x y = false := by
      obtain ⟨⟨-, hb⟩ | ⟨hb, -⟩, -⟩ := ends_of_pairOf_eq_some hp <;> simp [Pair.joins, hb, hx, hy]
    rw [Option.filter_some, hjoins, if_neg Bool.false_ne_true]

/-- Among all pairs of records with different names, the pair of two of them is met once. -/
lemma filter_joins_filterMap_allPairs {xs : List Record} (hids : (xs.map (·.id)).Nodup)
    {x y : Record} (hx : x ∈ xs) (hy : y ∈ xs) (hid : x.id ≠ y.id) {threshold : Float}
    {distinct : Bool} {p : Pair} (hp : pairOf threshold distinct (x, y) = some p)
    (hjoins : p.joins x y = true) :
    ((allPairs xs).filterMap (pairOf threshold distinct)).filter (Pair.joins x y) = [p] := by
  have hne : x ≠ y := fun h => hid (congrArg Record.id h)
  have hy' : y ∈ xs.erase x := (List.mem_erase_of_ne hne.symm).2 hy
  obtain ⟨rest, hperm⟩ : ∃ rest, xs.Perm (x :: y :: rest) :=
    ⟨_, (List.perm_cons_erase hx).trans ((List.perm_cons_erase hy').cons x)⟩
  have hnodup : ((x :: y :: rest).map (·.id)).Nodup := (hperm.map (·.id)).nodup_iff.1 hids
  simp only [List.map_cons, List.nodup_cons, List.mem_cons, List.mem_map, not_or, not_exists,
    not_and] at hnodup
  obtain ⟨⟨-, hxrest⟩, hyrest, -⟩ := hnodup
  -- Of all other pairs, the second record is among the rest.
  have hothers (others : List (Record × Record)) (hrest : ∀ c ∈ others, c.2 ∈ rest) :
      others.filterMap (fun c => (pairOf threshold distinct c).filter (Pair.joins x y)) = [] := by
    refine List.filterMap_eq_nil_iff.2 fun c hc => ?_
    have hc := hrest c hc
    exact filter_joins_pairOf_eq_none (hxrest _ hc) (hyrest _ hc) threshold distinct
  have hwith (a : Record) : ∀ c ∈ rest.map fun b => (a, b), c.2 ∈ rest :=
    List.forall_mem_map.2 fun b hb => hb
  have hfirst : (pairOf threshold distinct (x, y)).filter (Pair.joins x y) = some p := by
    rw [hp, Option.filter_some, if_pos hjoins]
  have hpairs : (allPairs (x :: y :: rest)).filterMap
      (fun c => (pairOf threshold distinct c).filter (Pair.joins x y)) = [p] := by
    simp only [allPairs, List.map_cons, List.cons_append, List.filterMap_cons, hfirst,
      List.filterMap_append, hothers _ (hwith x), hothers _ (hwith y),
      hothers _ fun c hc => (mem_of_mem_allPairs hc).2, List.append_nil]
  rw [List.filter_filterMap, ← List.perm_singleton, ← hpairs]
  exact filterMap_allPairs_perm (fun a b => by rw [pairOf_swap]) hperm

namespace Registry

section Search

variable {σ : Type} [RecordStore σ] [LawfulStore σ] {r : Registry σ}

/-- In either mode the exact pair of two records is listed once, if the threshold is at most
one. -/
lemma Agrees.filter_joins_similarPairs (h : r.Agrees) {x y : Record} (hx : x ∈ r.all)
    (hy : y ∈ r.all) (hid : x.id ≠ y.id) {threshold : Float} {p : Pair}
    (hp : pairOf threshold false (x, y) = some p) (hexact : p.IsExact x y) (mode : Mode) :
    (similarPairs (r.candidates threshold mode) threshold false).filter (Pair.joins x y) = [p] := by
  have hall : (similarPairs (r.candidates threshold .exhaustive) threshold false).filter
      (Pair.joins x y) = [p] := by
    rw [← List.perm_singleton, ← filter_joins_filterMap_allPairs h.nodup_ids
      (h.items_perm.mem_iff.2 hx) (h.items_perm.mem_iff.2 hy) hid hp hexact.joins]
    exact (List.mergeSort_perm _ _).filter _
  cases mode with
  | exhaustive => exact hall
  | fast =>
    rw [h.similarPairs_fast, List.filter_comm, hall]
    simp [hexact.isWithin]

/-- The report of some pairs lists an exact pair as often as they do, and in the highest tier. -/
lemma filter_joins_ofPairs {x y : Record} {pairs : List Pair} {p : Pair} (hexact : p.IsExact x y)
    (h : pairs.filter (Pair.joins x y) = [p]) :
    (Report.ofPairs pairs).pairs.filter (Pair.joins x y) = [p] ∧
      (Report.ofPairs pairs).high.filter (Pair.joins x y) = [p] := by
  obtain ⟨hhigh, hmedium, hlow⟩ := Report.ofPairs_filter pairs (Pair.joins x y)
  rw [h] at hhigh hmedium hlow
  have htier : (Report.ofPairs [p]).high = [p] ∧ (Report.ofPairs [p]).medium = [] ∧
      (Report.ofPairs [p]).low = [] := by
    simp [Report.ofPairs, hexact.tier]
  rw [Report.pairs, List.filter_append, List.filter_append, ← hhigh, ← hmedium, ← hlow, htier.1,
    htier.2.1, htier.2.2]
  exact ⟨rfl, rfl⟩

end Search

/-- **Clones are never missed**: two records of clones with their own fingerprints, in whatever
reachable registry and beside whatever other records, are listed as a pair exactly once by a search
for duplicates in either mode, as similar as can be and in the highest tier, and each of them is
among the records related to the other, at whatever threshold up to one and with whatever radius.
The number of tokens of a unit is one of 64 bits. -/
theorem clones_never_missed {σ : Type} [RecordStore σ] [LawfulStore σ]
    {r : Registry (Unreliable σ)} (h : Reachable r) {x y : Record} (hx : x ∈ r.all)
    (hy : y ∈ r.all) (hid : x.id ≠ y.id)
    (hxf : x.fingerprint = .ofFeatures x.unit.features)
    (hyf : y.fingerprint = .ofFeatures y.unit.features)
    (hclones : x.unit.features.AreClones y.unit.features)
    (htokens : x.unit.features.structureTokens.length < 2 ^ 64)
    (hflow : x.unit.features.controlFlow.length < 2 ^ 64) {threshold : Float}
    (hthreshold : threshold ≤ 1.0) :
    (∀ mode, ∃ report p, (r.duplicates threshold mode .idle).1 = .ok report ∧ p.IsExact x y ∧
      report.pairs.filter (Pair.joins x y) = [p] ∧ report.high.filter (Pair.joins x y) = [p]) ∧
    ∀ maxResults, r.size ≤ maxResults →
      ⟨y, 1.0, 0⟩ ∈ r.related x.id threshold maxResults ∧
      ⟨x, 1.0, 0⟩ ∈ r.related y.id threshold maxResults := by
  have hfingerprint : x.fingerprint = y.fingerprint := by
    rw [hxf, hyf, Fingerprint.ofFeatures_eq_of_areClones hclones]
  have hdistance : x.fingerprint.distance y.fingerprint = 0 := by
    rw [hfingerprint, Fingerprint.distance_self]
  have hdistance' : y.fingerprint.distance x.fingerprint = 0 := by
    rw [hfingerprint, Fingerprint.distance_self]
  have hsimilarity := similarity_eq_one_of_areClones hclones htokens hflow
  have hsimilarity' : similarity y.unit.features x.unit.features = 1.0 :=
    (similarity_comm _ _).trans hsimilarity
  refine ⟨fun mode => ?_, fun maxResults hroom => ⟨?_, ?_⟩⟩
  · obtain ⟨p, hp, hexact⟩ := exists_pairOf_eq_some hid hfingerprint hsimilarity hthreshold
    have hlisted := h.agrees.filter_joins_similarPairs hx hy hid hp hexact mode
    exact ⟨_, p, r.duplicates_idle threshold mode, hexact, filter_joins_ofPairs hexact hlisted⟩
  · exact (h.agrees.mem_related_iff hx hroom).2 ⟨⟨hy, hsimilarity.symm, hdistance'.symm⟩, hid.symm,
      Nat.zero_le _, hthreshold⟩
  · exact (h.agrees.mem_related_iff hy hroom).2 ⟨⟨hx, hsimilarity'.symm, hdistance.symm⟩, hid,
      Nat.zero_le _, hthreshold⟩

/-- The record of a clone is listed once beside the record of its original, and related to it. -/
theorem clones_never_missed_withClone :
    (∃ report p, (withClone.duplicates 0.8 .fast .idle).1 = .ok report ∧ p.similarity = 1.0 ∧
      report.high.filter
        (Pair.joins { tokenRecord with id := "a" } { shuffledRecord with id := "b" }) = [p]) ∧
    ⟨{ shuffledRecord with id := "b" }, 1.0, 0⟩ ∈ withClone.related "a" 0.8 3 := by
  have hclones : tokenRecord.unit.features.AreClones shuffledRecord.unit.features :=
    ⟨.swap _ _ _, rfl, rfl, .swap _ _ _, .swap _ _ _⟩
  have hthreshold : (0.8 : Float) ≤ 1.0 := by decide +kernel
  obtain ⟨hlisted, hrelated⟩ := clones_never_missed reachable_withClone tokenRecord_mem_withClone
    shuffledRecord_mem_withClone (by decide) rfl rfl hclones (by decide) (by decide) hthreshold
  obtain ⟨report, p, hreport, hexact, -, hhigh⟩ := hlisted .fast
  exact ⟨⟨report, p, hreport, hexact.similarity, hhigh⟩, (hrelated 3 size_withClone.le).1⟩

end Registry

end Lookalike
