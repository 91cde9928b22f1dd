import Lookalike.Proofs.Decimal.Rounding
import Lookalike.Proofs.Registry.Determinacy

/-! ### Queries by looking at all records

A query searches the index, passes over the record that it is about, and ranks the others that are
similar enough. What it gives is what a look at all records would give: the index is a way to find
the near records, and the ranking leaves no two matches in a tie, so that the place at which it is
cut off does not depend on how they were found. -/

namespace Lookalike

open Python

/-! #### Looking at all records -/

namespace Match

/-- The match of a unit with a record, around a fingerprint. -/
def withRecord (u : CodeUnit) (query : Fingerprint) (x : Record) : Match :=
  ⟨x, Lookalike.similarity u.features x.unit.features, x.fingerprint.distance query⟩

/-- One match stands before another one if it is more similar, or as similar with a lesser name. -/
def Before (x y : Match) : Prop :=
  Binary64.totalCompare y.similarity x.similarity = .lt ∨
    x.similarity = y.similarity ∧ x.record.id < y.record.id

/-- A ranking of matches: all of them, each before those that follow it. -/
structure Ranks (found ranked : List Match) : Prop where
  perm : ranked.Perm found
  pairwise : ranked.Pairwise Before

end Match

/-- The matches of a unit with the records of other names whose fingerprints are within a radius of
its own and whose similarity is at least a threshold. -/
def matchesWithin (records : List Record) (id : String) (u : CodeUnit) (query : Fingerprint)
    (radius : Nat) (threshold : Float) : List Match :=
  (records.map (Match.withRecord u query)).filter fun m =>
    m.record.id ≠ id ∧ m.distance ≤ radius ∧ threshold ≤ m.similarity

/-- What the matches within a radius are. -/
lemma mem_matchesWithin {records : List Record} {id : String} {u : CodeUnit} {query : Fingerprint}
    {radius : Nat} {threshold : Float} {m : Match} :
    m ∈ matchesWithin records id u query radius threshold ↔
      m.IsOf records u query ∧ m.record.id ≠ id ∧ m.distance ≤ radius ∧
        threshold ≤ m.similarity := by
  rw [matchesWithin, List.mem_filter, List.mem_map, decide_eq_true_iff]
  refine and_congr_left fun _ => ⟨?_, fun h => ⟨m.record, h.mem, ?_⟩⟩
  · rintro ⟨x, hx, rfl⟩
    exact ⟨hx, rfl, rfl⟩
  · exact Match.ext rfl h.similarity_eq.symm h.distance_eq.symm

/-- There are no more matches within a radius than records. -/
lemma length_matchesWithin_le (records : List Record) (id : String) (u : CodeUnit)
    (query : Fingerprint) (radius : Nat) (threshold : Float) :
    (matchesWithin records id u query radius threshold).length ≤ records.length :=
  (List.length_filter_le _ _).trans (List.length_map _).le

/-- The matches within a radius are of records with different names. -/
lemma nodup_matchesWithin {records : List Record} (hids : (records.map (·.id)).Nodup) (id : String)
    (u : CodeUnit) (query : Fingerprint) (radius : Nat) (threshold : Float) :
    ((matchesWithin records id u query radius threshold).map (·.record.id)).Nodup := by
  have hnames : (records.map (Match.withRecord u query)).map (·.record.id) =
      records.map (·.id) := List.map_map
  rw [← hnames] at hids
  exact hids.sublist (List.filter_sublist.map _)

namespace Registry

/-- The matches among hits are those within the radius, sorted. -/
lemma matchesAmong_hitsAmong (records : List Record) (id : String) (u : CodeUnit)
    (query : Fingerprint) (radius : Nat) (threshold : Float) :
    matchesAmong id u threshold (hitsAmong records query radius) =
      (matchesWithin records id u query radius threshold).mergeSort Match.le := by
  refine congrArg (List.mergeSort · Match.le) ?_
  unfold hitsAmong matchesWithin
  induction records with
  | nil => rfl
  | cons x rest ih =>
    by_cases hradius : x.fingerprint.distance query ≤ radius <;> by_cases hid : x.id = id <;>
      by_cases hle : threshold ≤ similarity u.features x.unit.features <;>
        simp_all [matchOf, Match.withRecord]

/-- The radius for related records is at least ten, and else the whole part of what the threshold
leaves open of the greatest distance. -/
lemma relatedRadius_eq (threshold : Float) :
    relatedRadius threshold = max 10 (min (Binary64.wholePart (64.0 * (1.0 - threshold))) 64) := by
  rw [relatedRadius, Binary64.floorNat_eq_wholePart, Nat.max_comm]
  rfl

example : relatedRadius 0.8 = 12 := by
  decide +kernel

section Queries

variable {σ : Type} [RecordStore σ] [LawfulStore σ] {r : Registry σ}

/-- A search ranks the matches that a look at all records finds. -/
lemma Agrees.ranks_matchesAmong (h : r.Agrees) (id : String) (u : CodeUnit) (query : Fingerprint)
    (radius : Nat) (threshold : Float) :
    Match.Ranks (matchesWithin r.all id u query radius threshold)
      (matchesAmong id u threshold (r.index.search query radius)) := by
  rw [h.matchesAmong_eq, matchesAmong_hitsAmong]
  have hperm := List.mergeSort_perm (matchesWithin r.all id u query radius threshold) Match.le
  refine ⟨hperm, ?_⟩
  have hids := (hperm.map (·.record.id)).nodup_iff.2
    (nodup_matchesWithin h.keyed.nodup_id id u query radius threshold)
  have hsorted := List.pairwise_mergeSort (Sorting.isLE_trans Match.compare)
    (Sorting.isLE_total Match.compare) (matchesWithin r.all id u query radius threshold)
  refine (hsorted.and (List.pairwise_map.1 hids)).imp fun {x y} hxy => ?_
  obtain ⟨hle, hne⟩ := hxy
  obtain hlt | ⟨hs, hid⟩ := (Sorting.isLE_then_compare_iff Binary64.totalCompare).1 hle
  · exact .inl hlt
  · exact .inr ⟨hs, Std.lt_of_le_of_ne hid hne⟩

/-- What a query with room for all records finds: the other records within the radius whose
similarity is at least the threshold. -/
lemma Agrees.mem_related_iff (h : r.Agrees) {x : Record} (hx : x ∈ r.all) {threshold : Float}
    {maxResults : Nat} (hroom : r.size ≤ maxResults) {m : Match} :
    m ∈ r.related x.id threshold maxResults ↔
      m.IsOf r.all x.unit x.fingerprint ∧ m.record.id ≠ x.id ∧
        m.distance ≤ relatedRadius threshold ∧ threshold ≤ m.similarity := by
  have hranks := h.ranks_matchesAmong x.id x.unit x.fingerprint (relatedRadius threshold) threshold
  have hlength := length_matchesWithin_le r.all x.id x.unit x.fingerprint
    (relatedRadius threshold) threshold
  have hall : r.all.length = r.size := List.length_map _
  rw [related, get?, h.keyed.get?_id hx]
  dsimp only
  rw [List.take_of_length_le (by rw [hranks.perm.length_eq]; omega), hranks.perm.mem_iff,
    mem_matchesWithin]

/-- With room for all records, two records are related to each other, or neither to the other. -/
lemma Agrees.mem_related_symm (h : r.Agrees) {x y : Record} (hx : x ∈ r.all) (hy : y ∈ r.all)
    {threshold : Float} {maxResults : Nat} (hroom : r.size ≤ maxResults) {s : Float} {d : Nat}
    (hmem : ⟨y, s, d⟩ ∈ r.related x.id threshold maxResults) :
    ⟨x, s, d⟩ ∈ r.related y.id threshold maxResults := by
  obtain ⟨hof, hid, hradius, hle⟩ := (h.mem_related_iff hx hroom).1 hmem
  refine (h.mem_related_iff hy hroom).2 ⟨⟨hx, ?_, ?_⟩, hid.symm, hradius, hle⟩
  · exact hof.similarity_eq.trans (similarity_comm _ _)
  · exact hof.distance_eq.trans (Fingerprint.distance_comm _ _)

end Queries

/-- **Queries look at all records**: in a reachable registry, a query for a unit gives the first of
the matches with the records of other names whose fingerprints are within the radius and whose
similarity is at least the threshold, ranked by similarity in the total order and then by name. A
query for a record that is there does the same, within the whole part of what the threshold leaves
open of the greatest distance, and at least within ten. With room for all records, one record is
related to another one exactly if the other one is to it, with the same similarity and distance. -/
theorem queries_eq_brute_force {σ : Type} [RecordStore σ] [LawfulStore σ]
    {r : Registry (Unreliable σ)} (h : Reachable r) :
    (∀ u threshold radius, ∃ ranked,
      Match.Ranks
        (matchesWithin r.all u.contentHash u (.ofFeatures u.features) radius threshold) ranked ∧
      r.similarToUnit u threshold radius = ranked.take r.settings.maxResults) ∧
    (∀ id x, r.get? id = some x → ∀ threshold maxResults, ∃ ranked,
      Match.Ranks
        (matchesWithin r.all id x.unit x.fingerprint
          (max 10 (min (Binary64.wholePart (64.0 * (1.0 - threshold))) 64)) threshold) ranked ∧
      r.related id threshold maxResults = ranked.take maxResults) ∧
    ∀ a b x y, r.get? a = some x → r.get? b = some y →
      ∀ threshold maxResults s d, r.size ≤ maxResults →
        (⟨y, s, d⟩ ∈ r.related a threshold maxResults ↔
          ⟨x, s, d⟩ ∈ r.related b threshold maxResults) := by
  refine ⟨fun u threshold radius => ?_, fun id x hx threshold maxResults => ?_, ?_⟩
  · exact ⟨_, h.agrees.ranks_matchesAmong _ _ _ _ _, rfl⟩
  · refine ⟨_, h.agrees.ranks_matchesAmong _ _ _ _ _, ?_⟩
    rw [related, hx, relatedRadius_eq]
  · intro a b x y ha hb threshold maxResults s d hroom
    obtain ⟨hx, rfl⟩ := h.agrees.keyed.get?_eq_some_iff.1 ha
    obtain ⟨hy, rfl⟩ := h.agrees.keyed.get?_eq_some_iff.1 hb
    exact ⟨h.agrees.mem_related_symm hx hy hroom, h.agrees.mem_related_symm hy hx hroom⟩

/-- A record with some tokens. -/
def tokenRecord : Record :=
  .ofUnit 0 { plainUnit with
    features := ⟨["FUNC:0", "RETURN"], 2, .ofList ["os"], ["f", "g"], ["IF@1", "FOR@1"], .empty⟩ }

/-- A record of a clone, with its tokens in another order. -/
def shuffledRecord : Record :=
  .ofUnit 0 { plainUnit with
    name := "g",
    features :=
      ⟨["RETURN", "FUNC:0"], 2, .ofList ["os"], ["g", "f"], ["FOR@1", "IF@1"], .empty⟩ }

/-- A store with the records of clones and with one more record. -/
def storeWithClone : MemoryStore :=
  ⟨⟨[("a", { tokenRecord with id := "a" }), ("b", { shuffledRecord with id := "b" }),
      ("c", { Record.ofUnit 0 plainUnit with id := "c" })], ascending_iff_map_fst.2 (by decide)⟩,
    by simp [Keyed]⟩

/-- A registry that was opened over the store with clones. -/
def withClone : Registry (Unreliable MemoryStore) :=
  openedOver storeWithClone .default

/-- The records of the registry are those of its store. -/
lemma all_withClone : withClone.all = storeWithClone.records.values :=
  all_openedOver storeWithClone .default

/-- The registry with clones is reachable. -/
lemma reachable_withClone : Reachable withClone :=
  reachable_openedOver storeWithClone .default

/-- The record of the original is in the registry with clones. -/
lemma tokenRecord_mem_withClone : { tokenRecord with id := "a" } ∈ withClone.all := by
  rw [all_withClone]
  exact .head _

/-- The record of the clone is in the registry with clones. -/
lemma shuffledRecord_mem_withClone : { shuffledRecord with id := "b" } ∈ withClone.all := by
  rw [all_withClone]
  exact .tail _ (.head _)

/-- The registry with clones has three records. -/
lemma size_withClone : withClone.size = 3 := by
  have hlength : withClone.all.length = withClone.size := List.length_map _
  rw [← hlength, all_withClone]
  rfl

/-- The record of the original is found by its name, ranked among the others, and related to the
record of the clone as that one is to it. -/
theorem queries_eq_brute_force_withClone :
    (∃ ranked,
      Match.Ranks (matchesWithin withClone.all "a" tokenRecord.unit tokenRecord.fingerprint
        (max 10 (min (Binary64.wholePart (64.0 * (1.0 - 0.8))) 64)) 0.8) ranked ∧
      withClone.related "a" 0.8 1 = ranked.take 1) ∧
    ∀ s d, (⟨{ shuffledRecord with id := "b" }, s, d⟩ ∈ withClone.related "a" 0.8 3 ↔
      ⟨{ tokenRecord with id := "a" }, s, d⟩ ∈ withClone.related "b" 0.8 3) := by
  obtain ⟨-, hrelated, hsymm⟩ := queries_eq_brute_force reachable_withClone
  have hkeyed := reachable_withClone.agrees.keyed
  have ha := hkeyed.get?_id tokenRecord_mem_withClone
  have hb := hkeyed.get?_id shuffledRecord_mem_withClone
  exact ⟨hrelated _ _ ha 0.8 1, fun s d => hsymm _ _ _ _ ha hb 0.8 3 s d size_withClone.le⟩

end Registry

end Lookalike
