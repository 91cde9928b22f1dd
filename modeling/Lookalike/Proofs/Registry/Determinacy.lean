import Lookalike.Proofs.Fingerprint.TreeInArena
import Lookalike.Proofs.Registry.FastMode
import Lookalike.Registry.Adaptive

/-! ### What answers depend on

The answers of a registry depend on its settings and on its records alone. The shape of the index,
and the order in which the records came in, are lost whenever matches or pairs are sorted, because
the order of the results tells records with different names apart. -/

namespace Lookalike

open Python

/-! #### Matches -/

instance : Std.TransCmp Match.compare :=
  inferInstanceAs (Std.TransCmp (compareLex
    (fun x y : Match => Binary64.totalCompare y.similarity x.similarity)
    (compareOn fun x : Match => x.record.id)))

/-- The records within a radius of a fingerprint, with their distances from it. -/
def hitsAmong (records : List Record) (query : Fingerprint) (radius : Nat) : List (Record × Nat) :=
  (records.filter fun x => x.fingerprint.distance query ≤ radius).map fun x =>
    (x, x.fingerprint.distance query)

/-- A match of a unit with a record in a list, with their similarity, around a fingerprint. -/
structure Match.IsOf (records : List Record) (u : CodeUnit) (query : Fingerprint) (x : Match) :
    Prop where
  mem : x.record ∈ records
  similarity_eq : x.similarity = Lookalike.similarity u.features x.record.unit.features
  distance_eq : x.distance = x.record.fingerprint.distance query

/-- The matches among hits in a list of records are matches with records in the list. -/
lemma isOf_of_mem_filterMap_hitsAmong {records : List Record} {query : Fingerprint} {radius : Nat}
    {id : String} {u : CodeUnit} {threshold : Float} {x : Match}
    (h : x ∈ ((hitsAmong records query radius).filter fun (y, _) => y.id ≠ id).filterMap
      (matchOf u threshold)) : x.IsOf records u query := by
  obtain ⟨hit, hhit, hx⟩ := List.mem_filterMap.1 h
  obtain ⟨y, hy, rfl⟩ := List.mem_map.1 (List.mem_filter.1 hhit).1
  unfold matchOf at hx
  dsimp only at hx
  split at hx
  · obtain rfl := Option.some.inj hx
    exact ⟨(List.mem_filter.1 hy).1, rfl, rfl⟩
  · cases hx

/-- Matches with records of different names are told apart by their order. -/
lemma separates_matches {records : List Record} (hids : (records.map (·.id)).Nodup)
    {u : CodeUnit} {query : Fingerprint} {found : List Match}
    (h : ∀ x ∈ found, x.IsOf records u query) : Sorting.Separates Match.le found := by
  intro x hx y hy hxy hyx
  have heq : x.compare y = .eq := Sorting.eq_of_isLE_of_isLE Match.compare hxy hyx
  rw [Match.compare, Ordering.then_eq_eq] at heq
  have hrecord : x.record = y.record := List.inj_on_of_nodup_map hids (h x hx).mem (h y hy).mem
    (Std.LawfulEqOrd.eq_of_compare heq.2)
  have hsimilarity : x.similarity = y.similarity := by
    rw [(h x hx).similarity_eq, (h y hy).similarity_eq, hrecord]
  have hdistance : x.distance = y.distance := by
    rw [(h x hx).distance_eq, (h y hy).distance_eq, hrecord]
  exact Match.ext hrecord hsimilarity hdistance

namespace Registry

/-- The matches among some hits do not depend on the order of the hits. -/
lemma matchesAmong_eq {records : List Record} (hids : (records.map (·.id)).Nodup)
    {hits : List (Record × Nat)} {query : Fingerprint} {radius : Nat}
    (h : hits.Perm (hitsAmong records query radius)) (id : String) (u : CodeUnit)
    (threshold : Float) :
    matchesAmong id u threshold hits =
      matchesAmong id u threshold (hitsAmong records query radius) :=
  Sorting.mergeSort_congr (Sorting.isLE_trans Match.compare) (Sorting.isLE_total Match.compare)
    ((h.filter _).filterMap _)
    (separates_matches hids fun _ hx => isOf_of_mem_filterMap_hitsAmong hx)

/-- The pairs of records in a list that are compared. -/
def candidatesAmong (records : List Record) (radius : Nat) : Mode → List (Record × Record)
  | .fast => (allPairs records).filter (areWithin radius)
  | .exhaustive => allPairs records

/-- The number of pairs that are compared does not depend on the order of the records. -/
lemma length_candidatesAmong_eq_of_perm {xs ys : List Record} (h : xs.Perm ys) (radius : Nat)
    (mode : Mode) :
    (candidatesAmong xs radius mode).length = (candidatesAmong ys radius mode).length := by
  cases mode with
  | fast => exact length_filter_allPairs_eq_of_perm (areWithin_swap radius) h
  | exhaustive =>
    have hall := length_filter_allPairs_eq_of_perm (p := fun _ => true) (fun _ _ => rfl) h
    simpa [candidatesAmong] using hall

/-- The similar pairs among those that are compared do not depend on the order of the records. -/
lemma similarPairs_candidatesAmong {xs ys : List Record} (h : xs.Perm ys)
    (hids : (ys.map (·.id)).Nodup) (radius : Nat) (mode : Mode) (threshold : Float)
    (distinct : Bool) :
    similarPairs (candidatesAmong xs radius mode) threshold distinct =
      similarPairs (candidatesAmong ys radius mode) threshold distinct := by
  cases mode with
  | exhaustive => exact similarPairs_congr h hids threshold distinct
  | fast =>
    have hids' : (xs.map (·.id)).Nodup := (h.map (·.id)).nodup_iff.2 hids
    rw [candidatesAmong, similarPairs_filter hids', candidatesAmong, similarPairs_filter hids,
      similarPairs_congr h hids]

/-! #### Answers of a registry that agrees with its store -/

section Answers

variable {σ : Type} [RecordStore σ] [LawfulStore σ] {r : Registry σ}

/-- A search finds the same matches as a look at all records. -/
lemma Agrees.matchesAmong_eq (h : r.Agrees) (id : String) (u : CodeUnit) (threshold : Float)
    (query : Fingerprint) (radius : Nat) :
    matchesAmong id u threshold (r.index.search query radius) =
      matchesAmong id u threshold (hitsAmong r.records.values query radius) := by
  refine Registry.matchesAmong_eq h.keyed.nodup_id ?_ id u threshold
  have hhits := (h.indexed.filter fun e => e.1.distance query ≤ radius).map fun e =>
    (e.2, e.1.distance query)
  rw [List.filter_map, List.map_map] at hhits
  exact (r.index.search_perm query radius).trans hhits

/-- The candidates of a registry are those among the items of its index. -/
lemma Agrees.candidates_eq (h : r.Agrees) (threshold : Float) (mode : Mode) :
    r.candidates threshold mode =
      candidatesAmong r.index.items (r.settings.radius.radius threshold) mode := by
  cases mode with
  | fast => exact nearPairs_eq_filter_allPairs h.entries_eq _
  | exhaustive => rfl

/-- Scoring the candidates of a registry is scoring the pairs of its records in the order of their
names. -/
lemma Agrees.scorePairs_eq (h : r.Agrees) (threshold : Float) (mode : Mode) (distinct : Bool)
    (watch : Watch) (notices : List Notice) :
    scorePairs (r.candidates threshold mode) threshold distinct watch notices =
      scorePairs (candidatesAmong r.records.values (r.settings.radius.radius threshold) mode)
        threshold distinct watch notices := by
  rw [Lookalike.scorePairs_eq, Lookalike.scorePairs_eq, h.candidates_eq,
    length_candidatesAmong_eq_of_perm h.items_perm,
    similarPairs_candidatesAmong h.items_perm h.keyed.nodup_id]

end Answers

/-! #### Two registries with the same records -/

section Two

variable {σ τ : Type} {r : Registry σ} {s : Registry τ}

/-- The tries of an adaptive search depend on the settings and on the number of records. -/
lemma probe_congr (hsettings : r.settings = s.settings) (hsize : r.size = s.size)
    (g : AdaptiveGoal) (sample : List Record) (watch : Watch) (left : Nat) (state : AdaptiveState)
    (notices : List Notice) :
    r.probe g sample watch left state notices = s.probe g sample watch left state notices := by
  induction left generalizing state notices with
  | zero => rfl
  | succ left ih =>
    have hcandidates : ∀ threshold mode, r.sampleCandidates sample threshold mode =
        s.sampleCandidates sample threshold mode := by
      intro threshold mode
      unfold sampleCandidates
      rw [hsettings]
    unfold probe
    simp only [ih, hcandidates, hsize]

/-- **Answers depend on the records**: two reachable registries with the same settings and the same
records give the same answers, whatever their stores, the shapes of their indexes, and the order in
which the records came in and went. -/
theorem answers_eq_of_records_eq [RecordStore σ] [LawfulStore σ] [RecordStore τ] [LawfulStore τ]
    {r : Registry (Unreliable σ)} {s : Registry (Unreliable τ)} (hr : Reachable r)
    (hs : Reachable s) (hsettings : r.settings = s.settings) (hrecords : r.records = s.records) :
    (∀ (u : CodeUnit) (threshold : Float) (radius : Nat),
      r.similarToUnit u threshold radius = s.similarToUnit u threshold radius) ∧
    (∀ (source : String) (threshold : Float),
      r.similarTo source threshold = s.similarTo source threshold) ∧
    (∀ (id : String) (threshold : Float) (maxResults : Nat),
      r.related id threshold maxResults = s.related id threshold maxResults) ∧
    (∀ (threshold : Float) (mode : Mode) (watch : Watch),
      r.duplicates threshold mode watch = s.duplicates threshold mode watch) ∧
    (∀ (threshold : Float) (mode : Mode) (watch : Watch),
      r.graph threshold mode watch = s.graph threshold mode watch) ∧
    ∀ (g : AdaptiveGoal) (watch : Watch), r.adaptive g watch = s.adaptive g watch := by
  have hunit : ∀ u threshold radius,
      r.similarToUnit u threshold radius = s.similarToUnit u threshold radius := by
    intro u threshold radius
    rw [similarToUnit, similarToUnit, hr.agrees.matchesAmong_eq, hs.agrees.matchesAmong_eq,
      hrecords, hsettings]
  have hscore : ∀ threshold mode distinct watch notices,
      scorePairs (r.candidates threshold mode) threshold distinct watch notices =
        scorePairs (s.candidates threshold mode) threshold distinct watch notices := by
    intro threshold mode distinct watch notices
    rw [hr.agrees.scorePairs_eq, hs.agrees.scorePairs_eq, hrecords, hsettings]
  have hgraph : ∀ threshold mode watch notices,
      r.graphAfter threshold mode watch notices = s.graphAfter threshold mode watch notices := by
    intro threshold mode watch notices
    rw [graphAfter, graphAfter, graphOf, graphOf, hscore]
  refine ⟨hunit, ?_, ?_, ?_, ?_, ?_⟩
  · intro source threshold
    unfold similarTo
    simp only [hunit, hsettings]
  · intro id threshold maxResults
    unfold related get?
    simp only [hr.agrees.matchesAmong_eq, hs.agrees.matchesAmong_eq, hrecords]
  · intro threshold mode watch
    rw [duplicates, duplicates, hscore]
  · intro threshold mode watch
    exact hgraph threshold mode watch []
  · intro g watch
    have hsize : r.size = s.size := by rw [size, size, hrecords]
    have hsample : r.sample g = s.sample g := by rw [sample, sample, all, all, hrecords]
    unfold adaptive
    simp only [hsample, hgraph, probe_congr hsettings hsize]

end Two

/-- The name of the record of a plain unit is a digest. -/
lemma contentHash_plainUnit_lt : plainUnit.contentHash < "g" := by
  decide +kernel

/-- A record of a plain unit under another name and with another fingerprint. -/
def movedRecord : Record :=
  { Record.ofUnit 0 plainUnit with id := "g", fingerprint := ⟨7⟩ }

/-- A store with two records of plain units. -/
def storeOfTwo : MemoryStore :=
  ⟨⟨[("g", movedRecord), ("h", { Record.ofUnit 0 plainUnit with id := "h" })],
      ascending_iff_map_fst.2 (by decide)⟩,
    by simp [Keyed, movedRecord]⟩

/-- The names in the store come after that of the record of a plain unit. -/
lemma lt_of_mem_storeOfTwo : ∀ e ∈ storeOfTwo.records.entries, plainUnit.contentHash < e.1 := by
  have hh : plainUnit.contentHash < "h" := String.lt_trans contentHash_plainUnit_lt (by decide)
  simpa [storeOfTwo] using And.intro contentHash_plainUnit_lt hh

/-- The store with the record of a plain unit before the two records. -/
def storeOfThree : MemoryStore :=
  ⟨⟨(plainUnit.contentHash, .ofUnit 0 plainUnit) :: storeOfTwo.records.entries,
      List.pairwise_cons.2 ⟨lt_of_mem_storeOfTwo, storeOfTwo.records.ascending⟩⟩,
    by simp [Keyed, storeOfTwo, movedRecord, Record.ofUnit]⟩

/-- A registry that is opened over the two records and takes in the plain unit after them. -/
def outOfOrder : Registry (Unreliable MemoryStore) :=
  ((openedOver storeOfTwo .default).facing []).after (.registerUnit 0 plainUnit)

/-- A registry that is opened over the three records takes them in in the order of their names. -/
def inOrder : Registry (Unreliable MemoryStore) :=
  openedOver storeOfThree .default

/-- The plain unit comes in. -/
lemma exists_outOfOrder_eq : ∃ r : Registry (Unreliable MemoryStore),
    r.records = storeOfTwo.records ∧ r.index.items = storeOfTwo.records.values ∧
      outOfOrder = r.load (.ofUnit 0 plainUnit) := by
  have hnew : storeOfTwo.records.get? plainUnit.contentHash = none :=
    TextMap.get?_eq_none_iff.2 fun e he => (String.ne_of_lt (lt_of_mem_storeOfTwo e he)).symm
  rcases hreply : ((openedOver storeOfTwo .default).facing []).registerUnit 0 plainUnit with
    ⟨answer, r⟩
  have hr : outOfOrder = r := congrArg Prod.snd hreply
  rw [hr]
  cases unitComes hreply with
  | known hget =>
    rw [facing, records_openedOver, hnew] at hget
    cases hget
  | refused _ hinsert => cases hinsert
  | taken _ _ =>
    refine ⟨_, ?_, ?_, rfl⟩
    · exact records_openedOver storeOfTwo .default
    · exact items_openedOver storeOfTwo .default

/-- The record of a unit that is loaded stands under the digest of the unit. -/
lemma records_load_ofUnit {σ : Type} (r : Registry σ) (now : Int) (u : CodeUnit) :
    (r.load (.ofUnit now u)).records = r.records.insert u.contentHash (.ofUnit now u) :=
  rfl

/-- The two registries have the same records. -/
lemma records_outOfOrder : outOfOrder.records = inOrder.records := by
  obtain ⟨r, hrecords, -, hout⟩ := exists_outOfOrder_eq
  rw [hout, records_load_ofUnit, hrecords, inOrder, records_openedOver]
  refine TextMap.ext ((TextMap.entries_insert_of_forall_lt lt_of_mem_storeOfTwo _).trans ?_)
  rw [storeOfThree]

/-- The first registry has the record of the plain unit last in its index. -/
lemma items_outOfOrder :
    outOfOrder.index.items = storeOfTwo.records.values ++ [.ofUnit 0 plainUnit] := by
  obtain ⟨r, -, hitems, hout⟩ := exists_outOfOrder_eq
  rw [hout, ← hitems, load, MetricTree.items, MetricTree.insert, List.map_append]
  rfl

/-- The name of the record on top of an index is the first one in it. -/
lemma map_id_root {σ : Type} (r : Registry σ) :
    r.index.root.map (·.entry.item.id) = (r.index.items.map (·.id)).head? := by
  rw [List.head?_map, ← r.index.map_item_root, Option.map_map]
  rfl

/-- The pairs in the second registry that are similar enough. -/
lemma pairs_inOrder :
    ((inOrder.candidates 0.8 .fast).filterMap (pairOf 0.8 false)).map (fun _ => true) =
      [true, true, true] := by
  have hagrees := (reachable_openedOver storeOfThree .default).agrees
  rw [candidates, inOrder, nearPairs_eq_filter_allPairs hagrees.entries_eq, items_openedOver]
  decide +kernel

/-- The records of the second registry that are similar to its second one. -/
lemma length_related_inOrder (maxResults : Nat) :
    (inOrder.related "g" 0.8 maxResults).length = min maxResults 2 := by
  have hagrees : inOrder.Agrees := (reachable_openedOver storeOfThree .default).agrees
  have hvalues : inOrder.records.values = storeOfThree.records.values :=
    congrArg TextMap.values (records_openedOver storeOfThree .default)
  have hmem : movedRecord ∈ inOrder.records.values := by
    rw [hvalues]
    exact .tail _ (.head _)
  have hg := hagrees.keyed.get?_id hmem
  have hid : movedRecord.id = "g" := rfl
  rw [← hid, related, get?, hg]
  dsimp only
  rw [hagrees.matchesAmong_eq, List.length_take, matchesAmong, List.length_mergeSort, hvalues]
  have hlength : (((hitsAmong storeOfThree.records.values movedRecord.fingerprint
      (relatedRadius 0.8)).filter fun (x, _) => x.id ≠ movedRecord.id).filterMap
        (matchOf movedRecord.unit 0.8)).length = 2 := by
    decide +kernel
  rw [hlength]

/-- Two registries have the same three records, which came in in different orders, so that their
trees have different nodes on top. Each finds three pairs, and the same one of two records that are
equally similar to a third. -/
theorem answers_eq_of_records_eq_outOfOrder :
    outOfOrder.index.items.map (·.id) = ["g", "h", plainUnit.contentHash] ∧
      inOrder.index.items.map (·.id) = [plainUnit.contentHash, "g", "h"] ∧
      outOfOrder.index.root.map (·.entry.item.id) ≠ inOrder.index.root.map (·.entry.item.id) ∧
      (∃ report, (outOfOrder.duplicates 0.8 .fast .idle).1 = .ok report ∧
        (inOrder.duplicates 0.8 .fast .idle).1 = .ok report ∧ report.total = 3) ∧
      outOfOrder.related "g" 0.8 1 = inOrder.related "g" 0.8 1 ∧
      (inOrder.related "g" 0.8 1).length = 1 ∧ (inOrder.related "g" 0.8 2).length = 2 := by
  have hout : Reachable outOfOrder :=
    .handled [] (.registerUnit 0 plainUnit) (reachable_openedOver storeOfTwo .default)
  have hin : Reachable inOrder := reachable_openedOver storeOfThree .default
  have hsettings : outOfOrder.settings = inOrder.settings := by
    rw [outOfOrder, settings_after, facing, inOrder, settings_openedOver, settings_openedOver]
  obtain ⟨-, -, hrelated, hduplicates, -, -⟩ :=
    answers_eq_of_records_eq hout hin hsettings records_outOfOrder
  have hreport := inOrder.duplicates_idle 0.8 .fast
  have hitems : outOfOrder.index.items.map (·.id) = ["g", "h", plainUnit.contentHash] := by
    rw [items_outOfOrder]
    rfl
  have hitems' : inOrder.index.items.map (·.id) = [plainUnit.contentHash, "g", "h"] := by
    rw [inOrder, items_openedOver]
    rfl
  refine ⟨hitems, hitems', ?_, ⟨_, ?_, hreport, ?_⟩, hrelated "g" 0.8 1,
    length_related_inOrder 1, length_related_inOrder 2⟩
  · rw [map_id_root, map_id_root, hitems, hitems']
    exact fun h => String.ne_of_lt contentHash_plainUnit_lt (Option.some.inj h).symm
  · rw [hduplicates]
    exact hreport
  · exact (total_and_countP_of_duplicates hreport pairs_inOrder).1

end Registry

end Lookalike
