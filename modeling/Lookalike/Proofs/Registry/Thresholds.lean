import Lookalike.Proofs.Components
import Lookalike.Proofs.Decimal.Order
import Lookalike.Proofs.Registry.FastMode

/-! ### Raising the threshold

A higher threshold only leaves out pairs: those that are left are the same pairs, in the same order
and in the same tiers. The graph of fewer edges is part of the graph of all of them, and what is
connected in it is connected there, so that each of its components lies within one of the larger
graph. -/

namespace Lookalike

/-! #### Graphs of fewer edges -/

namespace Graph

/-- A graph is part of another one: its edges are edges of that, with the same similarities, and
each of its components lies within one of that. -/
structure IsPartOf (g g' : Graph) : Prop where
  neighbours : ∀ x, ∀ n ∈ g.neighbours x, n ∈ g'.neighbours x
  components : ∀ minSize, ∀ c ∈ g.components minSize, ∃ d ∈ g'.components minSize, c ⊆ d

variable {edges edges' : List Edge}

/-- What is connected by some edges is connected by more edges. -/
lemma Connected.mono (hsub : edges ⊆ edges') {x y : String} (h : Connected edges x y) :
    Connected edges' x y :=
  Relation.ReflTransGen.mono (fun _ _ ⟨e, he, hjoins⟩ => ⟨e, hsub he, hjoins⟩) _ _ h

/-- The graph of fewer edges is part of the graph of all of them. -/
lemma isPartOf_ofEdges (hsub : edges ⊆ edges') : (ofEdges edges).IsPartOf (ofEdges edges') where
  neighbours := fun x n hn => by
    obtain ⟨e, he, hends⟩ := mem_neighbours_ofEdges.1 hn
    exact mem_neighbours_ofEdges.2 ⟨e, hsub he, hends⟩
  components := fun minSize c hc => by
    obtain ⟨hascending, hsize, x, ⟨y, e, he, hjoins⟩, hc⟩ := mem_components_iff.1 hc
    have hnode : IsNode edges' x := ⟨y, e, hsub he, hjoins⟩
    obtain ⟨d, -, hd, hmem⟩ := exists_mem_found hnode
    have hcd : c ⊆ d := fun z hz => (hmem z).2 (((hc z).1 hz).mono hsub)
    -- A class of distinct names within another one is no longer than that.
    have hlength := (List.subperm_of_subset (hascending.imp String.ne_of_lt) hcd).length_le
    exact ⟨d, mem_components_iff.2 ⟨hd, hsize.trans hlength, x, hnode, hmem⟩, hcd⟩

/-- The graph of fewer pairs is part of the graph of all of them. -/
lemma isPartOf_ofPairs {pairs pairs' : List Pair} (hsub : pairs ⊆ pairs') :
    (ofPairs pairs).IsPartOf (ofPairs pairs') :=
  isPartOf_ofEdges (List.map_subset _ hsub)

end Graph

/-! #### Pairs that reach a threshold -/

/-- Whether the similarity of a pair is not below a threshold. -/
def Pair.reaches (threshold : Float) (p : Pair) : Bool :=
  !decide (p.similarity < threshold)

variable {lower higher : Float}

/-- The pair at a higher threshold is the one at a lower threshold, if it reaches the higher one. -/
lemma filter_reaches_pairOf (hle : lower ≤ higher) (distinct : Bool)
    (candidate : Record × Record) :
    (pairOf lower distinct candidate).filter (Pair.reaches higher) =
      pairOf higher distinct candidate := by
  obtain ⟨a, b⟩ := candidate
  unfold pairOf
  dsimp only
  split
  · rfl
  · by_cases hlower : similarity a.unit.features b.unit.features < lower
    · rw [if_pos hlower, if_pos (Binary64.lt_of_lt_of_le hlower hle)]
      rfl
    · rw [if_neg hlower]
      by_cases hhigher : similarity a.unit.features b.unit.features < higher
      · rw [if_pos hhigher]
        split <;> simp [Option.filter_some, Pair.reaches, hhigher]
      · rw [if_neg hhigher]
        split <;> simp [Option.filter_some, Pair.reaches, hhigher]

/-- The similar pairs at a higher threshold are those at a lower one that reach it. -/
lemma similarPairs_raise {xs : List Record} (hids : (xs.map (·.id)).Nodup) (hle : lower ≤ higher)
    (distinct : Bool) :
    similarPairs (allPairs xs) higher distinct =
      (similarPairs (allPairs xs) lower distinct).filter (Pair.reaches higher) := by
  have hfilter : (allPairs xs).filterMap (pairOf higher distinct) =
      ((allPairs xs).filterMap (pairOf lower distinct)).filter (Pair.reaches higher) := by
    rw [List.filter_filterMap]
    exact List.filterMap_congr fun c _ => (filter_reaches_pairOf hle distinct c).symm
  rw [similarPairs, similarPairs, hfilter]
  exact Sorting.filter_mergeSort (Sorting.isLE_trans Pair.compare)
    (Sorting.isLE_total Pair.compare) _
    (separates_pairs hids fun _ hp => isOf_of_mem_filterMap_allPairs hp)

namespace Registry

variable {σ : Type}

/-- Whether a pair is left at a threshold: it reaches the threshold and, in the fast mode, its
fingerprints are within the radius for it. -/
def leaves (r : Registry σ) (threshold : Float) (mode : Mode) (p : Pair) : Bool :=
  p.reaches threshold && (mode = .exhaustive || p.isWithin (r.settings.radius.radius threshold))

/-- A threshold is raised without a wider search: in the fast mode its radius does not grow. -/
def Raises (r : Registry σ) (mode : Mode) (lower higher : Float) : Prop :=
  lower ≤ higher ∧
    (mode = .fast → r.settings.radius.radius higher ≤ r.settings.radius.radius lower)

variable [RecordStore σ] [LawfulStore σ]

/-- In either mode the similar pairs at a higher threshold are those at a lower one that are
left. -/
lemma Agrees.similarPairs_raise {r : Registry σ} (h : r.Agrees) {mode : Mode}
    (hraises : r.Raises mode lower higher) (distinct : Bool) :
    similarPairs (r.candidates higher mode) higher distinct =
      (similarPairs (r.candidates lower mode) lower distinct).filter
        (r.leaves higher mode) := by
  have hall := Lookalike.similarPairs_raise h.nodup_ids hraises.1 distinct
  cases mode with
  | exhaustive =>
    have hleaves : r.leaves higher .exhaustive = Pair.reaches higher := by
      funext p
      simp [leaves]
    rw [hleaves]
    exact hall
  | fast =>
    have hradius := hraises.2 rfl
    rw [h.similarPairs_fast, h.similarPairs_fast]
    change (similarPairs (allPairs r.index.items) higher distinct).filter _ =
      ((similarPairs (allPairs r.index.items) lower distinct).filter _).filter _
    rw [hall, List.filter_filter, List.filter_filter]
    refine List.filter_congr fun p _ => ?_
    -- A pair within the radius for the higher threshold is within the one for the lower one.
    have hwithin : p.isWithin (r.settings.radius.radius higher) = true →
        p.isWithin (r.settings.radius.radius lower) = true := by
      intro hp
      exact decide_eq_true ((of_decide_eq_true hp).trans hradius)
    cases hp : p.isWithin (r.settings.radius.radius higher) with
    | false => simp [leaves, hp]
    | true => simp [leaves, hp, hwithin hp]

/-- **Raising the threshold only filters**: the report at a higher threshold is the one at a lower
threshold without the pairs that are less similar than the higher one, in the same order and in the
same tiers, and the graph is part of the one at the lower threshold: its edges are edges there, and
each of its components lies within one there. In the fast mode, where the radius must not grow, the
pairs that are left are also within the radius for the higher threshold. -/
theorem raising_threshold_filters {r : Registry (Unreliable σ)} (h : Reachable r)
    {lower higher : Float} {mode : Mode} (hraises : r.Raises mode lower higher) :
    (∃ report report',
      (r.duplicates lower mode .idle).1 = .ok report ∧
      (r.duplicates higher mode .idle).1 = .ok report' ∧
      report'.pairs = report.pairs.filter (r.leaves higher mode) ∧
      report'.high = report.high.filter (r.leaves higher mode) ∧
      report'.medium = report.medium.filter (r.leaves higher mode) ∧
      report'.low = report.low.filter (r.leaves higher mode)) ∧
    ∃ graph graph',
      (r.graph lower mode .idle).1 = .ok graph ∧
      (r.graph higher mode .idle).1 = .ok graph' ∧
      graph'.IsPartOf graph := by
  constructor
  · refine ⟨_, _, r.duplicates_idle lower mode, r.duplicates_idle higher mode, ?_⟩
    rw [h.agrees.similarPairs_raise hraises]
    obtain ⟨hhigh, hmedium, hlow⟩ := Report.ofPairs_filter
      (similarPairs (r.candidates lower mode) lower false) (r.leaves higher mode)
    refine ⟨?_, hhigh, hmedium, hlow⟩
    rw [Report.pairs, hhigh, hmedium, hlow, Report.pairs, List.filter_append, List.filter_append]
  · refine ⟨_, _, r.graph_idle lower mode, r.graph_idle higher mode, ?_⟩
    rw [h.agrees.similarPairs_raise hraises]
    exact Graph.isPartOf_ofPairs fun p hp => (List.mem_filter.1 hp).1

/-- Settings under which the fast mode compares all records at the lowest threshold, and only those
with near fingerprints at a high one. -/
def wideSettings : Settings :=
  { Settings.default with radius := ⟨5, 50.0⟩ }

/-- Of the pairs of a unit, its copy and an unlike unit, one is left at a higher threshold. -/
lemma leaves_openedOver_storeWithUnlike :
    ((((openedOver storeWithUnlike wideSettings).candidates 0.0 .fast).filterMap
      (pairOf 0.0 false)).map ((openedOver storeWithUnlike wideSettings).leaves 0.9 .fast)) =
      [true, false, false] := by
  have hagrees := (reachable_openedOver storeWithUnlike wideSettings).agrees
  rw [candidates, nearPairs_eq_filter_allPairs hagrees.entries_eq]
  decide +kernel

/-- A higher threshold for a unit, its copy and an unlike unit in the fast mode leaves out two of
three pairs, and its radius is the least one. -/
theorem raising_threshold_filters_storeWithUnlike :
    wideSettings.radius.radius 0.9 < wideSettings.radius.radius 0.0 ∧
    ∃ report report',
      ((openedOver storeWithUnlike wideSettings).duplicates 0.0 .fast .idle).1 = .ok report ∧
      ((openedOver storeWithUnlike wideSettings).duplicates 0.9 .fast .idle).1 = .ok report' ∧
      report'.pairs =
        report.pairs.filter ((openedOver storeWithUnlike wideSettings).leaves 0.9 .fast) ∧
      report.total = 3 ∧ report'.pairs.length = 1 := by
  have hradius : wideSettings.radius.radius 0.9 < wideSettings.radius.radius 0.0 := by
    decide +kernel
  have hraises : (openedOver storeWithUnlike wideSettings).Raises .fast 0.0 0.9 :=
    ⟨by decide +kernel, fun _ => by rw [settings_openedOver]; exact hradius.le⟩
  obtain ⟨⟨report, report', hreport, hreport', hpairs, -⟩, -⟩ :=
    raising_threshold_filters (reachable_openedOver storeWithUnlike wideSettings) hraises
  obtain ⟨htotal, hleft⟩ :=
    total_and_countP_of_duplicates hreport leaves_openedOver_storeWithUnlike
  refine ⟨hradius, report, report', hreport, hreport', hpairs, htotal, ?_⟩
  rw [hpairs, ← List.countP_eq_length_filter, hleft]
  rfl

end Registry

end Lookalike
