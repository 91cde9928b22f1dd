import Lookalike.Proofs.Registry.Agreement
import Lookalike.Proofs.Report

/-! ### Fast mode

The fast mode compares only records with near fingerprints. What it finds is what the exhaustive
mode finds, without the pairs whose fingerprints are too far apart: the index gives exactly the near
pairs of its items, and leaving out pairs before scoring and sorting is the same as leaving them
out of the result. -/

namespace Lookalike

open Python

/-! #### Near pairs -/

/-- The near pairs of an index with its items under their own fingerprints are the near ones among
all pairs. -/
lemma nearPairs_eq_filter_allPairs {t : MetricTree Record}
    (h : t.entries = t.items.map fun x => (x.fingerprint, x)) (radius : Nat) :
    nearPairs t radius = (allPairs t.items).filter (areWithin radius) := by
  rw [nearPairs, MetricTree.pairs_eq_closePairs, h]
  generalize t.items = xs
  induction xs with
  | nil => rfl
  | cons x rest ih =>
    rw [List.map_cons, MetricTree.closePairs, List.map_append, ih, allPairs, List.filter_append]
    simp only [List.filter_map, List.map_map]
    rfl

namespace Registry

variable {σ : Type}

/-! #### Searches that are not cancelled -/

/-- The report of a search that is not cancelled. -/
lemma duplicates_idle (r : Registry σ) (threshold : Float) (mode : Mode) :
    (r.duplicates threshold mode .idle).1 =
      .ok (.ofPairs (similarPairs (r.candidates threshold mode) threshold false)) := by
  unfold duplicates
  rw [scorePairs_eq, course_idle]
  rfl

/-- The graph of some candidates under a watch that never cancels. -/
lemma graphOf_idle (candidates : List (Record × Record)) (threshold : Float)
    (notices : List Notice) :
    (graphOf candidates threshold .idle notices).1 =
      .ok (.ofPairs (similarPairs candidates threshold true)) := by
  unfold graphOf
  rw [scorePairs_eq, course_idle]
  rfl

/-- The graph of a search that is not cancelled. -/
lemma graph_idle (r : Registry σ) (threshold : Float) (mode : Mode) :
    (r.graph threshold mode .idle).1 =
      .ok (.ofPairs (similarPairs (r.candidates threshold mode) threshold true)) :=
  graphOf_idle _ _ _

variable [RecordStore σ] [LawfulStore σ]

/-- The pairs that the fast mode finds are the near ones among those of the exhaustive mode. -/
lemma Agrees.similarPairs_fast {r : Registry σ} (h : r.Agrees) (threshold : Float)
    (distinct : Bool) :
    similarPairs (r.candidates threshold .fast) threshold distinct =
      (similarPairs (r.candidates threshold .exhaustive) threshold distinct).filter
        (Pair.isWithin (r.settings.radius.radius threshold)) := by
  have hnear : r.candidates threshold .fast =
      (allPairs r.index.items).filter (areWithin (r.settings.radius.radius threshold)) :=
    nearPairs_eq_filter_allPairs h.entries_eq _
  rw [hnear]
  exact similarPairs_filter h.nodup_ids threshold distinct _

/-- **Fast mode**: a search that is not cancelled finds in the fast mode what it finds in the
exhaustive mode, without the pairs whose fingerprints are farther apart than the radius for the
threshold. All that is left is the same: the pairs with their ends and similarities, their order,
and their tiers. The graph of the fast mode is that of the remaining edges. -/
theorem fast_eq_filter_exhaustive {r : Registry (Unreliable σ)} (h : Reachable r)
    (threshold : Float) :
    (∃ fast exhaustive,
      (r.duplicates threshold .fast .idle).1 = .ok fast ∧
      (r.duplicates threshold .exhaustive .idle).1 = .ok exhaustive ∧
      fast.pairs =
        exhaustive.pairs.filter (Pair.isWithin (r.settings.radius.radius threshold)) ∧
      fast.high = exhaustive.high.filter (Pair.isWithin (r.settings.radius.radius threshold)) ∧
      fast.medium =
        exhaustive.medium.filter (Pair.isWithin (r.settings.radius.radius threshold)) ∧
      fast.low = exhaustive.low.filter (Pair.isWithin (r.settings.radius.radius threshold))) ∧
    ∃ edges,
      (scorePairs (r.candidates threshold .exhaustive) threshold true .idle []).1 = .ok edges ∧
      (r.graph threshold .exhaustive .idle).1 = .ok (.ofPairs edges) ∧
      (r.graph threshold .fast .idle).1 =
        .ok (.ofPairs (edges.filter (Pair.isWithin (r.settings.radius.radius threshold)))) := by
  constructor
  · refine ⟨_, _, r.duplicates_idle threshold .fast, r.duplicates_idle threshold .exhaustive, ?_⟩
    rw [h.agrees.similarPairs_fast]
    obtain ⟨hhigh, hmedium, hlow⟩ := Report.ofPairs_filter
      (similarPairs (r.candidates threshold .exhaustive) threshold false)
      (Pair.isWithin (r.settings.radius.radius threshold))
    refine ⟨?_, hhigh, hmedium, hlow⟩
    rw [Report.pairs, hhigh, hmedium, hlow, Report.pairs, List.filter_append, List.filter_append]
  · refine ⟨_, ?_, r.graph_idle threshold .exhaustive, ?_⟩
    · rw [scorePairs_eq, course_idle]
      rfl
    · rw [← h.agrees.similarPairs_fast]
      exact r.graph_idle threshold .fast

/-- How many pairs a search that is not cancelled lists, and how many of these have a property, can
be counted among its candidates. -/
lemma total_and_countP_of_duplicates {σ : Type} {r : Registry σ} {threshold : Float} {mode : Mode}
    {report : Report} (hreport : (r.duplicates threshold mode .idle).1 = .ok report)
    {has : Pair → Bool} {flags : List Bool}
    (hflags : ((r.candidates threshold mode).filterMap (pairOf threshold false)).map has = flags) :
    report.total = flags.length ∧ report.pairs.countP has = flags.count true := by
  obtain rfl := Except.ok.inj ((r.duplicates_idle threshold mode).symm.trans hreport)
  have hperm := (List.mergeSort_perm
    ((r.candidates threshold mode).filterMap (pairOf threshold false)) Pair.le)
  subst hflags
  constructor
  · rw [List.length_map]
    exact hperm.length_eq
  · rw [(Report.pairs_ofPairs_perm _).countP_eq, similarPairs, hperm.countP_eq,
      List.count_eq_countP, List.countP_map]
    exact List.countP_congr fun p _ => by simp

/-- A unit with one token, whose fingerprint is far from that of a unit without any. -/
def unlikeUnit : CodeUnit :=
  { plainUnit with name := "g", features := ⟨["RETURN"], 1, .empty, [], [], .empty⟩ }

/-- A store with the records of a unit and of a copy of it, and with one of an unlike unit. -/
def storeWithUnlike : MemoryStore :=
  ⟨⟨[("a", { Record.ofUnit 0 plainUnit with id := "a" }),
      ("b", { Record.ofUnit 0 plainUnit with id := "b" }),
      ("c", { Record.ofUnit 0 unlikeUnit with id := "c" })], ascending_iff_map_fst.2 (by decide)⟩,
    by simp [Keyed]⟩

/-- Of the pairs of its records that are similar at all, only the copies are within the radius. -/
lemma pairs_openedOver_storeWithUnlike :
    ((((openedOver storeWithUnlike .default).candidates 0.0 .exhaustive).filterMap
      (pairOf 0.0 false)).map (Pair.isWithin (Settings.default.radius.radius 0.0))) =
      [true, false, false] := by
  decide +kernel

/-- Of the three pairs of a unit, its copy and an unlike unit, the fast mode leaves one. -/
theorem fast_eq_filter_exhaustive_storeWithUnlike :
    ∃ fast exhaustive,
      ((openedOver storeWithUnlike .default).duplicates 0.0 .fast .idle).1 = .ok fast ∧
      ((openedOver storeWithUnlike .default).duplicates 0.0 .exhaustive .idle).1 =
        .ok exhaustive ∧
      fast.pairs = exhaustive.pairs.filter (Pair.isWithin (Settings.default.radius.radius 0.0)) ∧
      exhaustive.total = 3 ∧ fast.pairs.length = 1 := by
  obtain ⟨⟨fast, exhaustive, hfast, hexhaustive, hpairs, -⟩, -⟩ :=
    fast_eq_filter_exhaustive (reachable_openedOver storeWithUnlike .default) 0.0
  rw [settings_openedOver] at hpairs
  obtain ⟨htotal, hleft⟩ :=
    total_and_countP_of_duplicates hexhaustive pairs_openedOver_storeWithUnlike
  refine ⟨fast, exhaustive, hfast, hexhaustive, hpairs, htotal, ?_⟩
  rw [hpairs, ← List.countP_eq_length_filter, hleft]
  rfl

end Registry

end Lookalike
