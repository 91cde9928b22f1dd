import Lookalike.Proofs.Decimal.Counts
import Lookalike.Proofs.Graph
import Lookalike.Proofs.Registry.AdaptiveSearch

/-! ### Samples of all records

When the sample of an adaptive search has room for all records, each try finds the graph that the
search would give at its threshold, and the estimates are the connections of these graphs, as long
as they have at most 53 bits. The reason for which the search ends is then a statement about the
graph that it gives. -/

namespace Lookalike

open Python

/-! #### Ends with exact estimates -/

namespace AdaptiveGoal

variable {g : AdaptiveGoal} {counts : Nat → Nat} {estimate : Nat → Float} {k : Nat}

/-- A count is wanted if it is between the target and the greatest number. -/
lemma isWanted_ofNat_iff {c : Nat} (hc : c < 2 ^ 53) :
    g.IsWanted (Float.ofNat c) ↔ g.target ≤ c ∧ c ≤ g.most :=
  and_congr (Binary64.ofNat_le_ofNat hc _) (Binary64.ofNat_le_ofNat_of_lt hc _)

/-- A count is too high if it is above the greatest number. -/
lemma isTooHigh_ofNat_iff {c : Nat} (hc : c < 2 ^ 53) :
    g.IsTooHigh (Float.ofNat c) ↔ g.most < c :=
  Binary64.ofNat_lt_ofNat hc _

/-- A count that does not end a search is less than the target. -/
lemma lt_target_of_not_endsAt (hc : counts k < 2 ^ 53) (he : estimate k = Float.ofNat (counts k))
    (h : ¬ g.EndsAt estimate k) : counts k < g.target ∧ counts k ≤ g.most := by
  have hrules : ¬ g.IsWanted (estimate k) ∧ ¬ g.IsTooHigh (estimate k) := by
    cases k with
    | zero => exact not_or.1 h
    | succ k => exact ⟨(not_or.1 h).1, (not_or.1 (not_or.1 h).2).1⟩
  rw [he, isWanted_ofNat_iff hc, isTooHigh_ofNat_iff hc] at hrules
  omega

/-- What the end of a search says about the count at the chosen threshold. -/
lemma count_of_ends (hcounts : ∀ k < g.tries, counts k < 2 ^ 53)
    (he : ∀ k < g.tries, estimate k = Float.ofNat (counts k)) {iterations estimated : Nat}
    {threshold : Float} {reason : StopReason}
    (h : g.Ends estimate iterations estimated threshold reason) :
    (iterations = 0 ∧ reason = .maxIterations) ∨
      ∃ k < g.tries, threshold = g.thresholdAt k ∧
        (reason = .targetReached ∧ g.target ≤ counts k ∧ counts k ≤ g.most ∨
          reason = .maxExceeded ∧ iterations = 1 ∨
          reason ≠ .targetReached ∧ counts k < g.target ∧ counts k ≤ g.most) := by
  have hbelow (k : Nat) (hk : k < g.tries) (hnot : ¬ g.EndsAt estimate k) :
      counts k < g.target ∧ counts k ≤ g.most :=
    lt_target_of_not_endsAt (hcounts k hk) (he k hk) hnot
  cases h with
  | untried _ => exact .inl ⟨rfl, rfl⟩
  | @targetReached k hk _ hwanted =>
    rw [he k hk, isWanted_ofNat_iff (hcounts k hk)] at hwanted
    exact .inr ⟨k, hk, rfl, .inl ⟨rfl, hwanted⟩⟩
  | @maxExceeded k hk hbefore _ _ =>
    cases k with
    | zero => exact .inr ⟨0, hk, rfl, .inr (.inl ⟨rfl, rfl⟩)⟩
    | succ k =>
      have hk' : k < g.tries := by omega
      refine .inr ⟨k, hk', rfl, .inr (.inr ⟨by decide, ?_⟩)⟩
      exact hbelow k hk' (hbefore k (Nat.lt_succ_self k))
  | @growthRateExceeded k hk hbefore _ _ _ =>
    have hk' : k < g.tries := by omega
    refine .inr ⟨k, hk', rfl, .inr (.inr ⟨by decide, ?_⟩)⟩
    exact hbelow k hk' (hbefore k (Nat.lt_succ_self k))
  | @maxIterations k hk hbefore =>
    have hk' : k < g.tries := by omega
    exact .inr ⟨k, hk', rfl, .inr (.inr ⟨by decide, hbelow k hk' (hbefore k hk')⟩)⟩

end AdaptiveGoal

/-- An outcome whose connections are as its reason to stop says. -/
structure AdaptiveOutcome.KeepsTo (g : AdaptiveGoal) (outcome : AdaptiveOutcome) : Prop where
  /-- If the target is reached, there are neither too few connections nor too many. -/
  wanted : outcome.stopReason = .targetReached →
    g.target ≤ outcome.connections ∧ outcome.connections ≤ g.most
  /-- There are too many only if the first try had too many, or if there was no try. -/
  tooMany : g.most < outcome.connections →
    outcome.stopReason = .maxExceeded ∧ outcome.iterations = 1 ∨
      outcome.stopReason = .maxIterations ∧ outcome.iterations = 0
  /-- After any other try there are too few. -/
  tooFew : 1 ≤ outcome.iterations → outcome.stopReason ≠ .targetReached →
    ¬ (outcome.stopReason = .maxExceeded ∧ outcome.iterations = 1) →
      outcome.connections < g.target

/-- An outcome keeps to its goal if its graph is that of an exact estimate. -/
lemma AdaptiveOutcome.keepsTo_of_ends {g : AdaptiveGoal} (counts : Float → Nat)
    {estimate : Nat → Float} (hcounts : ∀ k < g.tries, counts (g.thresholdAt k) < 2 ^ 53)
    (he : ∀ k < g.tries, estimate k = Float.ofNat (counts (g.thresholdAt k)))
    {outcome : AdaptiveOutcome} (hcount : outcome.connections = counts outcome.threshold)
    (h : g.Ends estimate outcome.iterations outcome.estimated outcome.threshold
      outcome.stopReason) : outcome.KeepsTo g := by
  obtain ⟨hnone, hreason⟩ | ⟨k, -, hchosen, hend⟩ := AdaptiveGoal.count_of_ends hcounts he h
  · refine ⟨fun hreached => ?_, fun _ => .inr ⟨hreason, hnone⟩, fun htry => absurd htry (by omega)⟩
    rw [hreason] at hreached
    cases hreached
  · rw [← hchosen, ← hcount] at hend
    obtain ⟨hreason, hwanted⟩ | ⟨hreason, hfirst⟩ | ⟨hreason, hbelow, hmost⟩ := hend
    · exact ⟨fun _ => hwanted, fun hhigh => absurd hwanted.2 (Nat.not_le.2 hhigh),
        fun _ hother => absurd hreason hother⟩
    · refine ⟨fun hreached => ?_, fun _ => .inl ⟨hreason, hfirst⟩,
        fun _ _ hother => absurd ⟨hreason, hfirst⟩ hother⟩
      rw [hreason] at hreached
      cases hreached
    · exact ⟨fun hreached => absurd hreached hreason,
        fun hhigh => absurd hmost (Nat.not_le.2 hhigh), fun _ _ _ => hbelow⟩

namespace Registry

variable {σ : Type}

/-! #### Exact estimates -/

section Whole

variable {r : Registry σ} {g : AdaptiveGoal}

/-- A sample of all records is not scaled up. -/
lemma factor_eq_one (hpos : 0 < r.size) (h : r.size < 2 ^ 64) (hsample : r.size ≤ g.sampleSize) :
    r.factor g = 1.0 := by
  rw [factor, sampled, Nat.min_eq_right hsample, if_neg (Nat.ne_of_gt hpos),
    Binary64.ofNat_div_self hpos h]
  rfl

/-- A sample with room for all records is all records. -/
lemma sample_eq (hsample : r.size ≤ g.sampleSize) : r.sample g = r.records.values := by
  refine List.take_of_length_le ?_
  rwa [all, TextMap.values, List.length_map]

/-- With a sample of all records the estimate of a try is the number of connections. -/
lemma estimateAt_eq (hpos : 0 < r.size) (hsize : r.size < 2 ^ 64)
    (hsample : r.size ≤ g.sampleSize) {k : Nat}
    (hcount : (r.sampleGraph g (g.thresholdAt k)).connections < 2 ^ 53) :
    r.estimateAt g k = Float.ofNat (r.sampleGraph g (g.thresholdAt k)).connections := by
  rw [estimateAt, factor_eq_one hpos hsize hsample]
  exact Binary64.ofNat_mul_one hcount

variable [RecordStore σ] [LawfulStore σ]

/-- A try with a sample of all records goes as the making of the graph of all records. -/
lemma Agrees.graphOf_sampleCandidates (h : r.Agrees) (hsample : r.size ≤ g.sampleSize)
    (threshold : Float) (watch : Watch) (notices : List Notice) :
    graphOf (r.sampleCandidates (r.sample g) threshold g.mode) threshold watch notices =
      r.graphAfter threshold g.mode watch notices := by
  rw [graphAfter, graphOf, graphOf, h.scorePairs_eq, sampleCandidates_eq, sample_eq hsample]

/-- The graph of all records is the one that a try with a sample of all records finds. -/
lemma Agrees.graph_eq_sampleGraph (h : r.Agrees) (hsample : r.size ≤ g.sampleSize)
    (threshold : Float) :
    (r.graph threshold g.mode .idle).1 = .ok (r.sampleGraph g threshold) := by
  obtain ⟨notices, hgraph⟩ := r.exists_graphOf_sampleCandidates g threshold []
  rw [graph, ← h.graphOf_sampleCandidates hsample, hgraph]

end Whole

/-! #### Bounds on counts -/

/-- A graph of similar pairs has a connection for each of them. -/
lemma connections_ofPairs_similarPairs (candidates : List (Record × Record)) (threshold : Float)
    (distinct : Bool) :
    (Graph.ofPairs (similarPairs candidates threshold distinct)).connections =
      (candidates.filterMap (pairOf threshold distinct)).length := by
  rw [Graph.connections_ofPairs fun p hp => id_ne_of_mem_similarPairs hp, similarPairs,
    List.length_mergeSort]

/-- Among `n` records there are `n * (n - 1) / 2` pairs. -/
lemma two_mul_length_allPairs (xs : List Record) :
    2 * (allPairs xs).length = xs.length * (xs.length - 1) := by
  induction xs with
  | nil => rfl
  | cons x rest ih =>
    rw [allPairs, List.length_append, List.length_map, Nat.mul_add, ih, List.length_cons,
      Nat.add_sub_cancel]
    cases rest with
    | nil => rfl
    | cons y rest =>
      simp only [List.length_cons, Nat.add_sub_cancel]
      rw [Nat.mul_comm (rest.length + 1) rest.length, ← Nat.add_mul, Nat.add_comm 2]

/-- The records of a list that are compared are among all pairs of them. -/
lemma length_candidatesAmong_le (xs : List Record) (radius : Nat) (mode : Mode) :
    (candidatesAmong xs radius mode).length ≤ (allPairs xs).length := by
  cases mode with
  | fast => exact List.length_filter_le _ _
  | exhaustive => exact Nat.le_refl _

/-- There are at most as many connections as pairs of records in the sample. -/
lemma two_mul_connections_le (r : Registry σ) (g : AdaptiveGoal) (threshold : Float) :
    2 * (r.sampleGraph g threshold).connections ≤
      (r.sample g).length * ((r.sample g).length - 1) := by
  rw [← two_mul_length_allPairs, sampleGraph, ← sample_eq_take, connections_ofPairs_similarPairs]
  exact Nat.mul_le_mul_left 2
    ((List.length_filterMap_le _ _).trans (length_candidatesAmong_le _ _ _))

/-! #### The graph of the search -/

section Graphs

variable [RecordStore σ] [LawfulStore σ]

/-- **Whole samples**: if the sample of an adaptive search has room for all records of a reachable
registry, a try goes as the making of the graph of all records does. If moreover the number of
records is one of 64 bits and no try finds more connections than 53 bits can count, the estimates
are the connections of these graphs, and the search gives a graph whose connections are as its
reason to stop says. -/
theorem whole_sample_is_exact {r : Registry (Unreliable σ)} (h : Reachable r) {g : AdaptiveGoal}
    (hpos : 1 ≤ r.size) (hsample : r.size ≤ g.sampleSize) :
    (∀ threshold watch notices,
      graphOf (r.sampleCandidates (r.sample g) threshold g.mode) threshold watch notices =
        r.graphAfter threshold g.mode watch notices) ∧
    (r.size < 2 ^ 64 →
      (∀ k < g.tries, (r.sampleGraph g (g.thresholdAt k)).connections < 2 ^ 53) →
      (∀ k < g.tries,
        (r.graph (g.thresholdAt k) g.mode .idle).1 = .ok (r.sampleGraph g (g.thresholdAt k)) ∧
        r.estimateAt g k = Float.ofNat (r.sampleGraph g (g.thresholdAt k)).connections) ∧
      ∃ outcome, (r.adaptive g .idle).1 = .ok outcome ∧
        (r.graph outcome.threshold g.mode .idle).1 = .ok outcome.graph ∧
        outcome.connections = outcome.graph.connections ∧ outcome.KeepsTo g) := by
  refine ⟨fun threshold watch notices => h.agrees.graphOf_sampleCandidates hsample _ _ _, ?_⟩
  intro hsize hcounts
  have hestimate (k : Nat) (hk : k < g.tries) := estimateAt_eq hpos hsize hsample (hcounts k hk)
  refine ⟨fun k hk => ⟨h.agrees.graph_eq_sampleGraph hsample _, hestimate k hk⟩, ?_⟩
  obtain ⟨s, notices, hprobe, hends⟩ := r.exists_probe_ends g (Nat.zero_add g.maxIterations)
    (Nat.zero_le _) (fun _ hj => absurd hj (Nat.not_lt_zero _)) []
  obtain ⟨graph, hgraph, hadaptive⟩ := r.adaptive_of_probe_eq_ok g hprobe
  obtain rfl : r.sampleGraph g s.chosen = graph :=
    Except.ok.inj ((h.agrees.graph_eq_sampleGraph hsample _).symm.trans hgraph)
  refine ⟨_, hadaptive, hgraph, rfl, ?_⟩
  exact AdaptiveOutcome.keepsTo_of_ends
    (fun threshold => (r.sampleGraph g threshold).connections) hcounts hestimate rfl hends

end Graphs

/-- A registry in memory that has taken in a unit and then another one with the same features. -/
def withTwin : Registry (Unreliable MemoryStore) :=
  ((((new ⟨.empty, []⟩ .default).facing []).after (.registerUnit 0 plainUnit)).facing []).after
    (.registerUnit 0 { plainUnit with name := "g", source := "def g(): pass" })

/-- A registry with twins comes about by requests. -/
lemma reachable_withTwin : Reachable withTwin :=
  .handled [] (.registerUnit 0 _) (.handled [] (.registerUnit 0 plainUnit) (.new rfl))

/-- The twins are two records and one similar pair. -/
lemma twins_withTwin : withTwin.size = 2 ∧
    ((withTwin.candidates 0.9 .exhaustive).filterMap (pairOf 0.9 true)).length = 1 := by
  decide +kernel

/-- A search for a single connection. -/
def oneConnection : AdaptiveGoal :=
  { AdaptiveGoal.default with target := 1, most := 1 }

/-- A search for a single connection among twins gives a graph that keeps to this goal. -/
theorem whole_sample_is_exact_withTwin :
    ∃ outcome, (withTwin.adaptive oneConnection .idle).1 = .ok outcome ∧
      outcome.KeepsTo oneConnection := by
  have hpos : 1 ≤ withTwin.size := by
    rw [twins_withTwin.1]
    decide
  have hsample : withTwin.size ≤ oneConnection.sampleSize := by
    rw [twins_withTwin.1]
    decide
  have hsize : withTwin.size < 2 ^ 64 := by
    rw [twins_withTwin.1]
    decide
  have hcounts : ∀ k < oneConnection.tries,
      (withTwin.sampleGraph oneConnection (oneConnection.thresholdAt k)).connections < 2 ^ 53 := by
    intro k _
    have hpairs := two_mul_connections_le withTwin oneConnection (oneConnection.thresholdAt k)
    rw [length_sample, sampled, twins_withTwin.1] at hpairs
    change 2 * _ ≤ 2 at hpairs
    omega
  obtain ⟨-, outcome, hadaptive, -, -, hkeeps⟩ :=
    (whole_sample_is_exact reachable_withTwin hpos hsample).2 hsize hcounts
  exact ⟨outcome, hadaptive, hkeeps⟩

/-- A search that may not try a single threshold among twins. -/
def noTries : AdaptiveGoal :=
  { AdaptiveGoal.default with target := 0, most := 0, maxIterations := 0, mode := .exhaustive }

/-- Without a try, a search can give a graph with too many connections though it did not find that
the first try had too many. -/
theorem noTries_withTwin :
    Reachable withTwin ∧ 1 ≤ withTwin.size ∧ withTwin.size ≤ noTries.sampleSize ∧
      ∃ outcome, (withTwin.adaptive noTries .idle).1 = .ok outcome ∧
        noTries.most < outcome.connections ∧
        ¬ (outcome.stopReason = .maxExceeded ∧ outcome.iterations = 1) := by
  obtain ⟨hsize, hpairs⟩ := twins_withTwin
  refine ⟨reachable_withTwin, by rw [hsize]; decide, by rw [hsize]; decide, ?_⟩
  have hprobe : withTwin.probe noTries (withTwin.sample noTries) .idle noTries.maxIterations
      (noTries.stateAfter (withTwin.estimateAt noTries) 0) [] =
        (.ok (noTries.stateAfter (withTwin.estimateAt noTries) 0), []) := rfl
  obtain ⟨graph, hgraph, hadaptive⟩ := withTwin.adaptive_of_probe_eq_ok noTries hprobe
  rw [graph_idle] at hgraph
  obtain rfl := Except.ok.inj hgraph
  refine ⟨_, hadaptive, ?_, nofun⟩
  rw [← connections_ofPairs_similarPairs] at hpairs
  exact Nat.lt_of_lt_of_eq Nat.zero_lt_one hpairs.symm

end Registry

end Lookalike
