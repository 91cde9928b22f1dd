import Lookalike.Proofs.Decimal.Rounding
import Lookalike.Proofs.Registry.Determinacy

/-! ### Adaptive search

An adaptive search is a loop with a state, but its outcome is settled by the estimates at its
thresholds alone: it ends at the first try whose estimate is wanted, or too high, or too much higher
than the one before, and goes back by one threshold unless the estimate was wanted. Without such a
try it ends when it has made all tries. The state after some tries without an end is known, and the
loop goes from each such state to the next one.

Thresholds, estimates and ends are given here by their formulas, and not by the functions that the
loop calls. -/

namespace Lookalike

open Python

/-! #### Tries -/

namespace AdaptiveGoal

/-- The threshold of a try: as many steps below the greatest threshold as there were tries
before. -/
def triedAt (g : AdaptiveGoal) (k : Nat) : Float :=
  g.maxThreshold - g.step * Float.ofNat k

/-- The number of tries before the first threshold below the least one, with a tolerance of `1e-9`,
or before the greatest number of tries is reached. -/
def tries (g : AdaptiveGoal) : Nat :=
  (List.range g.maxIterations).findIdx fun k => decide (g.triedAt k < g.minThreshold - 1e-9)

/-- The loop tries the thresholds of the formula. -/
lemma thresholdAt_eq (g : AdaptiveGoal) (k : Nat) : g.thresholdAt k = g.triedAt k :=
  rfl

/-- The loop goes on until a threshold is below the tolerance. -/
lemma isTooLow_eq (g : AdaptiveGoal) (threshold : Float) :
    g.isTooLow threshold = decide (threshold < g.minThreshold - 1e-9) :=
  rfl

/-- There are at most as many tries as the goal allows. -/
lemma tries_le (g : AdaptiveGoal) : g.tries ≤ g.maxIterations :=
  List.findIdx_le_length.trans (Nat.le_of_eq List.length_range)

/-- A try is made if it is not one too many and no threshold was too low up to its own. -/
lemma lt_tries_iff {g : AdaptiveGoal} {k : Nat} :
    k < g.tries ↔ k < g.maxIterations ∧ ∀ j ≤ k, g.isTooLow (g.thresholdAt j) = false := by
  simp only [isTooLow_eq, thresholdAt_eq]
  rw [tries, List.lt_findIdx_iff]
  simp

/-- After the tries before it, the next one is made if it is not one too many and its threshold is
not too low. -/
lemma lt_tries_of_le {g : AdaptiveGoal} {k : Nat} (hk : k ≤ g.tries) (hmax : k < g.maxIterations)
    (hlow : g.isTooLow (g.thresholdAt k) = false) : k < g.tries := by
  refine lt_tries_iff.2 ⟨hmax, fun j hj => ?_⟩
  rcases Nat.eq_or_lt_of_le hj with rfl | hj
  · exact hlow
  · exact (lt_tries_iff.1 (Nat.lt_of_lt_of_le hj hk)).2 j (Nat.le_refl j)

/-! #### Ends -/

/-- An estimate that is wanted: it is neither less than the target nor too high. -/
def IsWanted (g : AdaptiveGoal) (estimate : Float) : Prop :=
  Float.ofNat g.target ≤ estimate ∧ estimate ≤ Float.ofNat g.most

/-- An estimate that is too high. -/
def IsTooHigh (g : AdaptiveGoal) (estimate : Float) : Prop :=
  Float.ofNat g.most < estimate

/-- An estimate that is too much higher than the one before: more than three times as high, and the
one before was not zero. -/
def Jumps (before estimate : Float) : Prop :=
  0.0 < before ∧ 3.0 * before < estimate

variable (g : AdaptiveGoal) (estimate : Nat → Float)

/-- A try whose estimate ends a search. -/
def EndsAt : Nat → Prop
  | 0 => g.IsWanted (estimate 0) ∨ g.IsTooHigh (estimate 0)
  | k + 1 => g.IsWanted (estimate (k + 1)) ∨ g.IsTooHigh (estimate (k + 1)) ∨
      Jumps (estimate k) (estimate (k + 1))

/-- How a search ends whose tries have given estimates: with the number of tries, the last estimate
rounded, the chosen threshold, and the reason. Estimates that are wanted count before those that are
too high, and these before those that are too much higher than the one before. -/
inductive Ends : Nat → Nat → Float → StopReason → Prop
  | targetReached {k : Nat} : k < g.tries → (∀ j < k, ¬ g.EndsAt estimate j) →
      g.IsWanted (estimate k) →
        Ends (k + 1) (Binary64.nearestNat (estimate k)) (g.triedAt k) .targetReached
  /-- The search goes back by one threshold if there is one, and `0 - 1 = 0` if there is none. -/
  | maxExceeded {k : Nat} : k < g.tries → (∀ j < k, ¬ g.EndsAt estimate j) →
      ¬ g.IsWanted (estimate k) → g.IsTooHigh (estimate k) →
        Ends (k + 1) (Binary64.nearestNat (estimate k)) (g.triedAt (k - 1)) .maxExceeded
  | growthRateExceeded {k : Nat} : k + 1 < g.tries → (∀ j < k + 1, ¬ g.EndsAt estimate j) →
      ¬ g.IsWanted (estimate (k + 1)) → ¬ g.IsTooHigh (estimate (k + 1)) →
        Jumps (estimate k) (estimate (k + 1)) →
          Ends (k + 2) (Binary64.nearestNat (estimate (k + 1))) (g.triedAt k)
            .growthRateExceeded
  | maxIterations {k : Nat} : g.tries = k + 1 → (∀ j < g.tries, ¬ g.EndsAt estimate j) →
      Ends (k + 1) (Binary64.nearestNat (estimate k)) (g.triedAt k) .maxIterations
  | untried : g.tries = 0 → Ends 0 0 g.maxThreshold .maxIterations

section Unique

variable {g estimate} {k iterations iterations' estimated estimated' : Nat}
  {threshold threshold' : Float} {reason reason' : StopReason}

/-- An estimate that is wanted or too high ends a search at once. -/
lemma endsAt_of_or (h : g.IsWanted (estimate k) ∨ g.IsTooHigh (estimate k)) :
    g.EndsAt estimate k := by
  cases k with
  | zero => exact h
  | succ k => exact h.imp_right .inl

/-- A search makes the tries up to the first one that ends it, or all tries if there is none. -/
lemma Ends.iterations_spec (h : g.Ends estimate iterations estimated threshold reason) :
    iterations ≤ g.tries ∧ (∀ j, j + 1 < iterations → ¬ g.EndsAt estimate j) ∧
      (iterations < g.tries → ∃ k, iterations = k + 1 ∧ g.EndsAt estimate k) := by
  cases h with
  | @targetReached k hk hbefore hwanted =>
    exact ⟨hk, fun j hj => hbefore j (by omega), fun _ => ⟨k, rfl, endsAt_of_or (.inl hwanted)⟩⟩
  | @maxExceeded k hk hbefore _ hhigh =>
    exact ⟨hk, fun j hj => hbefore j (by omega), fun _ => ⟨k, rfl, endsAt_of_or (.inr hhigh)⟩⟩
  | @growthRateExceeded k hk hbefore _ _ hjumps =>
    exact ⟨hk, fun j hj => hbefore j (by omega), fun _ => ⟨k + 1, rfl, .inr (.inr hjumps)⟩⟩
  | @maxIterations k hk hbefore =>
    exact ⟨by omega, fun j hj => hbefore j (by omega), fun hlt => absurd hlt (by omega)⟩
  | untried hk => exact ⟨by omega, nofun, fun hlt => absurd hlt (by omega)⟩

/-- The number of tries is settled by the estimates. -/
lemma Ends.iterations_eq (h : g.Ends estimate iterations estimated threshold reason)
    (h' : g.Ends estimate iterations' estimated' threshold' reason') :
    iterations = iterations' := by
  obtain ⟨hle, hbefore, hlast⟩ := h.iterations_spec
  obtain ⟨hle', hbefore', hlast'⟩ := h'.iterations_spec
  rcases Nat.lt_trichotomy iterations iterations' with hlt | heq | hgt
  · obtain ⟨k, rfl, hk⟩ := hlast (by omega)
    exact absurd hk (hbefore' k hlt)
  · exact heq
  · obtain ⟨k, rfl, hk⟩ := hlast' (by omega)
    exact absurd hk (hbefore k hgt)

/-- The end of a search is settled by the estimates. -/
lemma Ends.unique (h : g.Ends estimate iterations estimated threshold reason)
    (h' : g.Ends estimate iterations' estimated' threshold' reason') :
    iterations = iterations' ∧ estimated = estimated' ∧ threshold = threshold' ∧
      reason = reason' := by
  obtain rfl := h.iterations_eq h'
  -- Two ends of one kind are the same, and the rules of one kind exclude those of the others.
  cases h <;> cases h' <;>
    first
    | contradiction
    | (refine ⟨rfl, rfl, ?_, rfl⟩; rfl)
    | grind [endsAt_of_or, EndsAt]

end Unique

/-- The state of a search after some tries none of which has ended it. -/
def stateAfter : Nat → AdaptiveState
  | 0 => ⟨g.maxThreshold, none, 0.0, 0, .maxIterations⟩
  | k + 1 =>
    ⟨g.thresholdAt k, some ⟨g.thresholdAt k, estimate k⟩, estimate k, k + 1, .maxIterations⟩

variable {g estimate} {k : Nat}

/-- The number of tries after some tries. -/
lemma iterations_stateAfter : (g.stateAfter estimate k).iterations = k := by
  cases k <;> rfl

/-- A search that has made all tries without an end ends. -/
lemma ends_stateAfter (hk : g.tries = k) (hbefore : ∀ j < k, ¬ g.EndsAt estimate j) :
    g.Ends estimate (g.stateAfter estimate k).iterations
      (Binary64.nearestNat (g.stateAfter estimate k).estimated) (g.stateAfter estimate k).chosen
      (g.stateAfter estimate k).stopReason := by
  cases k with
  | zero =>
    have hzero : Binary64.nearestNat 0.0 = 0 := by
      rw [← Binary64.roundNat_eq_nearestNat]
      decide +kernel
    rw [stateAfter, hzero]
    exact .untried hk
  | succ k => exact .maxIterations hk (hk ▸ hbefore)

instance (x : Float) : Decidable (g.IsWanted x) :=
  inferInstanceAs (Decidable (_ ∧ _))

instance (x : Float) : Decidable (g.IsTooHigh x) :=
  inferInstanceAs (Decidable (_ < _))

instance (x y : Float) : Decidable (Jumps x y) :=
  inferInstanceAs (Decidable (_ ∧ _))

/-- The three reasons to stop, in their order. -/
lemma stop?_eq (previous : Option Probe) (threshold x : Float) :
    g.stop? previous ⟨threshold, x⟩ =
      if g.IsWanted x then some (.targetReached, threshold)
      else if g.IsTooHigh x then
        some (.maxExceeded, (previous.map (·.threshold)).getD threshold)
      else match previous with
        | none => none
        | some q =>
          if Jumps q.estimate x then some (.growthRateExceeded, q.threshold) else none := by
  simp only [stop?, IsWanted, IsTooHigh, Jumps, Bool.and_eq_true, decide_eq_true_eq]
  rfl

/-- A try either ends the search as it is to end, or does not end it. -/
lemma stop?_cases (hk : k < g.tries) (hbefore : ∀ j < k, ¬ g.EndsAt estimate j) :
    (∃ reason chosen,
      g.stop? (g.stateAfter estimate k).previous ⟨g.thresholdAt k, estimate k⟩ =
          some (reason, chosen) ∧
        g.Ends estimate (k + 1) (Binary64.nearestNat (estimate k)) chosen reason) ∨
    (g.stop? (g.stateAfter estimate k).previous ⟨g.thresholdAt k, estimate k⟩ = none ∧
      ¬ g.EndsAt estimate k) := by
  rw [stop?_eq]
  by_cases hwanted : g.IsWanted (estimate k)
  · exact .inl ⟨_, _, if_pos hwanted, .targetReached hk hbefore hwanted⟩
  rw [if_neg hwanted]
  by_cases hhigh : g.IsTooHigh (estimate k)
  · refine .inl ⟨_, g.thresholdAt (k - 1), ?_, .maxExceeded hk hbefore hwanted hhigh⟩
    rw [if_pos hhigh]
    cases k <;> rfl
  rw [if_neg hhigh]
  cases k with
  | zero => exact .inr ⟨rfl, not_or.2 ⟨hwanted, hhigh⟩⟩
  | succ k =>
    by_cases hjumps : Jumps (estimate k) (estimate (k + 1))
    · exact .inl ⟨_, _, if_pos hjumps, .growthRateExceeded hk hbefore hwanted hhigh hjumps⟩
    · exact .inr ⟨if_neg hjumps, not_or.2 ⟨hwanted, not_or.2 ⟨hhigh, hjumps⟩⟩⟩

end AdaptiveGoal

/-! #### Estimates -/

namespace Registry

variable {σ : Type}

/-- The candidates in a sample are compared as they stand, without regard to an index. -/
lemma sampleCandidates_eq (r : Registry σ) (sample : List Record) (threshold : Float)
    (mode : Mode) :
    r.sampleCandidates sample threshold mode =
      candidatesAmong sample (r.settings.radius.radius threshold) mode := by
  cases mode with
  | exhaustive => rfl
  | fast =>
    have hentries := entries_foldl_insert sample .empty
    have hitems : (sample.foldl (fun t x => t.insert x.fingerprint x) .empty :
        MetricTree Record).items = sample := by
      rw [MetricTree.items, hentries]
      simp [MetricTree.empty, Function.comp_def]
    rw [sampleCandidates, nearPairs_eq_filter_allPairs, hitems]
    · rfl
    · rw [hitems, hentries]
      rfl

variable (r : Registry σ) (g : AdaptiveGoal)

/-- The number of records in a sample: as many as wanted, or else all of them. -/
def sampled : Nat :=
  min g.sampleSize r.size

/-- The graph of the similar records among those with the least names, as many as are sampled. -/
def sampleGraph (threshold : Float) : Graph :=
  .ofPairs (similarPairs
    (candidatesAmong (r.all.take (r.sampled g)) (r.settings.radius.radius threshold) g.mode)
    threshold true)

/-- What the connections in a sample are multiplied by: the square of the number of records for each
that is sampled. An empty sample is not scaled up. -/
def factor : Float :=
  if r.sampled g = 0 then 1.0
  else
    (Float.ofNat r.size / Float.ofNat (r.sampled g)) *
      (Float.ofNat r.size / Float.ofNat (r.sampled g))

/-- The estimate of a try: the connections in the sample, scaled up to all records. -/
def estimateAt (k : Nat) : Float :=
  Float.ofNat (r.sampleGraph g (g.triedAt k)).connections * r.factor g

/-- The sample has as many records as wanted, or else all of them. -/
lemma length_sample : (r.sample g).length = r.sampled g := by
  simp [sample, sampled, all, size, TextMap.values, TextMap.size]

/-- The sample is what is sampled. -/
lemma sample_eq_take : r.sample g = r.all.take (r.sampled g) := by
  rw [← length_sample]
  exact List.prefix_iff_eq_take.1 (List.take_prefix _ _)

/-- The connections in the sample are scaled up by the factor. -/
lemma sampleScale_eq : sampleScale r.size (r.sample g).length = r.factor g := by
  rw [length_sample]
  rfl

/-- A try finds the graph of the sample. -/
lemma exists_graphOf_sampleCandidates (threshold : Float) (notices : List Notice) :
    ∃ notices', graphOf (r.sampleCandidates (r.sample g) threshold g.mode) threshold .idle notices =
      (.ok (r.sampleGraph g threshold), notices') := by
  refine ⟨_, Prod.ext ?_ rfl⟩
  rw [graphOf_idle, sampleCandidates_eq, sample_eq_take]
  rfl

/-- A search whose next threshold is too low makes no more tries. -/
lemma probe_of_isTooLow {s : AdaptiveState} (hlow : g.isTooLow (g.thresholdAt s.iterations) = true)
    (left : Nat) (notices : List Notice) :
    r.probe g (r.sample g) .idle left s notices = (.ok s, notices) := by
  cases left with
  | zero => rfl
  | succ left =>
    have hgoes : Watch.idle.cancels notices.length = false := rfl
    rw [probe, hgoes, if_neg Bool.false_ne_true, if_pos hlow]

/-- A try gives its estimate, and ends the search or leads to the next state. -/
lemma exists_probe_succ {s : AdaptiveState}
    (hlow : g.isTooLow (g.thresholdAt s.iterations) = false) (left : Nat) (notices : List Notice) :
    ∃ notices', r.probe g (r.sample g) .idle (left + 1) s notices =
      match g.stop? s.previous ⟨g.thresholdAt s.iterations, r.estimateAt g s.iterations⟩ with
      | some (reason, chosen) =>
        (.ok ⟨chosen, s.previous, r.estimateAt g s.iterations, s.iterations + 1, reason⟩, notices')
      | none =>
        r.probe g (r.sample g) .idle left (g.stateAfter (r.estimateAt g) (s.iterations + 1))
          notices' := by
  have hgoes : Watch.idle.cancels notices.length = false := rfl
  obtain ⟨notices', hgraph⟩ :=
    r.exists_graphOf_sampleCandidates g (g.thresholdAt s.iterations) notices
  refine ⟨notices', ?_⟩
  rw [probe, hgoes, if_neg Bool.false_ne_true]
  dsimp only
  rw [hlow, if_neg Bool.false_ne_true, hgraph, sampleScale_eq]
  rfl

/-- From the state after some tries none of which has ended it, a search comes to an end. -/
lemma exists_probe_ends {left k : Nat} (hleft : k + left = g.maxIterations) (hk : k ≤ g.tries)
    (hbefore : ∀ j < k, ¬ g.EndsAt (r.estimateAt g) j) (notices : List Notice) :
    ∃ s notices', r.probe g (r.sample g) .idle left (g.stateAfter (r.estimateAt g) k) notices =
        (.ok s, notices') ∧
      g.Ends (r.estimateAt g) s.iterations (Binary64.nearestNat s.estimated) s.chosen
        s.stopReason := by
  -- The induction is on the tries that are left; all tries before the `k`-th have gone on.
  induction left generalizing k notices with
  | zero =>
    refine ⟨_, _, rfl, ?_⟩
    have hmax : g.tries ≤ k + 0 := hleft ▸ g.tries_le
    exact AdaptiveGoal.ends_stateAfter (Nat.le_antisymm hmax hk) hbefore
  | succ left ih =>
    have hiterations : (g.stateAfter (r.estimateAt g) k).iterations = k :=
      AdaptiveGoal.iterations_stateAfter
    cases hlow : g.isTooLow (g.thresholdAt k) with
    | true =>
      have htries : ¬ k < g.tries := fun h => by
        rw [(AdaptiveGoal.lt_tries_iff.1 h).2 k (Nat.le_refl k)] at hlow
        cases hlow
      refine ⟨_, _, r.probe_of_isTooLow g (by rwa [hiterations]) _ notices, ?_⟩
      exact AdaptiveGoal.ends_stateAfter (Nat.le_antisymm (Nat.not_lt.1 htries) hk) hbefore
    | false =>
      have htry : k < g.tries := AdaptiveGoal.lt_tries_of_le hk (by omega) hlow
      obtain ⟨notices', hprobe⟩ := r.exists_probe_succ g
        (s := g.stateAfter (r.estimateAt g) k) (by rwa [hiterations]) left notices
      rw [hprobe, hiterations]
      obtain ⟨reason, chosen, hstop, hends⟩ | ⟨hstop, hgoes⟩ :=
        AdaptiveGoal.stop?_cases htry hbefore
      · rw [hstop]
        exact ⟨_, _, rfl, hends⟩
      · rw [hstop]
        refine ih (k := k + 1) (by omega) htry (fun j hj => ?_) notices'
        rcases Nat.lt_succ_iff_lt_or_eq.1 hj with hj | rfl
        · exact hbefore j hj
        · exact hgoes

/-- A search gives the graph of all similar records at the threshold that its tries have chosen. -/
lemma adaptive_of_probe_eq_ok {s : AdaptiveState} {notices : List Notice}
    (hprobe : r.probe g (r.sample g) .idle g.maxIterations (g.stateAfter (r.estimateAt g) 0) [] =
      (.ok s, notices)) :
    ∃ graph, (r.graph s.chosen g.mode .idle).1 = .ok graph ∧
      (r.adaptive g .idle).1 = .ok ⟨graph, s.chosen, graph.connections,
        Binary64.nearestNat s.estimated, s.iterations, s.stopReason⟩ := by
  rw [← Binary64.roundNat_eq_nearestNat]
  refine ⟨_, r.graph_idle s.chosen g.mode, ?_⟩
  have hgraph : r.graphAfter s.chosen g.mode .idle notices =
      (.ok (.ofPairs (similarPairs (r.candidates s.chosen g.mode) s.chosen true)),
        (r.graphAfter s.chosen g.mode .idle notices).2) :=
    Prod.ext (graphOf_idle _ _ notices) rfl
  rw [AdaptiveGoal.stateAfter] at hprobe
  unfold adaptive
  dsimp only
  rw [hprobe]
  dsimp only
  rw [hgraph]

/-- **Adaptive search**: a search that is not cancelled comes to an end, and there is only one end
that fits the estimates of its tries. The search gives the graph of all similar records at the
chosen threshold, and the number of its connections. -/
theorem adaptive_ends :
    ∃ outcome, (r.adaptive g .idle).1 = .ok outcome ∧
      g.Ends (r.estimateAt g) outcome.iterations outcome.estimated outcome.threshold
        outcome.stopReason ∧
      (∀ iterations estimated threshold reason,
        g.Ends (r.estimateAt g) iterations estimated threshold reason →
          outcome.iterations = iterations ∧ outcome.estimated = estimated ∧
            outcome.threshold = threshold ∧ outcome.stopReason = reason) ∧
      (r.graph outcome.threshold g.mode .idle).1 = .ok outcome.graph ∧
      outcome.connections = outcome.graph.connections := by
  obtain ⟨s, notices, hprobe, hends⟩ := r.exists_probe_ends g (Nat.zero_add g.maxIterations)
    (Nat.zero_le _) (fun _ hj => absurd hj (Nat.not_lt_zero _)) []
  obtain ⟨graph, hgraph, hadaptive⟩ := r.adaptive_of_probe_eq_ok g hprobe
  exact ⟨_, hadaptive, hends, fun _ _ _ _ => hends.unique, hgraph, rfl⟩

end Registry

end Lookalike
