import Lookalike.Registry.Search

/-! ### Adaptive search

An adaptive search lowers the threshold step by step until a graph has about as many connections
as wanted. The connections are counted on a sample of the records and scaled up. -/

namespace Lookalike

/-- What an adaptive search is to reach, and how it goes about it. -/
structure AdaptiveGoal where
  target : Nat
  most : Nat
  minThreshold : Float
  maxThreshold : Float
  step : Float
  maxIterations : Nat
  sampleSize : Nat
  mode : Mode

/-- The goal where nothing else is said. -/
def AdaptiveGoal.default : AdaptiveGoal :=
  ⟨200, 1000, 0.1, 0.9, 0.05, 20, 1000, .fast⟩

/-- Why an adaptive search ends. -/
inductive StopReason where
  | targetReached
  | maxExceeded
  | growthRateExceeded
  | maxIterations
  deriving DecidableEq

namespace StopReason

/-- The name of a reason. -/
def name : StopReason → String
  | .targetReached => "target_reached"
  | .maxExceeded => "max_exceeded"
  | .growthRateExceeded => "growth_rate_exceeded"
  | .maxIterations => "max_iterations"

/-- The name of a reason as a title. -/
def title : StopReason → String
  | .targetReached => "TargetReached"
  | .maxExceeded => "MaxExceeded"
  | .growthRateExceeded => "GrowthRateExceeded"
  | .maxIterations => "MaxIterations"

end StopReason

/-- What an adaptive search finds. -/
structure AdaptiveOutcome where
  graph : Graph
  threshold : Float
  connections : Nat
  estimated : Nat
  iterations : Nat
  stopReason : StopReason

/-- A threshold that was tried, with the estimated number of connections. -/
structure Probe where
  threshold : Float
  estimate : Float

/-- How far an adaptive search is: the threshold that is chosen if it ends now, the threshold tried
last if the search goes on from it, the last estimate, and the number of tries. -/
structure AdaptiveState where
  chosen : Float
  previous : Option Probe
  estimated : Float
  iterations : Nat
  stopReason : StopReason

/-- An estimate that is more than this many times the one before ends the search. -/
def maxGrowth : Float := 3.0

/-- What an estimate is allowed to miss the least threshold by. -/
def thresholdSlack : Float := 1e-9

namespace AdaptiveGoal

/-- The threshold of a try, counted from zero. -/
def thresholdAt (g : AdaptiveGoal) (k : Nat) : Float :=
  g.maxThreshold - g.step * Float.ofNat k

/-- Whether a threshold is too low. -/
def isTooLow (g : AdaptiveGoal) (threshold : Float) : Bool :=
  decide (threshold < g.minThreshold - thresholdSlack)

/-- Why an estimate ends the search, and the threshold that is chosen then. -/
def stop? (g : AdaptiveGoal) (previous : Option Probe) (p : Probe) :
    Option (StopReason × Float) :=
  let target := Float.ofNat g.target
  let most := Float.ofNat g.most
  if target ≤ p.estimate && p.estimate ≤ most then some (.targetReached, p.threshold)
  else if most < p.estimate then
    some (.maxExceeded, (previous.map (·.threshold)).getD p.threshold)
  else
    match previous with
    | none => none
    | some q =>
      if 0.0 < q.estimate && maxGrowth * q.estimate < p.estimate then
        some (.growthRateExceeded, q.threshold)
      else none

end AdaptiveGoal

namespace Registry

variable {σ : Type}

/-- The factor from the connections in a sample to those among all records. -/
def sampleScale (all sample : Nat) : Float :=
  if sample = 0 then 1.0
  else
    let ratio := Float.ofNat all / Float.ofNat sample
    ratio * ratio

/-- The tries of an adaptive search, at most as many as the first argument says. -/
def probe (r : Registry σ) (g : AdaptiveGoal) (sample : List Record) (watch : Watch) :
    Nat → AdaptiveState → List Notice → Except RegistryError AdaptiveState × List Notice
  | 0, s, notices => (.ok s, notices)
  | left + 1, s, notices =>
    if watch.cancels notices.length then (.error .cancelled, notices)
    else
      let threshold := g.thresholdAt s.iterations
      if g.isTooLow threshold then (.ok s, notices)
      else
        -- What is told about a try goes on from what was told before it.
        let candidates := r.sampleCandidates sample threshold g.mode
        match graphOf candidates threshold watch notices with
        | (.error e, notices) => (.error e, notices)
        | (.ok graph, notices) =>
          let scale := sampleScale r.size sample.length
          let p : Probe := ⟨threshold, Float.ofNat graph.connections * scale⟩
          match g.stop? s.previous p with
          | some (reason, chosen) =>
            (.ok ⟨chosen, s.previous, p.estimate, s.iterations + 1, reason⟩, notices)
          | none =>
            r.probe g sample watch left
              ⟨threshold, some p, p.estimate, s.iterations + 1, .maxIterations⟩ notices

/-- The records with the least names, up to the size of a sample. -/
def sample (r : Registry σ) (g : AdaptiveGoal) : List Record :=
  r.all.take g.sampleSize

/-- The graph of an adaptive search. -/
def adaptive (r : Registry σ) (g : AdaptiveGoal) (watch : Watch) :
    Except RegistryError AdaptiveOutcome × List Notice :=
  let start : AdaptiveState := ⟨g.maxThreshold, none, 0.0, 0, .maxIterations⟩
  match r.probe g (r.sample g) watch g.maxIterations start [] with
  | (.error e, notices) => (.error e, notices)
  | (.ok s, notices) =>
    match r.graphAfter s.chosen g.mode watch notices with
    | (.error e, notices) => (.error e, notices)
    | (.ok graph, notices) =>
      (.ok ⟨graph, s.chosen, graph.connections, Binary64.roundNat s.estimated, s.iterations,
        s.stopReason⟩, notices)

end Registry

end Lookalike
