import Lookalike.Decimal.Binary64
import Lookalike.Record.Basic

/-! ### Reports

A pair of records with their similarity falls into one of three tiers. A report keeps the pairs of
each tier in the order in which they were given. -/

namespace Lookalike

/-- How much two records look alike. -/
inductive Tier where
  | high
  | medium
  | low
  deriving DecidableEq

namespace Tier

/-- The tier of a similarity. -/
def of (similarity : Float) : Tier :=
  if 0.9 ≤ similarity then .high
  else if 0.7 ≤ similarity then .medium
  else .low

/-- The name of a tier. -/
def name : Tier → String
  | .high => "high"
  | .medium => "medium"
  | .low => "low"

/-- The name of a tier as a title. -/
def title : Tier → String
  | .high => "High"
  | .medium => "Medium"
  | .low => "Low"

/-- The tier with a given name. -/
def ofName? (s : String) : Option Tier :=
  [Tier.high, .medium, .low].find? (·.name = s)

end Tier

/-- How pairs are looked for: among near fingerprints, or among all records. -/
inductive Mode where
  | fast
  | exhaustive
  deriving DecidableEq

namespace Mode

/-- The name of a mode. -/
def name : Mode → String
  | .fast => "fast"
  | .exhaustive => "exhaustive"

/-- The mode with a given name. -/
def ofName? (s : String) : Option Mode :=
  [Mode.fast, .exhaustive].find? (·.name = s)

end Mode

/-- Two records that look alike. -/
@[ext] structure Pair where
  a : Record
  b : Record
  similarity : Float

namespace Pair

/-- The tier of a pair. -/
def tier (p : Pair) : Tier :=
  .of p.similarity

/-- The order of pairs: the most similar first, and pairs of one similarity by their records. -/
def compare (p q : Pair) : Ordering :=
  ((Binary64.totalCompare q.similarity p.similarity).then (Ord.compare p.a.id q.a.id)).then
    (Ord.compare p.b.id q.b.id)

/-- Whether a pair does not come after another one. -/
def le (p q : Pair) : Bool :=
  (p.compare q).isLE

end Pair

/-- Pairs by their tiers. -/
structure Report where
  high : List Pair
  medium : List Pair
  low : List Pair
  total : Nat

namespace Report

/-- The report without pairs. -/
def empty : Report :=
  ⟨[], [], [], 0⟩

/-- The report of some pairs in their order. -/
def ofPairs (pairs : List Pair) : Report :=
  { high := pairs.filter (·.tier = .high), medium := pairs.filter (·.tier = .medium),
    low := pairs.filter (·.tier = .low), total := pairs.length }

/-- All pairs, tier by tier. -/
def pairs (r : Report) : List Pair :=
  r.high ++ r.medium ++ r.low

end Report

end Lookalike
