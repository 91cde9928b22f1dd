import Lookalike.Graph
import Lookalike.Progress
import Lookalike.Registry.Basic
import Lookalike.Similarity

/-! ### Looking for similar records

A search compares a unit with the records whose fingerprints are near its own. Pairs of similar
records are looked for among pairs of near fingerprints, or among all pairs; a graph of them leaves
out pairs of versions of one unit. -/

namespace Lookalike

open Python

/-- A record that was found, with its similarity to what was looked for and the distance of their
fingerprints. -/
@[ext] structure Match where
  record : Record
  similarity : Float
  distance : Nat

namespace Match

/-- The order of matches: the most similar first, and those of one similarity by their names. -/
def compare (x y : Match) : Ordering :=
  (Binary64.totalCompare y.similarity x.similarity).then (Ord.compare x.record.id y.record.id)

/-- Whether a match does not come after another one. -/
def le (x y : Match) : Bool :=
  (x.compare y).isLE

end Match

/-- The match of a unit with a record at a distance, if the two are similar enough. -/
def matchOf (u : CodeUnit) (threshold : Float) (hit : Record × Nat) : Option Match :=
  let s := similarity u.features hit.1.unit.features
  if threshold ≤ s then some ⟨hit.1, s, hit.2⟩ else none

/-- The pair of two records, if they are similar enough; the lesser name comes first. Of two records
with one name there is no pair, and none of two versions of one unit if `distinct` says so. -/
def pairOf (threshold : Float) (distinct : Bool) (candidate : Record × Record) : Option Pair :=
  let (a, b) := candidate
  if a.id = b.id || (distinct && a.sameIdentity b) then none
  else
    let s := similarity a.unit.features b.unit.features
    if s < threshold then none
    else if a.id ≤ b.id then some ⟨a, b, s⟩ else some ⟨b, a, s⟩

/-- All pairs of records in a list, each record with those after it. -/
def allPairs : List Record → List (Record × Record)
  | [] => []
  | a :: rest => rest.map (fun b => (a, b)) ++ allPairs rest

/-- The pairs of records with near fingerprints. -/
def nearPairs (index : MetricTree Record) (radius : Nat) : List (Record × Record) :=
  (index.pairs radius).map fun (a, b, _) => (a, b)

/-- The similar pairs among some candidates in their order, under a watch that has been told
`notices` before. -/
def scorePairs (candidates : List (Record × Record)) (threshold : Float) (distinct : Bool)
    (watch : Watch) (notices : List Notice) : Except RegistryError (List Pair) × List Notice :=
  match runSteps watch (pairOf threshold distinct) candidates.length 0 candidates [] notices with
  | (some pairs, notices) => (.ok (pairs.mergeSort Pair.le), notices)
  | (none, notices) => (.error .cancelled, notices)

namespace Registry

variable {σ : Type}

/-! ### Searching -/

/-- The matches of a unit among some hits, the most similar first. Records of the given name do not
count. -/
def matchesAmong (id : String) (u : CodeUnit) (threshold : Float) (hits : List (Record × Nat)) :
    List Match :=
  ((hits.filter fun (x, _) => x.id ≠ id).filterMap (matchOf u threshold)).mergeSort Match.le

/-- The records similar to a unit, within a radius around its fingerprint. -/
def similarToUnit (r : Registry σ) (u : CodeUnit) (threshold : Float) (radius : Nat) :
    List Match :=
  (matchesAmong u.contentHash u threshold
    (r.index.search (.ofFeatures u.features) radius)).take r.settings.maxResults

/-- The records similar to the unit that stands for a text; none if the text cannot be read. -/
def similarTo (r : Registry σ) (source : String) (threshold : Float) : List Match :=
  match CodeUnit.extract source none with
  | .error _ => []
  | .ok units =>
    match CodeUnit.primary? units with
    | some u => r.similarToUnit u threshold r.settings.searchRadius
    | none => []

/-- The least radius in which related records are looked for. -/
def leastRadius : Nat := 10

/-- The radius in which records related by a threshold are looked for. -/
def relatedRadius (threshold : Float) : Nat :=
  max (min (Binary64.floorNat (64.0 * (1.0 - threshold))) maxDistance) leastRadius

/-- The records related to the one of a given name. -/
def related (r : Registry σ) (id : String) (threshold : Float) (maxResults : Nat) : List Match :=
  match r.get? id with
  | none => []
  | some x =>
    (matchesAmong id x.unit threshold
      (r.index.search x.fingerprint (relatedRadius threshold))).take maxResults

/-! ### Pairs and graphs -/

/-- The pairs of records that are compared. -/
def candidates (r : Registry σ) (threshold : Float) (mode : Mode) : List (Record × Record) :=
  match mode with
  | .fast => nearPairs r.index (r.settings.radius.radius threshold)
  | .exhaustive => allPairs r.index.items

/-- The report of all similar pairs of records. -/
def duplicates (r : Registry σ) (threshold : Float) (mode : Mode) (watch : Watch) :
    Except RegistryError Report × List Notice :=
  let (answer, notices) := scorePairs (r.candidates threshold mode) threshold false watch []
  (answer.map Report.ofPairs, notices)

/-- The graph of some candidates. -/
def graphOf (candidates : List (Record × Record)) (threshold : Float) (watch : Watch)
    (notices : List Notice) : Except RegistryError Graph × List Notice :=
  let (answer, notices) := scorePairs candidates threshold true watch notices
  (answer.map Graph.ofPairs, notices)

/-- The graph of all similar records, under a watch that has been told `notices` before. -/
def graphAfter (r : Registry σ) (threshold : Float) (mode : Mode) (watch : Watch)
    (notices : List Notice) : Except RegistryError Graph × List Notice :=
  graphOf (r.candidates threshold mode) threshold watch notices

/-- The graph of all similar records. -/
def graph (r : Registry σ) (threshold : Float) (mode : Mode) (watch : Watch) :
    Except RegistryError Graph × List Notice :=
  r.graphAfter threshold mode watch []

/-- The pairs of records in a sample that are compared. -/
def sampleCandidates (r : Registry σ) (sample : List Record) (threshold : Float) (mode : Mode) :
    List (Record × Record) :=
  match mode with
  | .fast =>
    nearPairs (sample.foldl (fun t x => t.insert x.fingerprint x) .empty)
      (r.settings.radius.radius threshold)
  | .exhaustive => allPairs sample

end Registry

end Lookalike
