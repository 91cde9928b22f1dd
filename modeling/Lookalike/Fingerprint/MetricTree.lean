import Lookalike.Fingerprint.Basic

/-! ### Metric trees

A metric tree holds items under their fingerprints. Below each node, the items are divided by
their distance from it, so that a search passes by the branches whose distance rules out a hit.
A search visits a node before its branches and the branches from the greatest distance to the
least. -/

namespace Lookalike

/-- An item in a tree: how many were put in before it, its fingerprint, and itself. -/
structure Placed (α : Type) where
  place : Nat
  fingerprint : Fingerprint
  item : α

/-- A node with its branches in ascending order of their distances from it. -/
inductive MetricNode (α : Type) where
  | node (entry : Placed α) (branches : List (Nat × MetricNode α))

/-- The greatest radius of a search. -/
def maxRadius : Nat := UInt32.size - 1

namespace MetricNode

variable {α : Type}

/-- The item at a node. -/
def entry : MetricNode α → Placed α
  | .node x _ => x

mutual

/-- A node with one more item below it. -/
def insert (x : Placed α) : MetricNode α → MetricNode α
  | .node entry branches =>
    .node entry (insertAmong (entry.fingerprint.distance x.fingerprint) x branches)

/-- Branches with one more item at a distance. -/
def insertAmong (distance : Nat) (x : Placed α) :
    List (Nat × MetricNode α) → List (Nat × MetricNode α)
  | [] => [(distance, .node x [])]
  | (label, n) :: rest =>
    if distance < label then (distance, .node x []) :: (label, n) :: rest
    else if distance = label then (label, n.insert x) :: rest
    else (label, n) :: insertAmong distance x rest

end

mutual

/-- The items within a radius of a query with their distances. -/
def search (query : Fingerprint) (radius : Nat) : MetricNode α → List (Placed α × Nat)
  | .node entry branches =>
    let distance := entry.fingerprint.distance query
    let below :=
      searchAmong query radius (distance - radius) (min (distance + radius) maxRadius) branches
    if distance ≤ radius then (entry, distance) :: below else below

/-- The hits in those branches whose distances lie between two bounds. -/
def searchAmong (query : Fingerprint) (radius low high : Nat) :
    List (Nat × MetricNode α) → List (Placed α × Nat)
  | [] => []
  | (label, n) :: rest =>
    let later := searchAmong query radius low high rest
    if low ≤ label ∧ label ≤ high then later ++ n.search query radius else later

end

mutual

/-- The items of a node and below it, in the order in which a search visits them. -/
def walk : MetricNode α → List (Placed α)
  | .node entry branches => entry :: walkAmong branches

/-- The items on some branches, from the greatest distance to the least. -/
def walkAmong : List (Nat × MetricNode α) → List (Placed α)
  | [] => []
  | (_, n) :: rest => walkAmong rest ++ n.walk

end

mutual

/-- Whether every branch of a node and below it has the distance of the items at its ends. -/
def isLabelled : MetricNode α → Bool
  | .node entry branches => areLabelled entry.fingerprint branches

/-- Whether some branches from a fingerprint have the distances of the items at their ends, and the
branches below them too. -/
def areLabelled (top : Fingerprint) : List (Nat × MetricNode α) → Bool
  | [] => true
  | (label, n) :: rest =>
    top.distance n.entry.fingerprint = label && n.isLabelled && areLabelled top rest

end

end MetricNode

/-- The node on top of a tree with one more item. -/
def growRoot {α : Type} : Option (MetricNode α) → Placed α → Option (MetricNode α)
  | none, x => some (.node x [])
  | some n, x => some (n.insert x)

/-- The node on top of the tree that some items make, put in one after another. -/
def rootOf {α : Type} (entries : List (Fingerprint × α)) : Option (MetricNode α) :=
  entries.zipIdx.foldl (fun root ((f, a), place) => growRoot root ⟨place, f, a⟩) none

theorem rootOf_append {α : Type} (entries : List (Fingerprint × α)) (f : Fingerprint) (a : α) :
    rootOf (entries ++ [(f, a)]) = growRoot (rootOf entries) ⟨entries.length, f, a⟩ := by
  simp [rootOf, List.zipIdx_append]

/-- A tree of items: the items in the order in which they were put in, and the node on top. -/
structure MetricTree (α : Type) where
  entries : List (Fingerprint × α)
  root : Option (MetricNode α)
  root_eq : root = rootOf entries

namespace MetricTree

variable {α : Type}

/-- The tree without items. -/
def empty : MetricTree α :=
  ⟨[], none, rfl⟩

/-- The tree with one more item. -/
def insert (t : MetricTree α) (f : Fingerprint) (a : α) : MetricTree α :=
  ⟨t.entries ++ [(f, a)], growRoot t.root ⟨t.entries.length, f, a⟩, by
    rw [rootOf_append, t.root_eq]⟩

/-- The tree of some items. -/
def ofList (entries : List (Fingerprint × α)) : MetricTree α :=
  ⟨entries, rootOf entries, rfl⟩

/-- The tree of those items that pass a test. -/
def filter (t : MetricTree α) (keep : α → Bool) : MetricTree α :=
  ofList (t.entries.filter fun (_, a) => keep a)

/-- The number of items. -/
def size (t : MetricTree α) : Nat :=
  t.entries.length

/-- The items in the order in which they were put in. -/
def items (t : MetricTree α) : List α :=
  t.entries.map (·.2)

/-- Whether the branches have the right distances and lead to each item exactly once. -/
def isSound (t : MetricTree α) : Bool :=
  match t.root with
  | none => t.entries.isEmpty
  | some n => n.isLabelled && (n.walk.map (·.place)).isPerm (List.range t.size)

/-- The hits of a search with their places. -/
def hits (t : MetricTree α) (query : Fingerprint) (radius : Nat) : List (Placed α × Nat) :=
  match t.root with
  | none => []
  | some n => n.search query radius

/-- The items within a radius of a query with their distances. -/
def search (t : MetricTree α) (query : Fingerprint) (radius : Nat) : List (α × Nat) :=
  (t.hits query radius).map fun (x, d) => (x.item, d)

/-- The items within a radius of one item that were put in after it, in that order. -/
def laterHits (t : MetricTree α) (place : Nat) (f : Fingerprint) (radius : Nat) :
    List (Placed α × Nat) :=
  ((t.hits f radius).filter fun (x, _) => place < x.place).mergeSort
    fun x y => x.1.place ≤ y.1.place

/-- All pairs of items within a radius of each other with their distances. -/
def pairs (t : MetricTree α) (radius : Nat) : List (α × α × Nat) :=
  t.entries.zipIdx.flatMap fun ((f, a), place) =>
    (t.laterHits place f radius).map fun (x, d) => (a, x.item, d)

end MetricTree

end Lookalike
