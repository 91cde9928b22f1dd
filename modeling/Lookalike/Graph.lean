import Lookalike.Ordered.TextSet
import Lookalike.Report

/-! ### Similarity graphs

A graph joins the names of records that look alike. Every edge stands in the lists of both its
ends, and a name without edges is not in the graph. -/

namespace Lookalike

/-- A neighbour with the similarity to it. -/
abbrev Neighbour := String × Binary64.Word

/-- An edge between two names: all that a graph takes from a pair. Its similarity may be any word,
also one that is no number. -/
structure Edge where
  a : String
  b : String
  similarity : Binary64.Word

/-- The edge of a pair of records. -/
def Pair.edge (p : Pair) : Edge :=
  ⟨p.a.id, p.b.id, .ofFloat p.similarity⟩

/-- The order of neighbours: the most similar first, and those of one similarity by their names. -/
def neighbourLe (x y : Neighbour) : Bool :=
  ((Binary64.compareWords y.2 x.2).then (Ord.compare x.1 y.1)).isLE

/-- A graph: the neighbours of each name. -/
structure Graph where
  adjacency : TextMap (List Neighbour)

namespace Graph

/-- The neighbours of names with one more neighbour at the end of a list. -/
def addNeighbour (m : TextMap (List Neighbour)) (name : String) (x : Neighbour) :
    TextMap (List Neighbour) :=
  m.insert name ((m.get? name).getD [] ++ [x])

/-- The neighbours of names with one more edge. An edge from a name to itself does not count. -/
def addEdge (m : TextMap (List Neighbour)) (e : Edge) : TextMap (List Neighbour) :=
  if e.a = e.b then m
  else addNeighbour (addNeighbour m e.a (e.b, e.similarity)) e.b (e.a, e.similarity)

/-- The graph of some edges. -/
def ofEdges (edges : List Edge) : Graph :=
  ⟨(edges.foldl addEdge .empty).mapValues (·.mergeSort neighbourLe)⟩

/-- The graph of some pairs of records. -/
def ofPairs (pairs : List Pair) : Graph :=
  ofEdges (pairs.map Pair.edge)

/-- The number of edges. -/
def connections (g : Graph) : Nat :=
  g.adjacency.values.flatten.length / 2

/-- The number of names. -/
def nodeCount (g : Graph) : Nat :=
  g.adjacency.size

/-- Whether there are no edges. -/
def isEmpty (g : Graph) : Bool :=
  g.adjacency.isEmpty

/-- The neighbours of a name. -/
def neighbours (g : Graph) (name : String) : List Neighbour :=
  (g.adjacency.get? name).getD []

/-! ### Components -/

/-- A moment of the search for a component: the names that were met, in this search or in one
before it, those to go on from, the last one that was met first, and those of the component in the
order in which they were met. -/
structure Exploration where
  visited : TextSet
  stack : List String
  component : List String

namespace Exploration

/-- The search meets a name: it is to go on from the name, unless it was met before. -/
def meet (e : Exploration) (name : String) : Exploration :=
  if e.visited.contains name then e
  else ⟨e.visited.insert name, name :: e.stack, e.component ++ [name]⟩

/-- How many of some names are not met yet, and how many there are to go on from. -/
def pending (names : List String) (e : Exploration) : Nat :=
  names.countP (!e.visited.contains ·) + e.stack.length

/-- To meet a name leaves no more to do than there was. -/
theorem pending_meet_le {names : List String} {name : String} (h : name ∈ names)
    (e : Exploration) : (e.meet name).pending names ≤ e.pending names := by
  rw [meet]
  split
  · exact Nat.le_refl _
  · rename_i hnew
    have hmem (x : String) : (e.visited.insert name).contains x = true ↔
        x = name ∨ e.visited.contains x = true := by
      simp [TextSet.contains, TextSet.insert, mem_putText]
    have hcount : names.countP (!(e.visited.insert name).contains ·) <
        names.countP (!e.visited.contains ·) := by
      rw [List.countP_eq_length_filter, List.countP_eq_length_filter]
      have hsub : names.filter (!(e.visited.insert name).contains ·) =
          (names.filter (!e.visited.contains ·)).filter (· ≠ name) := by
        rw [List.filter_filter]
        refine List.filter_congr fun x _ => ?_
        rw [Bool.eq_iff_iff, Bool.not_eq_true', Bool.eq_false_iff, ne_eq, hmem]
        simp
      rw [hsub, List.length_filter_lt_length_iff_exists]
      exact ⟨name, List.mem_filter.2 ⟨h, by simpa using hnew⟩, by simp⟩
    simp only [pending, List.length_cons]
    omega

/-- To meet some names leaves no more to do than there was. -/
theorem pending_foldl_meet_le {names : List String} : ∀ {met : List String} (e : Exploration),
    (∀ name ∈ met, name ∈ names) → (met.foldl meet e).pending names ≤ e.pending names
  | [], _, _ => Nat.le_refl _
  | name :: _, e, h =>
    Nat.le_trans
      (pending_foldl_meet_le (e.meet name) fun x hx => h x (List.mem_cons_of_mem name hx))
      (pending_meet_le (h name List.mem_cons_self) e)

end Exploration

/-- The names in all lists of neighbours. -/
def listed (g : Graph) : List String :=
  g.adjacency.values.flatten.map (·.1)

/-- The neighbours of a name are in a list. -/
theorem mem_listed_of_mem_neighbours {g : Graph} {name x : String}
    (h : x ∈ (g.neighbours name).map (·.1)) : x ∈ g.listed := by
  obtain ⟨n, hn, rfl⟩ := List.mem_map.1 h
  refine List.mem_map.2 ⟨n, ?_, rfl⟩
  unfold neighbours TextMap.get? at hn
  cases hfind : g.adjacency.entries.find? (·.1 = name) with
  | none =>
    rw [hfind] at hn
    cases hn
  | some entry =>
    rw [hfind] at hn
    have hentry := List.mem_of_find?_eq_some hfind
    exact List.mem_flatten.2 ⟨entry.2, List.mem_map_of_mem hentry, hn⟩

/-- The search goes on from a name: it meets the neighbours of the name, one after another. -/
def goOn (g : Graph) (e : Exploration) (name : String) (rest : List String) : Exploration :=
  ((g.neighbours name).map (·.1)).foldl .meet { e with stack := rest }

/-- When the search has gone on from a name, there is less to do. -/
theorem pending_goOn_lt (g : Graph) {e : Exploration} {name : String} {rest : List String}
    (h : e.stack = name :: rest) : (g.goOn e name rest).pending g.listed < e.pending g.listed := by
  have hmet := Exploration.pending_foldl_meet_le { e with stack := rest }
    fun x (hx : x ∈ (g.neighbours name).map (·.1)) => mem_listed_of_mem_neighbours hx
  refine Nat.lt_of_le_of_lt hmet ?_
  simp [Exploration.pending, h]

/-- The search for a component, up to the moment when there is no name left to go on from. -/
def explore (g : Graph) (e : Exploration) : Exploration :=
  match h : e.stack with
  | [] => e
  | name :: rest =>
    have := g.pending_goOn_lt h
    g.explore (g.goOn e name rest)
termination_by e.pending g.listed

/-- Names in ascending order. -/
def ascendingNames (names : List String) : List String :=
  names.mergeSort fun x y => decide (x ≤ y)

/-- How far the search for components is: the names that were met, and the components that were
found. -/
structure Sweep where
  visited : TextSet
  found : List (List String)

/-- The search for components comes to a name. Unless the name was met before, a component is
searched for from it, and kept if it is large enough. -/
def visit (g : Graph) (minSize : Nat) (s : Sweep) (start : String) : Sweep :=
  if s.visited.contains start then s
  else
    let e := g.explore ⟨s.visited.insert start, [start], [start]⟩
    let found :=
      if minSize ≤ e.component.length then s.found ++ [ascendingNames e.component] else s.found
    ⟨e.visited, found⟩

/-- The search for components from all names, one after another. -/
def sweep (g : Graph) (minSize : Nat) : Sweep :=
  g.adjacency.keys.foldl (g.visit minSize) ⟨.empty, []⟩

/-- Whether a list of texts does not come after another one. -/
def textsLe : List String → List String → Bool
  | [], _ => true
  | _ :: _, [] => false
  | x :: xs, y :: ys => x < y || (x = y && textsLe xs ys)

/-- The order of components: the largest first, and those of one size by their names. -/
def componentLe (xs ys : List String) : Bool :=
  ys.length < xs.length || (xs.length = ys.length && textsLe xs ys)

/-- The connected components of at least a given size, each in ascending order. -/
def components (g : Graph) (minSize : Nat) : List (List String) :=
  (g.sweep minSize).found.mergeSort componentLe

end Graph

end Lookalike
