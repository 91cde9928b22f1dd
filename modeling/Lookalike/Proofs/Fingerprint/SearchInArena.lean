import Mathlib
import Lookalike.Proofs.Fingerprint.TreeInArena

/-! ### Searches in arenas

A search goes through an arena with a stack of places that come next. It takes the place on top,
keeps it if it is near enough, and puts the ends of those branches on the stack that may lead to
hits, so that the branch of the greatest distance comes next. In the arena of a tree this is the
search of the tree: at each moment the hits to come are those of the nodes on the stack, one after
another. -/

namespace Lookalike

variable {α : Type}

namespace Arena

/-- The places to which the branches of a cell lead whose distances lie between two bounds, in the
order of the distances. -/
def Cell.endsBetween (c : Cell α) (low high : Nat) : List Nat :=
  (c.branches.filter fun b => low ≤ b.1 ∧ b.1 ≤ high).map (·.2)

/-- The hits of a search, with their distances from the query, that are found in at most a number of
steps from the places on a stack, behind those that are found already. There are none if a place is
not that of a cell. -/
def searchFrom? (cells : Arena α) (query : Fingerprint) (radius : Nat) :
    Nat → List Nat → List (Nat × Nat) → Option (List (Nat × Nat))
  | _, [], found => some found
  | 0, _ :: _, _ => none
  | steps + 1, i :: stack, found =>
    match cells[i]? with
    | none => none
    | some c =>
      let distance := c.fingerprint.distance query
      let met := if distance ≤ radius then [(i, distance)] else []
      -- The branches are put on the stack one by one, so that the last one comes to be on top.
      let ends := c.endsBetween (distance - radius) (min (distance + radius) maxRadius)
      searchFrom? cells query radius steps (ends.reverse ++ stack) (found ++ met)

/-- The hits within a radius of a query, with their distances from it, in the order in which a
search from the first cell finds them. There are none if the search has not come to its end after
as many steps as there are cells. -/
def search? (cells : Arena α) (query : Fingerprint) (radius : Nat) : Option (List (Nat × Nat)) :=
  if cells.isEmpty then some [] else searchFrom? cells query radius cells.length [0] []

end Arena

namespace MetricNode

/-- The hits on those branches whose distances lie between two bounds are the hits of the nodes at
their ends, from the greatest distance to the least. -/
lemma searchAmong_eq_flatMap (query : Fingerprint) (radius low high : Nat)
    (branches : List (Nat × MetricNode α)) :
    searchAmong query radius low high branches =
      ((branches.filter fun b => low ≤ b.1 ∧ b.1 ≤ high).map (·.2)).reverse.flatMap
        (search query radius) := by
  induction branches with
  | nil => rfl
  | cons b rest ih =>
    obtain ⟨label, n⟩ := b
    rw [searchAmong, ih]
    by_cases hin : low ≤ label ∧ label ≤ high
    · simp [hin]
    · simp [hin]

/-- The ends of some branches of the cell of a node are the places of the nodes there. -/
lemma endsBetween_cell (x : Placed α) (branches : List (Nat × MetricNode α)) (low high : Nat) :
    (node x branches).cell.endsBetween low high =
      ((branches.filter fun b => low ≤ b.1 ∧ b.1 ≤ high).map (·.2)).map (·.entry.place) := by
  rw [Arena.Cell.endsBetween, cell, MetricNode.branches, List.filter_map, List.map_map,
    List.map_map]
  rfl

/-- The nodes to which a search goes on from a node, the one at the greatest distance first. -/
def ahead (query : Fingerprint) (radius : Nat) (x : Placed α)
    (branches : List (Nat × MetricNode α)) : List (MetricNode α) :=
  let distance := x.fingerprint.distance query
  ((branches.filter fun b =>
    distance - radius ≤ b.1 ∧ b.1 ≤ min (distance + radius) maxRadius).map (·.2)).reverse

/-- What a search finds at a node and below it is the node, if it is near enough, and what it finds
at the nodes to which it goes on. -/
lemma search_node (query : Fingerprint) (radius : Nat) (x : Placed α)
    (branches : List (Nat × MetricNode α)) :
    search query radius (node x branches) =
      (if x.fingerprint.distance query ≤ radius then [(x, x.fingerprint.distance query)] else []) ++
        (ahead query radius x branches).flatMap (search query radius) := by
  rw [search, searchAmong_eq_flatMap, ahead]
  split
  · rfl
  · rfl

/-- One step of a search: the place of a node comes from the stack, and the places of the nodes to
which the search goes on come onto it. -/
lemma searchFrom?_cons {cells : Arena α} (query : Fingerprint) (radius steps : Nat) {x : Placed α}
    {branches : List (Nat × MetricNode α)}
    (hcell : cells[x.place]? = some (node x branches).cell) (stack : List Nat)
    (found : List (Nat × Nat)) :
    cells.searchFrom? query radius (steps + 1) (x.place :: stack) found =
      cells.searchFrom? query radius steps
        ((ahead query radius x branches).map (·.entry.place) ++ stack)
        (found ++ if x.fingerprint.distance query ≤ radius then
          [(x.place, x.fingerprint.distance query)] else []) := by
  rw [Arena.searchFrom?, hcell]
  dsimp only
  rw [endsBetween_cell, ahead, List.map_reverse]
  rfl

/-- The number of nodes of some nodes and below them. -/
def sizes (ns : List (MetricNode α)) : Nat :=
  (ns.map fun n => n.nodes.length).sum

/-- There are fewer nodes to which a search goes on from a node than at the node and below it. -/
lemma sizes_ahead_append_lt (query : Fingerprint) (radius : Nat) (x : Placed α)
    (branches : List (Nat × MetricNode α)) (rest : List (MetricNode α)) :
    sizes (ahead query radius x branches ++ rest) < sizes (node x branches :: rest) := by
  have hahead : ((ahead query radius x branches).map fun n => n.nodes.length).sum ≤
      (branches.map fun b => b.2.nodes.length).sum := by
    rw [ahead, List.map_reverse, List.sum_reverse, List.map_map]
    exact (List.filter_sublist.map _).sum_le_sum fun _ _ => Nat.zero_le _
  have hnodes : (node x branches).nodes.length =
      (branches.map fun b => b.2.nodes.length).sum + 1 := by
    rw [nodes, nodesAmong_eq_flatMap, List.length_cons, List.length_flatMap]
  rw [sizes, sizes, List.map_append, List.sum_append, List.map_cons, List.sum_cons, hnodes]
  omega

/-- A search from the places of nodes that are laid out finds the hits of these nodes one after
another. It comes to its end, because it takes no more steps than there are nodes. -/
lemma searchFrom?_places {cells : Arena α} (query : Fingerprint) (radius : Nat) {steps : Nat}
    {ns : List (MetricNode α)} (hlaid : ∀ n ∈ ns, n.IsLaidIn cells) (hsteps : sizes ns ≤ steps)
    (found : List (Nat × Nat)) :
    cells.searchFrom? query radius steps (ns.map (·.entry.place)) found =
      some (found ++ (ns.flatMap (search query radius)).map fun hit => (hit.1.place, hit.2)) := by
  -- The induction is on the steps that are left, which are at least as many as the nodes ahead.
  induction steps generalizing ns found with
  | zero =>
    cases ns with
    | nil => simp [Arena.searchFrom?]
    | cons n rest =>
      obtain ⟨x, branches⟩ := n
      have hlt := sizes_ahead_append_lt query radius x branches rest
      omega
  | succ steps ih =>
    cases ns with
    | nil => simp [Arena.searchFrom?]
    | cons n rest =>
      obtain ⟨x, branches⟩ := n
      obtain ⟨hn, hrest⟩ := List.forall_mem_cons.1 hlaid
      obtain ⟨hcell, hbranches⟩ := isLaidIn_node_iff.1 hn
      have hahead : ∀ m ∈ ahead query radius x branches, m.IsLaidIn cells := by
        intro m hm
        obtain ⟨b, hb, rfl⟩ := List.mem_map.1 (List.mem_reverse.1 hm)
        exact hbranches b (List.mem_of_mem_filter hb)
      have hfewer := sizes_ahead_append_lt query radius x branches rest
      rw [List.map_cons, entry, searchFrom?_cons query radius steps hcell, ← List.map_append,
        ih (List.forall_mem_append.2 ⟨hahead, hrest⟩) (by omega), List.append_assoc,
        List.flatMap_cons, search_node, List.flatMap_append]
      by_cases hnear : x.fingerprint.distance query ≤ radius
      · simp [hnear]
      · simp [hnear]

end MetricNode

namespace MetricTree

/-- **Searches in arenas**: in the arena of a tree, whatever the query and the radius, the search by
a stack comes to its end and finds the places that the search of the tree finds, with their
distances and in its order. -/
theorem search?_arena (t : MetricTree α) (query : Fingerprint) (radius : Nat) :
    t.arena.search? query radius =
      some ((t.hits query radius).map fun hit => (hit.1.place, hit.2)) := by
  unfold Arena.search? hits
  cases hroot : t.root with
  | none =>
    rw [arena_eq_nil hroot]
    rfl
  | some n =>
    have hnodes : t.nodes = n.nodes := by
      rw [nodes, hroot]
      rfl
    have hlaid : n.IsLaidIn t.arena := fun m hm => t.getElem?_arena (hnodes ▸ hm)
    have hplace : n.entry.place = 0 := place_rootOf t.entries n (t.root_eq ▸ hroot)
    have hlength : n.nodes.length = t.arena.length := by
      rw [arena, List.length_map, nodesInOrder, List.length_mergeSort, hnodes]
    have hpos : 0 < t.arena.length := by
      rw [← hlength]
      exact List.length_pos_of_mem n.mem_nodes_self
    have hsteps : MetricNode.sizes [n] ≤ t.arena.length := by
      rw [MetricNode.sizes, List.map_singleton, List.sum_singleton, hlength]
    have hsearch := MetricNode.searchFrom?_places query radius
      (List.forall_mem_singleton.2 hlaid) hsteps []
    rw [if_neg (by simpa using List.length_pos_iff.1 hpos), ← hplace]
    simpa using hsearch

end MetricTree

end Lookalike
