import Lookalike.Graph
import Lookalike.Proofs.Ordered.TextMap

/-! ### Neighbours and connections

Every edge of a graph stands in the lists of both its ends, so that the neighbours of a name are
what its edges show to it, and those of all names are twice as many as the edges. An edge from a
name to itself is not in the graph. -/

namespace Lookalike

/-! #### Lists under keys -/

/-- A key that is less than all others has no entry. -/
lemma find?_eq_none_of_lt {α : Type} {key k : String} {v : α} {rest : List (String × α)}
    (h : Ascending ((k, v) :: rest)) (hk : key < k) :
    ((k, v) :: rest).find? (·.1 = key) = none := by
  obtain ⟨hrest, -⟩ := List.pairwise_cons.1 h
  rw [List.find?_eq_none]
  intro e he
  rcases List.mem_cons.1 he with rfl | he
  · simpa using (String.ne_of_lt hk).symm
  · simpa using (String.ne_of_lt (String.lt_trans hk (hrest e he))).symm

/-- A list put in at a key comes in the place of the one that was there. -/
lemma length_flatten_putEntry {α : Type} (key : String) (value : List α)
    {entries : List (String × List α)} (h : Ascending entries) :
    ((putEntry key value entries).map (·.2)).flatten.length +
        (((entries.find? (·.1 = key)).map (·.2)).getD []).length =
      (entries.map (·.2)).flatten.length + value.length := by
  induction entries with
  | nil => simp [putEntry]
  | cons e rest ih =>
    obtain ⟨k, v⟩ := e
    have hrest := ih (List.pairwise_cons.1 h).2
    rw [putEntry]
    split
    · rename_i hlt
      rw [find?_eq_none_of_lt h hlt]
      simp [Nat.add_comm]
    · split
      · rename_i hkey
        simp [hkey]
        omega
      · rename_i hkey
        have hfind : ((k, v) :: rest).find? (·.1 = key) = rest.find? (·.1 = key) :=
          List.find?_cons_of_neg (by simpa using fun heq : k = key => hkey heq.symm)
        rw [hfind]
        simp only [List.map_cons, List.flatten_cons, List.length_append]
        omega

/-! #### Edges seen from a name -/

namespace Edge

/-- An edge has two different ends, which are the given names in either order. -/
def Joins (e : Edge) (x y : String) : Prop :=
  e.a ≠ e.b ∧ (e.a = x ∧ e.b = y ∨ e.a = y ∧ e.b = x)

instance (e : Edge) (x y : String) : Decidable (e.Joins x y) :=
  inferInstanceAs (Decidable (_ ∧ _))

/-- An edge joins its ends in both directions. -/
lemma joins_comm (e : Edge) (x y : String) : e.Joins x y ↔ e.Joins y x :=
  and_congr_right fun _ => or_comm

/-- The neighbour that an edge gives to a name, if the name is at one of two different ends. -/
def seenFrom (x : String) (e : Edge) : Option Neighbour :=
  if e.a = e.b then none
  else if e.a = x then some (e.b, e.similarity)
  else if e.b = x then some (e.a, e.similarity)
  else none

/-- The neighbour that an edge gives to a name is its other end, with its similarity. -/
lemma seenFrom_eq_some_iff {e : Edge} {x : String} {n : Neighbour} :
    e.seenFrom x = some n ↔ e.Joins x n.1 ∧ n.2 = e.similarity := by
  obtain ⟨y, s⟩ := n
  unfold seenFrom Joins
  by_cases he : e.a = e.b
  · simp [he]
  · by_cases ha : e.a = x <;> by_cases hb : e.b = x
    · exact absurd (ha.trans hb.symm) he
    · simp [ha, hb, eq_comm (a := s), and_assoc]
    · simp [ha, hb, eq_comm (a := s)]
    · simp [he, ha, hb]

end Edge

namespace Graph

/-- A neighbour comes in at the end of its list. -/
lemma neighbours_addNeighbour (m : TextMap (List Neighbour)) (name x : String) (n : Neighbour) :
    neighbours ⟨addNeighbour m name n⟩ x =
      if name = x then neighbours ⟨m⟩ x ++ [n] else neighbours ⟨m⟩ x := by
  unfold neighbours addNeighbour
  dsimp only
  rw [TextMap.get?_insert]
  split
  · rename_i h
    rw [h, Option.getD_some]
  · rfl

/-- The neighbour that an edge gives to a name comes in at the end of its list. -/
lemma neighbours_addEdge (m : TextMap (List Neighbour)) (e : Edge) (x : String) :
    neighbours ⟨addEdge m e⟩ x = neighbours ⟨m⟩ x ++ (e.seenFrom x).toList := by
  rw [addEdge, Edge.seenFrom]
  by_cases he : e.a = e.b
  · simp [he]
  · rw [if_neg he, if_neg he, neighbours_addNeighbour, neighbours_addNeighbour]
    by_cases ha : e.a = x
    · have hb : e.b ≠ x := fun hb => he (ha.trans hb.symm)
      simp [ha, hb]
    · by_cases hb : e.b = x <;> simp [ha, hb]

/-- The neighbours that edges give to a name come in in the order of the edges. -/
lemma neighbours_foldl_addEdge (edges : List Edge) (m : TextMap (List Neighbour)) (x : String) :
    neighbours ⟨edges.foldl addEdge m⟩ x =
      neighbours ⟨m⟩ x ++ edges.filterMap (Edge.seenFrom x) := by
  induction edges generalizing m with
  | nil => simp
  | cons e rest ih =>
    rw [List.foldl_cons, ih, neighbours_addEdge, List.append_assoc]
    cases hseen : e.seenFrom x <;> simp [hseen]

/-- The neighbours of a name in a graph are those that its edges give to it, sorted. -/
lemma neighbours_ofEdges (edges : List Edge) (x : String) :
    (ofEdges edges).neighbours x = (edges.filterMap (Edge.seenFrom x)).mergeSort neighbourLe := by
  have hnone : neighbours ⟨.empty⟩ x = [] := rfl
  have hall := neighbours_foldl_addEdge edges .empty x
  rw [hnone, List.nil_append] at hall
  rw [← hall]
  unfold neighbours ofEdges
  dsimp only
  rw [TextMap.get?_mapValues]
  cases TextMap.get? (edges.foldl addEdge .empty) x with
  | none => simp
  | some ns => rfl

/-- The neighbours of a name in a graph are the other ends of its edges, with the similarities of
these. -/
lemma mem_neighbours_ofEdges {edges : List Edge} {x : String} {n : Neighbour} :
    n ∈ (ofEdges edges).neighbours x ↔ ∃ e ∈ edges, e.Joins x n.1 ∧ n.2 = e.similarity := by
  rw [neighbours_ofEdges, List.mem_mergeSort, List.mem_filterMap]
  simp only [Edge.seenFrom_eq_some_iff]

/-! #### Counting neighbours -/

/-- How many neighbours all names have together. -/
def degreeSum (m : TextMap (List Neighbour)) : Nat :=
  m.values.flatten.length

/-- A neighbour counts once. -/
lemma degreeSum_addNeighbour (m : TextMap (List Neighbour)) (name : String) (x : Neighbour) :
    degreeSum (addNeighbour m name x) = degreeSum m + 1 := by
  have h := length_flatten_putEntry name ((m.get? name).getD [] ++ [x]) m.ascending
  rw [List.length_append, List.length_singleton] at h
  change degreeSum (addNeighbour m name x) + ((m.get? name).getD []).length =
    degreeSum m + (((m.get? name).getD []).length + 1) at h
  omega

/-- An edge between two names counts twice. -/
lemma degreeSum_addEdge (m : TextMap (List Neighbour)) (e : Edge) :
    degreeSum (addEdge m e) = degreeSum m + 2 * [e].countP fun e => e.a ≠ e.b := by
  rw [addEdge]
  by_cases he : e.a = e.b
  · simp [he]
  · rw [if_neg he, degreeSum_addNeighbour, degreeSum_addNeighbour]
    simp [he]

/-- Edges between different names count twice each. -/
lemma degreeSum_foldl_addEdge (edges : List Edge) (m : TextMap (List Neighbour)) :
    degreeSum (edges.foldl addEdge m) = degreeSum m + 2 * edges.countP fun e => e.a ≠ e.b := by
  induction edges generalizing m with
  | nil => rfl
  | cons e rest ih =>
    have hcount : (e :: rest).countP (fun e => e.a ≠ e.b) =
        [e].countP (fun e => e.a ≠ e.b) + rest.countP fun e => e.a ≠ e.b := by
      rw [← List.countP_append, List.singleton_append]
    rw [List.foldl_cons, ih, degreeSum_addEdge, hcount]
    omega

/-- Sorting the neighbours of names does not change how many they are. -/
lemma degreeSum_mapValues_mergeSort (m : TextMap (List Neighbour)) :
    degreeSum (m.mapValues (·.mergeSort neighbourLe)) = degreeSum m := by
  simp [degreeSum, TextMap.values, TextMap.mapValues, Function.comp_def, List.length_flatten]

/-- A graph has as many connections as edges between different names. -/
theorem connections_ofEdges (edges : List Edge) :
    (ofEdges edges).connections = edges.countP fun e => e.a ≠ e.b := by
  have hsum : degreeSum (ofEdges edges).adjacency = 2 * edges.countP fun e => e.a ≠ e.b := by
    rw [ofEdges, degreeSum_mapValues_mergeSort, degreeSum_foldl_addEdge]
    exact Nat.zero_add _
  change degreeSum (ofEdges edges).adjacency / 2 = _
  rw [hsum, Nat.mul_div_cancel_left _ Nat.two_pos]

/-- The graph of pairs of records with different names has a connection for each of them. -/
lemma connections_ofPairs {pairs : List Pair} (h : ∀ p ∈ pairs, p.a.id ≠ p.b.id) :
    (ofPairs pairs).connections = pairs.length := by
  rw [ofPairs, connections_ofEdges, List.countP_map]
  exact List.countP_eq_length.2 fun p hp => decide_eq_true (h p hp)

end Graph

end Lookalike
