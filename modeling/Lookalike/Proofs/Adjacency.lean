import Mathlib.Data.List.Forall2
import Lookalike.Proofs.Components
import Lookalike.Proofs.Decimal.Order

/-! ### Graphs as undirected multigraphs

What an edge shows to a name does not depend on the order of its ends, and sorting makes a list of
neighbours forget the order in which the edges came in, because the order of neighbours tells all of
them apart, whatever bits their similarities have. A graph is therefore given by how often each two
names are joined at each similarity. -/

namespace Lookalike

/-! #### Edges the other way round -/

/-- The edge the other way round. -/
def Edge.flip (e : Edge) : Edge :=
  ⟨e.b, e.a, e.similarity⟩

/-- An edge shows the same to a name the other way round. -/
lemma Edge.seenFrom_flip (e : Edge) (x : String) : e.flip.seenFrom x = e.seenFrom x := by
  unfold seenFrom flip
  by_cases he : e.a = e.b
  · simp [he]
  · by_cases ha : e.a = x <;> by_cases hb : e.b = x
    · exact absurd (ha.trans hb.symm) he
    · simp [ha, hb, eq_comm (a := x)]
    · simp [ha, hb, eq_comm (a := x)]
    · simp [ha, hb, eq_comm (a := e.b)]

/-! #### Maps by their keys -/

/-- Maps with the same keys are equal if they have the same values at all keys, where a default
stands for no value. -/
lemma TextMap.eq_of_keys_eq {α : Type} {m n : TextMap α} (default : α) (hkeys : m.keys = n.keys)
    (hvalues : ∀ key, (m.get? key).getD default = (n.get? key).getD default) : m = n := by
  have hentries (m : TextMap α) :
      m.entries = m.keys.map fun key => (key, (m.get? key).getD default) := by
    rw [keys, List.map_map]
    refine (List.map_id _).symm.trans (List.map_congr_left fun e he => ?_)
    simp [mem_entries_iff.1 he]
  refine ext ?_
  rw [hentries m, hentries n, hkeys]
  exact List.map_congr_left fun key _ => by rw [hvalues]

namespace Graph

/-! #### The order of neighbours -/

/-- Neighbours are compared by their similarity, the greatest first, and then by their names. -/
def compareNeighbours (x y : Neighbour) : Ordering :=
  (Binary64.compareWords y.2 x.2).then (compare x.1 y.1)

instance : Std.TransCmp compareNeighbours :=
  inferInstanceAs (Std.TransCmp (compareLex
    (fun x y : Neighbour => Binary64.compareWords y.2 x.2) (compareOn fun x : Neighbour => x.1)))

/-- One neighbour does not come after another one if it is more similar, or as similar with no
greater name. -/
lemma neighbourLe_iff {x y : Neighbour} :
    neighbourLe x y = true ↔ Binary64.compareWords y.2 x.2 = .lt ∨ x.2 = y.2 ∧ x.1 ≤ y.1 :=
  Sorting.isLE_then_compare_iff Binary64.compareWords

/-- The order tells all neighbours apart. -/
lemma separates_neighbours (ns : List Neighbour) : Sorting.Separates neighbourLe ns := by
  intro x _ y _ hxy hyx
  have heq : compareNeighbours x y = .eq :=
    Sorting.eq_of_isLE_of_isLE compareNeighbours hxy hyx
  rw [compareNeighbours, Ordering.then_eq_eq] at heq
  exact Prod.ext (Std.LawfulEqOrd.eq_of_compare heq.2) (Std.LawfulEqCmp.eq_of_compare heq.1).symm

/-- The neighbours of a name are in order. -/
lemma pairwise_neighbours_ofEdges (edges : List Edge) (x : String) :
    ((ofEdges edges).neighbours x).Pairwise fun y z => neighbourLe y z = true := by
  rw [neighbours_ofEdges]
  exact List.pairwise_mergeSort (Sorting.isLE_trans compareNeighbours)
    (Sorting.isLE_total compareNeighbours) _

/-! #### What a graph depends on -/

/-- A name is in a graph if an edge shows it something. -/
lemma isNode_iff {edges : List Edge} {x : String} :
    IsNode edges x ↔ ∃ n, n ∈ edges.filterMap (Edge.seenFrom x) := by
  simp only [IsNode, Linked, List.mem_filterMap, Edge.seenFrom_eq_some_iff]
  constructor
  · rintro ⟨y, e, he, hjoins⟩
    exact ⟨(y, e.similarity), e, he, hjoins, rfl⟩
  · rintro ⟨n, e, he, hjoins, -⟩
    exact ⟨n.1, e, he, hjoins⟩

/-- Edges that show the same to all names, in whatever order, make the same graph. -/
lemma ofEdges_eq_of_seenFrom {xs ys : List Edge}
    (h : ∀ name, (xs.filterMap (Edge.seenFrom name)).Perm (ys.filterMap (Edge.seenFrom name))) :
    ofEdges xs = ofEdges ys := by
  have hkeys : (ofEdges xs).adjacency.keys = (ofEdges ys).adjacency.keys := by
    refine (TextMap.keys_pairwise_lt _).eq_of_mem_iff (TextMap.keys_pairwise_lt _) fun name => ?_
    simp only [mem_keys_ofEdges, isNode_iff, (h name).mem_iff]
  have hneighbours (name : String) :
      (ofEdges xs).neighbours name = (ofEdges ys).neighbours name := by
    rw [neighbours_ofEdges, neighbours_ofEdges]
    exact Sorting.mergeSort_congr (Sorting.isLE_trans compareNeighbours)
      (Sorting.isLE_total compareNeighbours) (h name) (separates_neighbours _)
  exact congrArg Graph.mk (TextMap.eq_of_keys_eq [] hkeys hneighbours)

/-- The graph of edges does not depend on their order. -/
lemma ofEdges_eq_of_perm {xs ys : List Edge} (h : xs.Perm ys) : ofEdges xs = ofEdges ys :=
  ofEdges_eq_of_seenFrom fun _ => h.filterMap _

/-- The graph of pairs does not depend on their order. -/
lemma ofPairs_eq_of_perm {xs ys : List Pair} (h : xs.Perm ys) : ofPairs xs = ofPairs ys :=
  ofEdges_eq_of_perm (h.map Pair.edge)

/-- The graph of edges does not depend on which of its two names an edge has first. -/
lemma ofEdges_eq_of_flips {xs ys : List Edge}
    (h : List.Forall₂ (fun e f => f = e ∨ f = e.flip) xs ys) : ofEdges xs = ofEdges ys := by
  refine ofEdges_eq_of_seenFrom fun name => List.Perm.of_eq ?_
  induction h with
  | nil => rfl
  | @cons e f xs ys hef _ ih =>
    have hseen : f.seenFrom name = e.seenFrom name := by
      obtain rfl | rfl := hef
      · rfl
      · exact e.seenFrom_flip name
    rw [List.filterMap_cons, List.filterMap_cons, hseen, ih]

/-- As many neighbours of a name pass a test as edges that show it one that does. -/
lemma countP_neighbours_ofEdges (edges : List Edge) (x : String) (keep : Neighbour → Bool) :
    ((ofEdges edges).neighbours x).countP keep =
      edges.countP fun e => (e.seenFrom x).any keep := by
  rw [neighbours_ofEdges, (List.mergeSort_perm _ _).countP_eq, List.countP_filterMap]
  refine List.countP_congr fun e _ => ?_
  cases e.seenFrom x <;> simp

/-- A name has no neighbour twice if no two edges join the same names. -/
lemma nodup_neighbours_ofEdges {edges : List Edge} {x : String}
    (h : ∀ y, edges.countP (fun e => e.Joins x y) ≤ 1) :
    (((ofEdges edges).neighbours x).map (·.1)).Nodup := by
  refine List.nodup_iff_count_le_one.2 fun y => ?_
  rw [List.count, List.countP_map, countP_neighbours_ofEdges]
  refine le_trans (le_of_eq (List.countP_congr fun e _ => ?_)) (h y)
  simp [Option.any_eq_true, Edge.seenFrom_eq_some_iff]

/-- **Adjacency**: in the graph of any edges, a neighbour stands in the list of a name as often as
there are edges between the two with its similarity, and so as often as the name stands in the list
of the neighbour; edges from a name to itself do not count. The names of the graph are those of the
other edges, and it has a connection for each of these. All lists are sorted by the similarity, the
greatest in the total order first, and then by the names. Similarities are words of 64 bits, so that
this holds with each word that is no number in its own place. Edges in another order, and with their
names in another order, make the same graph. -/
theorem adjacency_ofEdges (edges : List Edge) :
    (∀ x y s,
      ((ofEdges edges).neighbours x).countP (fun n => n = (y, s)) =
        edges.countP (fun e => e.Joins x y ∧ e.similarity = s) ∧
      ((ofEdges edges).neighbours x).countP (fun n => n = (y, s)) =
        ((ofEdges edges).neighbours y).countP fun n => n = (x, s)) ∧
    (∀ x, x ∈ (ofEdges edges).adjacency.keys ↔
      ∃ e ∈ edges, e.a ≠ e.b ∧ (e.a = x ∨ e.b = x)) ∧
    (∀ x, ((ofEdges edges).neighbours x).Pairwise fun m n =>
      Binary64.compareWords n.2 m.2 = .lt ∨ m.2 = n.2 ∧ m.1 ≤ n.1) ∧
    (ofEdges edges).connections = edges.countP (fun e => e.a ≠ e.b) ∧
    ∀ turned others, List.Forall₂ (fun e f => f = e ∨ f = e.flip) edges turned →
      turned.Perm others → ofEdges others = ofEdges edges := by
  have hcount (x y : String) (s : Binary64.Word) :
      ((ofEdges edges).neighbours x).countP (fun n => n = (y, s)) =
        edges.countP fun e => e.Joins x y ∧ e.similarity = s := by
    rw [countP_neighbours_ofEdges]
    refine List.countP_congr fun e _ => ?_
    rw [decide_eq_true_iff]
    simp [Option.any_eq_true, Edge.seenFrom_eq_some_iff, eq_comm (a := s)]
  refine ⟨fun x y s => ⟨hcount x y s, ?_⟩, fun x => ?_, fun x => ?_, connections_ofEdges edges,
    ?_⟩
  · rw [hcount, hcount]
    refine List.countP_congr fun e _ => ?_
    simp only [e.joins_comm x]
  · rw [mem_keys_ofEdges]
    constructor
    · rintro ⟨y, e, he, hne, hends⟩
      exact ⟨e, he, hne, hends.imp And.left And.right⟩
    · rintro ⟨e, he, hne, ha | hb⟩
      · exact ⟨e.b, e, he, hne, .inl ⟨ha, rfl⟩⟩
      · exact ⟨e.a, e, he, hne, .inr ⟨rfl, hb⟩⟩
  · exact (pairwise_neighbours_ofEdges _ x).imp neighbourLe_iff.1
  · intro turned others hturned hperm
    rw [← ofEdges_eq_of_perm hperm, ofEdges_eq_of_flips hturned]

/-- A word that is no number, with a positive sign. -/
def positiveNaN : Binary64.Word := ⟨0x7FF8000000000000⟩

/-- A word that is no number, with a negative sign. -/
def negativeNaN : Binary64.Word := ⟨0xFFF8000000000000⟩

/-- What is no number stands at either end of the order, as its sign says. -/
example : Binary64.compareWords negativeNaN (.ofFloat 0.5) = .lt ∧
    Binary64.compareWords (.ofFloat 0.5) positiveNaN = .lt := by
  decide +kernel

/-- Edges of which one is there twice, two have similarities that are no number, and one joins a
name to itself. -/
def oddEdges : List Edge :=
  [("a", "b", negativeNaN), ("a", "c", .ofFloat 0.5), ("d", "a", positiveNaN),
    ("c", "c", .ofFloat 1.0), ("a", "c", .ofFloat 0.5)].map fun (x, y, s) => ⟨x, y, s⟩

/-- The edge that is there twice makes its names neighbours twice, the similarity that is no number
counts by its sign, and all edges turned round, from the last to the first, make the same graph. -/
theorem adjacency_oddEdges :
    ((ofEdges oddEdges).neighbours "c").countP (fun n => n = ("a", .ofFloat 0.5)) = 2 ∧
      ((ofEdges oddEdges).neighbours "a").countP (fun n => n = ("b", negativeNaN)) = 1 ∧
      ((ofEdges oddEdges).neighbours "a").countP (fun n => n = ("b", positiveNaN)) = 0 ∧
      ofEdges (oddEdges.map Edge.flip).reverse = ofEdges oddEdges := by
  obtain ⟨hcount, -, -, -, hsame⟩ := adjacency_ofEdges oddEdges
  have hflips : List.Forall₂ (fun e f => f = e ∨ f = e.flip) oddEdges (oddEdges.map Edge.flip) :=
    List.forall₂_map_right_iff.2 (List.forall₂_same.2 fun _ _ => .inr rfl)
  refine ⟨?_, ?_, ?_, hsame _ _ hflips (List.reverse_perm _).symm⟩
  · rw [(hcount "c" "a" _).1]
    decide +kernel
  · rw [(hcount "a" "b" _).1]
    decide +kernel
  · rw [(hcount "a" "b" _).1]
    decide +kernel

end Graph

end Lookalike
