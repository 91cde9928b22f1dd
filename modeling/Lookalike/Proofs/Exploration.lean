import Mathlib.Logic.Relation
import Lookalike.Proofs.Graph

/-! ### The search for components

A component is searched for from a name: what was met is gone on from, the last name first, until
nothing is left. Three things hold at each moment: what the search has met is connected with the
name it started from, it was not met by a search before, and the neighbours of all names that were
gone on from are met. So at the end the search has met all names that are connected with the first
one, and no others.

The searches follow each other over the names in order, with the names that were met carried along.
What was met is at each moment shared out among the components that were found, so that no name is
met twice and, in the end, none is left out. -/

namespace Lookalike.Graph

/-! #### Paths -/

/-- Some edge joins two names. -/
def Linked (edges : List Edge) (x y : String) : Prop :=
  ∃ e ∈ edges, e.Joins x y

/-- A path of edges leads from one name to another. -/
def Connected (edges : List Edge) : String → String → Prop :=
  Relation.ReflTransGen (Linked edges)

/-- A name is an end of an edge that joins it to another name. -/
def IsNode (edges : List Edge) (x : String) : Prop :=
  ∃ y, Linked edges x y

variable {edges : List Edge}

/-- A link leads in both directions. -/
lemma Linked.symm {x y : String} (h : Linked edges x y) : Linked edges y x := by
  obtain ⟨e, he, hjoins⟩ := h
  exact ⟨e, he, (e.joins_comm x y).1 hjoins⟩

/-- A path can be walked back. -/
lemma Connected.symm {x y : String} (h : Connected edges x y) : Connected edges y x := by
  induction h with
  | refl => exact .refl
  | tail _ hlink ih => exact .head hlink.symm ih

/-- A name comes in with its first neighbour. -/
lemma isSome_get?_addNeighbour (m : TextMap (List Neighbour)) (name x : String) (n : Neighbour) :
    ((addNeighbour m name n).get? x).isSome ↔ name = x ∨ (m.get? x).isSome := by
  rw [addNeighbour, TextMap.get?_insert]
  split <;> simp [*]

/-- The ends of an edge come in with it. -/
lemma isSome_get?_addEdge {m : TextMap (List Neighbour)} {e : Edge} {x : String} :
    ((addEdge m e).get? x).isSome ↔ (m.get? x).isSome ∨ ∃ y, e.Joins x y := by
  unfold Edge.Joins
  rw [addEdge]
  by_cases he : e.a = e.b
  · simp [he]
  · rw [if_neg he, isSome_get?_addNeighbour, isSome_get?_addNeighbour]
    constructor
    · rintro (hb | ha | hm)
      · exact .inr ⟨e.a, he, .inr ⟨rfl, hb⟩⟩
      · exact .inr ⟨e.b, he, .inl ⟨ha, rfl⟩⟩
      · exact .inl hm
    · rintro (hm | ⟨y, -, ⟨ha, -⟩ | ⟨-, hb⟩⟩)
      · exact .inr (.inr hm)
      · exact .inr (.inl ha)
      · exact .inl hb

/-- The ends of some edges come in with these. -/
lemma isSome_get?_foldl_addEdge {m : TextMap (List Neighbour)} {x : String} :
    ((edges.foldl addEdge m).get? x).isSome ↔ (m.get? x).isSome ∨ IsNode edges x := by
  induction edges generalizing m with
  | nil => simp [IsNode, Linked]
  | cons e rest ih =>
    have hsplit : IsNode (e :: rest) x ↔ (∃ y, e.Joins x y) ∨ IsNode rest x := by
      simp only [IsNode, Linked, List.exists_mem_cons_iff, exists_or]
    rw [List.foldl_cons, ih, isSome_get?_addEdge, or_assoc, hsplit]

/-- A path from a name of the graph leads to a name of the graph. -/
lemma Connected.isNode {x y : String} (h : Connected edges x y) (hx : IsNode edges x) :
    IsNode edges y := by
  obtain rfl | ⟨z, -, hlink⟩ := Relation.ReflTransGen.cases_tail h
  · exact hx
  · exact ⟨z, hlink.symm⟩

/-- The names of a graph are the ends of its edges. -/
lemma mem_keys_ofEdges {x : String} : x ∈ (ofEdges edges).adjacency.keys ↔ IsNode edges x := by
  rw [TextMap.mem_keys_iff, ofEdges, TextMap.get?_mapValues, Option.isSome_map,
    isSome_get?_foldl_addEdge]
  exact or_iff_right (by simp [TextMap.get?, TextMap.empty])

/-- The neighbours of a name are those to which it is linked. -/
lemma mem_map_fst_neighbours_ofEdges {x y : String} :
    y ∈ ((ofEdges edges).neighbours x).map (·.1) ↔ Linked edges x y := by
  simp only [List.mem_map, mem_neighbours_ofEdges, Linked]
  constructor
  · rintro ⟨n, ⟨e, he, hjoins, -⟩, rfl⟩
    exact ⟨e, he, hjoins⟩
  · rintro ⟨e, he, hjoins⟩
    exact ⟨(y, e.similarity), ⟨e, he, hjoins, rfl⟩, rfl⟩

/-! #### One search -/

namespace Exploration

/-- What a search meets that it has not met before comes onto the stack and into the component, each
name once; all of it has been met afterwards. -/
lemma exists_fresh_foldl_meet (names : List String) (e : Exploration) :
    ∃ fresh : List String, fresh.Nodup ∧ (∀ x, x ∈ fresh ↔ x ∈ names ∧ x ∉ e.visited) ∧
      (names.foldl meet e).stack = fresh.reverse ++ e.stack ∧
      (names.foldl meet e).component = e.component ++ fresh ∧
      ∀ x, x ∈ (names.foldl meet e).visited ↔ x ∈ e.visited ∨ x ∈ names := by
  induction names generalizing e with
  | nil => exact ⟨[], .nil, by simp, by simp, by simp, by simp⟩
  | cons name rest ih =>
    rw [List.foldl_cons, meet]
    by_cases hmet : e.visited.contains name = true
    · -- A name that was met before changes nothing.
      rw [if_pos hmet]
      have hname := TextSet.contains_iff_mem.1 hmet
      obtain ⟨fresh, hnodup, hmem, hstack, hcomponent, hvisited⟩ := ih e
      refine ⟨fresh, hnodup, fun x => ?_, hstack, hcomponent, fun x => ?_⟩
      · rw [hmem, List.mem_cons]
        refine and_congr_left fun hx => (or_iff_right ?_).symm
        rintro rfl
        exact hx hname
      · rw [hvisited, List.mem_cons, or_left_comm]
        refine (or_iff_right_of_imp ?_).symm
        rintro rfl
        exact .inl hname
    · rw [if_neg hmet]
      have hname : name ∉ e.visited := mt TextSet.contains_iff_mem.2 hmet
      obtain ⟨fresh, hnodup, hmem, hstack, hcomponent, hvisited⟩ :=
        ih ⟨e.visited.insert name, name :: e.stack, e.component ++ [name]⟩
      simp only [TextSet.mem_insert_iff, not_or] at hmem hvisited
      refine ⟨name :: fresh, List.nodup_cons.2 ⟨fun h => ((hmem name).1 h).2.1 rfl, hnodup⟩,
        fun x => ?_, ?_, ?_, fun x => ?_⟩
      · rw [List.mem_cons, hmem, List.mem_cons]
        by_cases hx : x = name
        · simp [hx, hname]
        · simp [hx]
      · rw [hstack, List.reverse_cons, List.append_assoc, List.singleton_append]
      · rw [hcomponent, List.append_assoc, List.singleton_append]
      · rw [hvisited, List.mem_cons]
        tauto

end Exploration

/-- A search from a name at one of its moments, after other searches have met the names `before`. -/
structure Searches (edges : List Edge) (before : TextSet) (start : String) (e : Exploration) :
    Prop where
  /-- The component holds what this search has met. -/
  mem_visited_iff : ∀ x, x ∈ e.visited ↔ x ∈ before ∨ x ∈ e.component
  not_mem_before : ∀ x ∈ e.component, x ∉ before
  nodup : e.component.Nodup
  start_mem : start ∈ e.component
  connected : ∀ x ∈ e.component, Connected edges start x
  stack_subset : ∀ x ∈ e.stack, x ∈ e.component
  /-- The neighbours of names that were gone on from are met. -/
  closed : ∀ x ∈ e.component, x ∉ e.stack → ∀ y, Linked edges x y → y ∈ e.visited

section Search

variable {before : TextSet} {start name : String} {rest : List String} {e : Exploration}

/-- A search begins with the name it starts from. -/
lemma searches_start (edges : List Edge) (hstart : start ∉ before) :
    Searches edges before start ⟨before.insert start, [start], [start]⟩ where
  mem_visited_iff x := by
    rw [TextSet.mem_insert_iff, List.mem_singleton, or_comm]
  not_mem_before x hx := by
    rwa [List.mem_singleton.1 hx]
  nodup := List.nodup_singleton start
  start_mem := List.mem_singleton_self start
  connected x hx := by
    rw [List.mem_singleton.1 hx]
    exact .refl
  stack_subset _ hx := hx
  closed _ hx hnot := absurd hx hnot

/-- A search goes on from a name. -/
lemma Searches.goOn (h : Searches edges before start e) (hstack : e.stack = name :: rest) :
    Searches edges before start ((ofEdges edges).goOn e name rest) := by
  obtain ⟨fresh, hnodup, hfresh, hstack', hcomponent, hvisited⟩ :=
    Exploration.exists_fresh_foldl_meet (((ofEdges edges).neighbours name).map (·.1))
      { e with stack := rest }
  simp only [mem_map_fst_neighbours_ofEdges] at hfresh hvisited
  have hname : name ∈ e.component := h.stack_subset name (hstack ▸ List.mem_cons_self)
  -- A fresh name is none that was met, in this search or before it.
  have hnew {x : String} (hx : x ∈ fresh) : x ∉ before ∧ x ∉ e.component := by
    rw [← not_or, ← h.mem_visited_iff]
    exact ((hfresh x).1 hx).2
  unfold Graph.goOn
  generalize List.foldl Exploration.meet _ _ = after at hstack' hcomponent hvisited ⊢
  have hmem (x : String) : x ∈ after.component ↔ x ∈ e.component ∨ x ∈ fresh := by
    rw [hcomponent, List.mem_append]
  constructor
  case mem_visited_iff =>
    intro x
    rw [hvisited, hmem, hfresh, ← or_assoc, ← h.mem_visited_iff]
    tauto
  case not_mem_before =>
    intro x hx
    rcases (hmem x).1 hx with hx | hx
    · exact h.not_mem_before x hx
    · exact (hnew hx).1
  case nodup =>
    rw [hcomponent]
    refine List.nodup_append.2 ⟨h.nodup, hnodup, ?_⟩
    rintro x hx _ hx' rfl
    exact (hnew hx').2 hx
  case start_mem => exact (hmem start).2 (.inl h.start_mem)
  case connected =>
    intro x hx
    rcases (hmem x).1 hx with hx | hx
    · exact h.connected x hx
    · exact (h.connected name hname).tail ((hfresh x).1 hx).1
  case stack_subset =>
    intro x hx
    rw [hstack'] at hx
    rcases List.mem_append.1 hx with hx | hx
    · exact (hmem x).2 (.inr (List.mem_reverse.1 hx))
    · exact (hmem x).2 (.inl (h.stack_subset x (hstack ▸ List.mem_cons_of_mem _ hx)))
  case closed =>
    intro x hx hnot y hlink
    rw [hstack', List.mem_append, List.mem_reverse, not_or] at hnot
    rw [hvisited]
    have hx : x ∈ e.component := ((hmem x).1 hx).resolve_right hnot.1
    -- The name that was gone on from has its neighbours met now, and the others before.
    by_cases heq : x = name
    · exact .inr (heq ▸ hlink)
    · refine .inl (h.closed x hx ?_ y hlink)
      rw [hstack]
      exact fun hmem => (List.mem_cons.1 hmem).elim heq hnot.2

/-- A search comes to its end, with nothing left to go on from. -/
lemma Searches.explore (h : Searches edges before start e) :
    Searches edges before start ((ofEdges edges).explore e) ∧
      ((ofEdges edges).explore e).stack = [] := by
  -- The induction is on the moments of the search, each of which leaves less to do.
  induction e using explore.induct (ofEdges edges) with
  | case1 e hstack =>
    rw [Graph.explore]
    split
    · exact ⟨h, hstack⟩
    · simp_all
  | case2 e name rest hstack _ ih =>
    have hgoes := ih (h.goOn hstack)
    rw [Graph.explore]
    split
    · simp_all
    · rename_i name' rest' hstack'
      obtain ⟨rfl, rfl⟩ := List.cons.inj (hstack.symm.trans hstack')
      exact hgoes

/-- At its end a search has met all names that are connected with the first one, if no link leads
out of what was met before. -/
lemma Searches.mem_component_iff (h : Searches edges before start e) (hstack : e.stack = [])
    (hbefore : ∀ x ∈ before, ∀ y, Linked edges x y → y ∈ before) (x : String) :
    x ∈ e.component ↔ Connected edges start x := by
  refine ⟨h.connected x, fun hpath => ?_⟩
  induction hpath with
  | refl => exact h.start_mem
  | @tail y z _ hlink ih =>
    have hmet := h.closed y ih (by simp [hstack]) z hlink
    refine ((h.mem_visited_iff z).1 hmet).resolve_left fun hz => ?_
    exact h.not_mem_before y ih (hbefore z hz y hlink.symm)

end Search

end Lookalike.Graph
