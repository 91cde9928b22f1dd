import Lookalike.Proofs.Exploration
import Lookalike.Proofs.Ordered.Sorting

/-! ### Components

The components of a graph are the classes of names that are joined by paths of edges. The searches
from its names share these out: the components that were found at a moment hold the names that were
met, each once, and every one of them is a whole class. The final sorting moves names and classes,
but loses and merges none. -/

namespace Lookalike.Graph

variable {edges : List Edge}

/-! #### The order of components -/

/-- The order of lists of texts is the lexicographic one. -/
lemma textsLe_iff {xs ys : List String} : textsLe xs ys = true ↔ ¬ ys < xs := by
  induction xs generalizing ys with
  | nil => exact iff_of_true rfl (List.not_lt_nil ys)
  | cons x xs ih =>
    cases ys with
    | nil => exact iff_of_false Bool.false_ne_true (not_not.2 (List.nil_lt_cons x xs))
    | cons y ys =>
      rw [textsLe, Bool.or_eq_true, Bool.and_eq_true, decide_eq_true_eq, decide_eq_true_eq, ih,
        List.cons_lt_cons_iff]
      constructor
      · rintro (hlt | ⟨rfl, hle⟩) (hgt | ⟨heq, hlt'⟩)
        · exact String.lt_asymm hlt hgt
        · exact String.ne_of_lt hlt heq.symm
        · exact String.lt_irrefl x hgt
        · exact hle hlt'
      · intro hnot
        obtain ⟨hge, hrest⟩ := not_or.1 hnot
        by_cases heq : x = y
        · exact .inr ⟨heq, fun hlt => hrest ⟨heq.symm, hlt⟩⟩
        · exact .inl (text_lt_of_not_lt hge (Ne.symm heq))

/-- The larger component stands first, and of two of one size the one with the lesser names. -/
lemma componentLe_iff {c d : List String} :
    componentLe c d = true ↔ d.length < c.length ∨ c.length = d.length ∧ ¬ d < c := by
  rw [componentLe, Bool.or_eq_true, Bool.and_eq_true, decide_eq_true_eq, decide_eq_true_eq,
    textsLe_iff]

/-- The order of components is transitive. -/
lemma componentLe_trans (b c d : List String) (hbc : componentLe b c = true)
    (hcd : componentLe c d = true) : componentLe b d = true := by
  rw [componentLe_iff] at hbc hcd ⊢
  rcases hbc with hbc | ⟨hbc, hle⟩ <;> rcases hcd with hcd | ⟨hcd, hle'⟩
  · exact .inl (hcd.trans hbc)
  · exact .inl (hcd ▸ hbc)
  · exact .inl (hbc ▸ hcd)
  · exact .inr ⟨hbc.trans hcd,
      List.not_lt.2 (List.le_trans (List.not_lt.1 hle) (List.not_lt.1 hle'))⟩

/-- Of two components one does not come after the other. -/
lemma componentLe_total (c d : List String) : (componentLe c d || componentLe d c) = true := by
  rw [Bool.or_eq_true, componentLe_iff, componentLe_iff]
  rcases Nat.lt_trichotomy c.length d.length with h | h | h
  · exact .inr (.inl h)
  · rcases List.le_total c d with hle | hle
    · exact .inl (.inr ⟨h, List.not_lt.2 hle⟩)
    · exact .inr (.inr ⟨h.symm, List.not_lt.2 hle⟩)
  · exact .inl (.inl h)

/-- Putting the names of a class in order neither loses nor adds one. -/
lemma ascendingNames_perm (c : List String) : (ascendingNames c).Perm c :=
  List.mergeSort_perm c _

/-- Not coming after is transitive for names. -/
lemma decide_le_trans (x y z : String) (hxy : decide (x ≤ y) = true) (hyz : decide (y ≤ z) = true) :
    decide (x ≤ z) = true :=
  decide_eq_true (String.le_trans (of_decide_eq_true hxy) (of_decide_eq_true hyz))

/-- Of two names one does not come after the other. -/
lemma decide_le_total (x y : String) : (decide (x ≤ y) || decide (y ≤ x)) = true := by
  rw [Bool.or_eq_true, decide_eq_true_eq, decide_eq_true_eq]
  exact String.le_total x y

/-- The names of a class in order ascend strictly. -/
lemma ascendingNames_pairwise {c : List String} (hc : c.Nodup) :
    (ascendingNames c).Pairwise (· < ·) := by
  have hsorted := List.pairwise_mergeSort decide_le_trans decide_le_total c
  have hnodup : (ascendingNames c).Nodup := (ascendingNames_perm c).nodup_iff.2 hc
  refine hsorted.imp₂ (fun x y hle hne => ?_) hnodup
  exact String.not_le.1 fun hge => hne (String.le_antisymm (of_decide_eq_true hle) hge)

/-! #### The components that were found -/

/-- The names that are connected with one name of the graph. -/
def IsClass (edges : List Edge) (c : List String) : Prop :=
  ∃ x, IsNode edges x ∧ ∀ y, y ∈ c ↔ Connected edges x y

/-- The searches at a moment between two of them: the components that were found are classes in
ascending order, and hold the names that were met, each once. -/
structure HasSwept (edges : List Edge) (s : Sweep) : Prop where
  isClass : ∀ c ∈ s.found, IsClass edges c
  ascending : ∀ c ∈ s.found, c.Pairwise (· < ·)
  perm : s.found.flatten.Perm s.visited.items

variable {s : Sweep} {start : String}

/-- At first nothing is met or found. -/
lemma hasSwept_empty : HasSwept edges ⟨.empty, []⟩ where
  isClass _ hc := absurd hc List.not_mem_nil
  ascending _ hc := absurd hc List.not_mem_nil
  perm := List.Perm.refl []

/-- What was met is in a component that was found. -/
lemma HasSwept.mem_visited_iff (h : HasSwept edges s) {x : String} :
    x ∈ s.visited ↔ ∃ c ∈ s.found, x ∈ c := by
  have hmem : x ∈ s.visited ↔ x ∈ s.found.flatten := h.perm.mem_iff.symm
  rw [hmem, List.mem_flatten]

/-- No link leads out of what was met. -/
lemma HasSwept.mem_visited_of_linked (h : HasSwept edges s) {x y : String} (hx : x ∈ s.visited)
    (hlink : Linked edges x y) : y ∈ s.visited := by
  obtain ⟨c, hc, hxc⟩ := h.mem_visited_iff.1 hx
  obtain ⟨z, -, hclass⟩ := h.isClass c hc
  exact h.mem_visited_iff.2 ⟨c, hc, (hclass y).2 (((hclass x).1 hxc).tail hlink)⟩

/-- A search from a name of the graph finds the class of the name, unless the name was met before,
and after it the name was met. -/
lemma HasSwept.visit (h : HasSwept edges s) (hstart : IsNode edges start) :
    HasSwept edges ((ofEdges edges).visit 0 s start) ∧
      ∀ x, x ∈ s.visited ∨ x = start → x ∈ ((ofEdges edges).visit 0 s start).visited := by
  rw [Graph.visit]
  split
  · rename_i hmet
    refine ⟨h, fun x hx => hx.elim id ?_⟩
    rintro rfl
    exact TextSet.contains_iff_mem.1 hmet
  rename_i hnew
  obtain ⟨hsearches, hstack⟩ :=
    (searches_start edges (mt TextSet.contains_iff_mem.2 hnew)).explore
  generalize (ofEdges edges).explore _ = e at hsearches hstack
  have hclass := hsearches.mem_component_iff hstack fun _ hx _ => h.mem_visited_of_linked hx
  have hsorted := ascendingNames_perm e.component
  simp only [Nat.zero_le, if_true]
  refine ⟨⟨List.forall_mem_append.2 ⟨h.isClass, List.forall_mem_singleton.2 ?_⟩,
    List.forall_mem_append.2 ⟨h.ascending, List.forall_mem_singleton.2 ?_⟩, ?_⟩, fun x hx => ?_⟩
  · exact ⟨start, hstart, fun y => hsorted.mem_iff.trans (hclass y)⟩
  · exact ascendingNames_pairwise hsearches.nodup
  · -- The names of the new component were not met before, and all others were.
    have hnodup : (s.visited.items ++ e.component).Nodup := by
      refine List.nodup_append.2 ⟨s.visited.nodup_items, hsearches.nodup, ?_⟩
      rintro x hx _ hx' rfl
      exact hsearches.not_mem_before x hx' hx
    rw [List.flatten_append, List.flatten_singleton]
    refine (h.perm.append hsorted).trans ?_
    rw [List.perm_ext_iff_of_nodup hnodup e.visited.nodup_items]
    exact fun x => List.mem_append.trans (hsearches.mem_visited_iff x).symm
  · refine (hsearches.mem_visited_iff x).2 (hx.imp_right ?_)
    rintro rfl
    exact hsearches.start_mem

/-- After the searches from some names of the graph, these names were met. -/
lemma HasSwept.foldl_visit (h : HasSwept edges s) {starts : List String}
    (hstarts : ∀ x ∈ starts, IsNode edges x) :
    HasSwept edges (starts.foldl ((ofEdges edges).visit 0) s) ∧
      ∀ x, x ∈ s.visited ∨ x ∈ starts →
        x ∈ (starts.foldl ((ofEdges edges).visit 0) s).visited := by
  induction starts generalizing s with
  | nil => exact ⟨h, fun x hx => hx.resolve_right List.not_mem_nil⟩
  | cons start rest ih =>
    obtain ⟨hstart, hrest⟩ := List.forall_mem_cons.1 hstarts
    obtain ⟨hvisit, hmet⟩ := h.visit hstart
    obtain ⟨hall, hmet'⟩ := ih hvisit hrest
    refine ⟨hall, fun x hx => hmet' x ?_⟩
    rw [List.mem_cons, ← or_assoc] at hx
    exact hx.imp_left (hmet x)

/-- The searches from all names of a graph meet all names. -/
lemma hasSwept_sweep (edges : List Edge) :
    HasSwept edges ((ofEdges edges).sweep 0) ∧
      ∀ x, x ∈ ((ofEdges edges).sweep 0).visited ↔ IsNode edges x := by
  obtain ⟨hall, hmet⟩ := hasSwept_empty.foldl_visit
    fun x (hx : x ∈ (ofEdges edges).adjacency.keys) => mem_keys_ofEdges.1 hx
  refine ⟨hall, fun x => ⟨fun hx => ?_, fun hx => hmet x (.inr (mem_keys_ofEdges.2 hx))⟩⟩
  -- Whatever is in the class of a name of the graph is a name of the graph.
  obtain ⟨c, hc, hxc⟩ := hall.mem_visited_iff.1 hx
  obtain ⟨y, hy, hclass⟩ := hall.isClass c hc
  exact ((hclass x).1 hxc).isNode hy

/-- A search with a least size keeps what the search for all components finds, if it is large
enough. -/
lemma visit_filter (g : Graph) (minSize : Nat) (s : Sweep) (start : String) :
    g.visit minSize ⟨s.visited, s.found.filter (minSize ≤ ·.length)⟩ start =
      ⟨(g.visit 0 s start).visited,
        (g.visit 0 s start).found.filter (minSize ≤ ·.length)⟩ := by
  rw [Graph.visit, Graph.visit]
  dsimp only
  split
  · rfl
  · have hlength (names : List String) : (ascendingNames names).length = names.length :=
      List.length_mergeSort _
    rw [if_pos (Nat.zero_le _), List.filter_append]
    split <;> rename_i hsize <;> simp [hlength, hsize]

/-- The searches with a least size find the components that are large enough. -/
lemma found_sweep (g : Graph) (minSize : Nat) :
    (g.sweep minSize).found = (g.sweep 0).found.filter (minSize ≤ ·.length) := by
  have hall : ∀ (starts : List String) (s : Sweep),
      starts.foldl (g.visit minSize) ⟨s.visited, s.found.filter (minSize ≤ ·.length)⟩ =
        ⟨(starts.foldl (g.visit 0) s).visited,
          (starts.foldl (g.visit 0) s).found.filter (minSize ≤ ·.length)⟩ := by
    intro starts
    induction starts with
    | nil => exact fun _ => rfl
    | cons start rest ih =>
      intro s
      rw [List.foldl_cons, List.foldl_cons, visit_filter, ih]
  exact congrArg Sweep.found (hall g.adjacency.keys ⟨.empty, []⟩)

/-- The class of each name of a graph is found. -/
lemma exists_mem_found {x : String} (hx : IsNode edges x) :
    ∃ c ∈ ((ofEdges edges).sweep 0).found,
      c.Pairwise (· < ·) ∧ ∀ y, y ∈ c ↔ Connected edges x y := by
  obtain ⟨hall, hmet⟩ := hasSwept_sweep edges
  obtain ⟨c, hc, hxc⟩ := hall.mem_visited_iff.1 ((hmet x).2 hx)
  obtain ⟨z, -, hclass⟩ := hall.isClass c hc
  have hzx := (hclass x).1 hxc
  exact ⟨c, hc, hall.ascending c hc, fun y => (hclass y).trans ⟨hzx.symm.trans, hzx.trans⟩⟩

/-- The components that were found are the classes, with their names in order. -/
lemma mem_found_iff {c : List String} :
    c ∈ ((ofEdges edges).sweep 0).found ↔ c.Pairwise (· < ·) ∧ IsClass edges c := by
  have hall := (hasSwept_sweep edges).1
  refine ⟨fun hc => ⟨hall.ascending c hc, hall.isClass c hc⟩, ?_⟩
  rintro ⟨hascending, x, hx, hclass⟩
  obtain ⟨d, hd, hascending', hclass'⟩ := exists_mem_found hx
  have hsame : ∀ y, y ∈ d ↔ y ∈ c := fun y => (hclass' y).trans (hclass y).symm
  rwa [← hascending'.eq_of_mem_iff hascending hsame]

/-- No name is in two components that were found, or twice in one. -/
lemma nodup_flatten_found (edges : List Edge) :
    ((ofEdges edges).sweep 0).found.flatten.Nodup :=
  (hasSwept_sweep edges).1.perm.nodup_iff.2 (TextSet.nodup_items _)

/-! #### Components -/

/-- The components are those that were found and are large enough. -/
lemma components_perm (g : Graph) (minSize : Nat) :
    (g.components minSize).Perm ((g.sweep 0).found.filter (minSize ≤ ·.length)) := by
  rw [components, found_sweep]
  exact List.mergeSort_perm _ _

/-- The components are the classes of at least a given size, in order. -/
lemma mem_components_iff {minSize : Nat} {c : List String} :
    c ∈ (ofEdges edges).components minSize ↔
      c.Pairwise (· < ·) ∧ minSize ≤ c.length ∧ IsClass edges c := by
  rw [(components_perm _ _).mem_iff, List.mem_filter, mem_found_iff, decide_eq_true_iff,
    and_assoc, and_comm (a := IsClass edges c)]

/-- No name is in two components. -/
lemma components_pairwise_disjoint (edges : List Edge) (minSize : Nat) :
    ((ofEdges edges).components minSize).Pairwise List.Disjoint := by
  have hdisjoint := (List.nodup_flatten.1 (nodup_flatten_found edges)).2
  rw [(components_perm _ _).pairwise_iff List.disjoint_symm]
  exact hdisjoint.filter _

/-- A component stands before every other one that is smaller, or as large with greater names. -/
lemma components_pairwise_order (edges : List Edge) (minSize : Nat) :
    ((ofEdges edges).components minSize).Pairwise fun c d =>
      d.length < c.length ∨ c.length = d.length ∧ c < d := by
  have hsorted := List.pairwise_mergeSort componentLe_trans componentLe_total
    ((ofEdges edges).sweep minSize).found
  refine (hsorted.and (components_pairwise_disjoint edges minSize)).imp_of_mem ?_
  rintro c d hc - ⟨hle, hdisjoint⟩
  refine (componentLe_iff.1 hle).imp_right (And.imp_right fun hle => ?_)
  -- Two components with the same names would share one.
  obtain ⟨-, -, x, -, hmem⟩ := mem_components_iff.1 hc
  have hx : x ∈ c := (hmem x).2 .refl
  refine List.not_le.1 fun hge => ?_
  rw [List.le_antisymm (List.not_lt.1 hle) hge] at hdisjoint hx
  exact hdisjoint hx hx

/-- All components have a name, so that together they are the names of the graph. -/
lemma flatten_components_perm (edges : List Edge) {minSize : Nat} (hsize : minSize ≤ 1) :
    ((ofEdges edges).components minSize).flatten.Perm (ofEdges edges).adjacency.keys := by
  obtain ⟨hall, hmet⟩ := hasSwept_sweep edges
  have hlarge : ((ofEdges edges).sweep 0).found.filter (minSize ≤ ·.length) =
      ((ofEdges edges).sweep 0).found := by
    refine List.filter_eq_self.2 fun c hc => decide_eq_true (hsize.trans ?_)
    obtain ⟨x, -, hclass⟩ := hall.isClass c hc
    exact List.length_pos_of_mem ((hclass x).2 .refl)
  have hperm := components_perm (ofEdges edges) minSize
  rw [hlarge] at hperm
  refine hperm.flatten.trans (hall.perm.trans ?_)
  rw [List.perm_ext_iff_of_nodup (TextSet.nodup_items _)
    ((TextMap.keys_pairwise_lt _).imp String.ne_of_lt)]
  exact fun x => (hmet x).trans mem_keys_ofEdges.symm

/-- **Components**: the components of the graph of any edges are exactly the classes, of at least
the given size, of names that are joined by paths of edges between different names. Each class is
there once, with its names in ascending order; no name is in two classes; larger classes come first,
and those of one size in lexicographic order. If single names are large enough, the classes share
out the names of the graph, which are those that an edge joins to another name. -/
theorem components_ofEdges (edges : List Edge) (minSize : Nat) :
    (∀ c, c ∈ (ofEdges edges).components minSize ↔
      c.Pairwise (· < ·) ∧ minSize ≤ c.length ∧ IsClass edges c) ∧
    ((ofEdges edges).components minSize).Pairwise List.Disjoint ∧
    ((ofEdges edges).components minSize).Pairwise (fun c d =>
      d.length < c.length ∨ c.length = d.length ∧ c < d) ∧
    (minSize ≤ 1 →
      ((ofEdges edges).components minSize).flatten.Perm (ofEdges edges).adjacency.keys) ∧
    ∀ x, x ∈ (ofEdges edges).adjacency.keys ↔ IsNode edges x :=
  ⟨fun _ => mem_components_iff, components_pairwise_disjoint _ _, components_pairwise_order _ _,
    flatten_components_perm _, fun _ => mem_keys_ofEdges⟩

/-- Edges of which one is there twice, and one joins a name to itself. -/
def someEdges : List Edge :=
  [("e", "f"), ("a", "b"), ("d", "d"), ("c", "b"), ("b", "a")].map fun (x, y) =>
    ⟨x, y, .ofFloat 0.5⟩

/-- The components of some edges share out the names that are joined to another one. -/
theorem components_someEdges :
    ((ofEdges someEdges).components 1).flatten.Perm ["a", "b", "c", "e", "f"] :=
  (components_ofEdges someEdges 1).2.2.2.1 (by decide)

end Lookalike.Graph
