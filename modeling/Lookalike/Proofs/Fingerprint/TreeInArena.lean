import Lookalike.Proofs.Fingerprint.Arena
import Lookalike.Proofs.Fingerprint.NearPairs

/-! ### Trees laid out in arenas

The nodes of a metric tree have their places in an arena. To put an item into the tree is to put it
into the arena: the walk down the cells is the way that the item takes through the nodes. -/

namespace Lookalike

variable {α : Type}

/-! #### Nodes and their cells -/

namespace MetricNode

/-- The branches of a node. -/
def branches : MetricNode α → List (Nat × MetricNode α)
  | .node _ branches => branches

/-- The cell of a node: its item, and the places of the nodes at the ends of its branches. -/
def cell (n : MetricNode α) : Arena.Cell α :=
  ⟨n.entry.fingerprint, n.entry.item, n.branches.map fun b => (b.1, b.2.entry.place)⟩

mutual

/-- A node with all nodes below it. -/
def nodes : MetricNode α → List (MetricNode α)
  | .node x branches => .node x branches :: nodesAmong branches

/-- The nodes on some branches. -/
def nodesAmong : List (Nat × MetricNode α) → List (MetricNode α)
  | [] => []
  | (_, n) :: rest => n.nodes ++ nodesAmong rest

end

/-- The places of a node and of those below it. -/
def places (n : MetricNode α) : List Nat :=
  n.nodes.map fun m => m.entry.place

/-- The nodes on some branches are those of each branch. -/
lemma nodesAmong_eq_flatMap (branches : List (Nat × MetricNode α)) :
    nodesAmong branches = branches.flatMap fun b => b.2.nodes := by
  induction branches with
  | nil => rfl
  | cons b rest ih => rw [nodesAmong, ih, List.flatMap_cons]

/-- The nodes of a node are itself and those on its branches. -/
lemma mem_nodes_node {x : Placed α} {branches : List (Nat × MetricNode α)} {m : MetricNode α} :
    m ∈ (node x branches).nodes ↔ m = node x branches ∨ ∃ b ∈ branches, m ∈ b.2.nodes := by
  rw [nodes, List.mem_cons, nodesAmong_eq_flatMap, List.mem_flatMap]

/-- A node is among its nodes. -/
lemma mem_nodes_self (n : MetricNode α) : n ∈ n.nodes := by
  cases n
  exact mem_nodes_node.2 (.inl rfl)

/-- The places of a node are its own and those on its branches. -/
lemma places_node (x : Placed α) (branches : List (Nat × MetricNode α)) :
    (node x branches).places = x.place :: branches.flatMap fun b => b.2.places := by
  rw [places, nodes, List.map_cons, nodesAmong_eq_flatMap, List.map_flatMap]
  rfl

/-- An insertion does not change the item on top. -/
lemma entry_insert (n : MetricNode α) (x : Placed α) : (n.insert x).entry = n.entry := by
  cases n
  rfl

mutual

/-- A walk meets the items of all nodes. -/
theorem map_entry_nodes_perm : (n : MetricNode α) → (n.nodes.map entry).Perm n.walk
  | .node x branches => by
    rw [nodes, walk, List.map_cons]
    exact (map_entry_nodesAmong_perm branches).cons x

/-- A walk over branches meets the items of all nodes on them. -/
theorem map_entry_nodesAmong_perm : (branches : List (Nat × MetricNode α)) →
    ((nodesAmong branches).map entry).Perm (walkAmong branches)
  | [] => .nil
  | (_, n) :: rest => by
    rw [nodesAmong, walkAmong, List.map_append]
    exact ((map_entry_nodes_perm n).append (map_entry_nodesAmong_perm rest)).trans
      List.perm_append_comm

end

/-! #### Insertion among spaced branches -/

/-- The distances of spaced branches ascend. -/
lemma AreSpaced.ascending {top : Fingerprint} {branches : List (Nat × MetricNode α)}
    (h : AreSpaced top branches) : AscendingBranches branches := by
  induction branches with
  | nil => exact .nil
  | cons b rest ih =>
    obtain ⟨-, -, hlt, hrest⟩ := h
    exact List.pairwise_cons.2 ⟨hlt, ih hrest⟩

/-- The nodes at the ends of spaced branches are spaced. -/
lemma AreSpaced.isSpaced_of_mem {top : Fingerprint} {branches : List (Nat × MetricNode α)}
    (h : AreSpaced top branches) {b : Nat × MetricNode α} (hb : b ∈ branches) : b.2.IsSpaced := by
  induction branches with
  | nil => cases hb
  | cons c rest ih =>
    obtain ⟨-, hn, -, hrest⟩ := h
    rcases List.mem_cons.1 hb with rfl | hb
    · exact hn
    · exact ih hrest hb

/-- An item whose distance no branch has comes in between those below its distance and those above
it. -/
lemma insertAmong_append {label : Nat} (x : Placed α) {lower upper : List (Nat × MetricNode α)}
    (hlower : ∀ b ∈ lower, b.1 < label) (hupper : ∀ b ∈ upper, label < b.1) :
    insertAmong label x (lower ++ upper) = lower ++ (label, .node x []) :: upper := by
  induction lower with
  | nil =>
    cases upper with
    | nil => rfl
    | cons b rest => simp [insertAmong, hupper b List.mem_cons_self]
  | cons b rest ih =>
    obtain ⟨hb, hrest⟩ := List.forall_mem_cons.1 hlower
    rw [List.cons_append, insertAmong, if_neg (Nat.lt_asymm hb), if_neg (Nat.ne_of_gt hb), ih hrest]
    rfl

/-- An item comes in on the branch of its distance. -/
lemma insertAmong_append_cons {label : Nat} (x : Placed α) (n : MetricNode α)
    {lower : List (Nat × MetricNode α)} (upper : List (Nat × MetricNode α))
    (hlower : ∀ b ∈ lower, b.1 < label) :
    insertAmong label x (lower ++ (label, n) :: upper) =
      lower ++ (label, n.insert x) :: upper := by
  induction lower with
  | nil => simp [insertAmong]
  | cons b rest ih =>
    obtain ⟨hb, hrest⟩ := List.forall_mem_cons.1 hlower
    rw [List.cons_append, insertAmong, if_neg (Nat.lt_asymm hb), if_neg (Nat.ne_of_gt hb), ih hrest]
    rfl

/-- A cell grows as its node does. -/
lemma cell_grow {x y : Placed α} {lower upper : List (Nat × MetricNode α)}
    (hlower : ∀ b ∈ lower, b.1 < y.fingerprint.distance x.fingerprint)
    (hupper : ∀ b ∈ upper, y.fingerprint.distance x.fingerprint < b.1) :
    (node y (lower ++ upper)).cell.grow x.fingerprint x.place =
      (node y (lower ++ (y.fingerprint.distance x.fingerprint, .node x []) :: upper)).cell := by
  unfold cell Arena.Cell.grow
  simp only [entry, branches, List.map_append, List.map_cons]
  rw [putBranch_append x.place (List.forall_mem_map.2 hlower) (List.forall_mem_map.2 hupper)]

/-! #### Laying nodes out -/

/-- The cells of a node and of those below it are in their places. -/
def IsLaidIn (n : MetricNode α) (cells : Arena α) : Prop :=
  ∀ m ∈ n.nodes, cells[m.entry.place]? = some m.cell

/-- A node that is laid out keeps its cells when another place grows. -/
lemma IsLaidIn.grow {n : MetricNode α} {cells : Arena α} (h : n.IsLaidIn cells) {k : Nat}
    (hk : k ∉ n.places) (f : Fingerprint) (a : α) : n.IsLaidIn (cells.grow k f a) := by
  intro m hm
  refine Arena.getElem?_grow_of_ne ?_ (h m hm)
  rintro rfl
  exact hk (List.mem_map_of_mem hm)

/-- A node is laid out if its own cell is, and the nodes at the ends of its branches are. -/
lemma isLaidIn_node_iff {x : Placed α} {branches : List (Nat × MetricNode α)} {cells : Arena α} :
    (node x branches).IsLaidIn cells ↔
      cells[x.place]? = some (node x branches).cell ∧ ∀ b ∈ branches, b.2.IsLaidIn cells := by
  constructor
  · intro h
    exact ⟨h _ (mem_nodes_self _), fun b hb m hm => h m (mem_nodes_node.2 (.inr ⟨b, hb, hm⟩))⟩
  · rintro ⟨hself, hbranches⟩ m hm
    obtain rfl | ⟨b, hb, hm⟩ := mem_nodes_node.1 hm
    · exact hself
    · exact hbranches b hb m hm

section Insert

variable {cells : Arena α} {x y : Placed α} {lower upper : List (Nat × MetricNode α)}

/-- A step of a walk down from a node that is laid out goes by the cell of the node. -/
lemma IsLaidIn.descend_eq {branches : List (Nat × MetricNode α)}
    (h : (node y branches).IsLaidIn cells) (f : Fingerprint) (steps : Nat) :
    cells.descend f (steps + 1) y.place =
      match (node y branches).cell.branch? (y.fingerprint.distance f) with
      | none => some y.place
      | some j => cells.descend f steps j := by
  rw [Arena.descend, (isLaidIn_node_iff.1 h).1]
  rfl

/-- A node without a branch for an item gets one, and its cell grows. -/
lemma IsLaidIn.insert_here (h : (node y (lower ++ upper)).IsLaidIn cells)
    (hplaces : (node y (lower ++ upper)).places.Nodup) (hx : x.place = cells.length)
    (hlower : ∀ b ∈ lower, b.1 < y.fingerprint.distance x.fingerprint)
    (hupper : ∀ b ∈ upper, y.fingerprint.distance x.fingerprint < b.1) :
    (node y (lower ++ (y.fingerprint.distance x.fingerprint, node x []) :: upper)).IsLaidIn
      (cells.grow y.place x.fingerprint x.item) := by
  obtain ⟨hself, hbranches⟩ := isLaidIn_node_iff.1 h
  rw [places_node, List.nodup_cons, List.mem_flatMap] at hplaces
  have hold (b : Nat × MetricNode α) (hb : b ∈ lower ++ upper) :
      b.2.IsLaidIn (cells.grow y.place x.fingerprint x.item) :=
    (hbranches b hb).grow (fun hmem => hplaces.1 ⟨b, hb, hmem⟩) _ _
  have hnew : (node x []).IsLaidIn (cells.grow y.place x.fingerprint x.item) := by
    refine isLaidIn_node_iff.2 ⟨?_, List.forall_mem_nil _⟩
    rw [hx]
    exact Arena.getElem?_grow_length
  refine isLaidIn_node_iff.2 ⟨?_, fun b hb => ?_⟩
  · rw [Arena.getElem?_grow_self hself, ← hx, cell_grow hlower hupper]
  · obtain hb | rfl | hb := by simpa using hb
    · exact hold b (List.mem_append_left _ hb)
    · exact hnew
    · exact hold b (List.mem_append_right _ hb)

/-- A node with a branch for an item stays as it is, and so do the nodes on its other branches. -/
lemma IsLaidIn.insert_below {n : MetricNode α} {label k : Nat} {f : Fingerprint} {a : α}
    (h : (node y (lower ++ (label, n) :: upper)).IsLaidIn cells)
    (hplaces : (node y (lower ++ (label, n) :: upper)).places.Nodup) (hk : k ∈ n.places)
    (hn : (n.insert x).IsLaidIn (cells.grow k f a)) :
    (node y (lower ++ (label, n.insert x) :: upper)).IsLaidIn (cells.grow k f a) := by
  obtain ⟨hself, hbranches⟩ := isLaidIn_node_iff.1 h
  simp only [places_node, List.flatMap_append, List.flatMap_cons, List.nodup_cons, List.mem_append,
    List.nodup_append, List.mem_flatMap] at hplaces
  obtain ⟨hy, -, ⟨-, -, hnu⟩, hl⟩ := hplaces
  have hcell : (node y (lower ++ (label, n.insert x) :: upper)).cell =
      (node y (lower ++ (label, n) :: upper)).cell := by
    unfold cell
    simp only [branches, List.map_append, List.map_cons, entry_insert]
    rfl
  refine isLaidIn_node_iff.2 ⟨?_, fun b hb => ?_⟩
  · rw [hcell]
    refine Arena.getElem?_grow_of_ne ?_ hself
    rintro rfl
    exact hy (.inr (.inl hk))
  · obtain hb | rfl | hb := by simpa using hb
    · refine (hbranches b (List.mem_append_left _ hb)).grow (fun hmem => ?_) _ _
      exact hl k ⟨b, hb, hmem⟩ k (.inl hk) rfl
    · exact hn
    · have hb' : b ∈ lower ++ (label, n) :: upper := by simp [hb]
      refine (hbranches b hb').grow (fun hmem => ?_) _ _
      exact hnu k hk k ⟨b, hb, hmem⟩ rfl

/-- The walk of an item down the cells of a node ends at one of its places, and where the arena
grows there, the node with the item is laid out. -/
lemma IsLaidIn.insert (hx : x.place = cells.length) {steps : Nat} {n : MetricNode α} {k : Nat}
    (hlaid : n.IsLaidIn cells) (hspaced : n.IsSpaced) (hplaces : n.places.Nodup)
    (hk : cells.descend x.fingerprint steps n.entry.place = some k) :
    k ∈ n.places ∧ (n.insert x).IsLaidIn (cells.grow k x.fingerprint x.item) := by
  induction steps generalizing n with
  | zero => cases hk
  | succ steps ih =>
    obtain ⟨y, branches⟩ := n
    rw [IsSpaced] at hspaced
    rw [MetricNode.insert, places_node]
    rw [entry, hlaid.descend_eq] at hk
    obtain ⟨lower, upper, hlower, hupper, rfl | ⟨n, rfl⟩⟩ :=
      hspaced.ascending.exists_split (y.fingerprint.distance x.fingerprint)
    -- No branch has the distance of the item: the walk ends here.
    · have hnone : (node y (lower ++ upper)).cell.branch?
          (y.fingerprint.distance x.fingerprint) = none := by
        refine Arena.Cell.branch?_eq_none_iff.2 (List.forall_mem_map.2 fun b hb => ?_)
        rcases List.mem_append.1 hb with hb | hb
        · exact Nat.ne_of_lt (hlower b hb)
        · exact Nat.ne_of_gt (hupper b hb)
      rw [hnone] at hk
      obtain rfl := Option.some.inj hk
      rw [insertAmong_append x hlower hupper]
      exact ⟨List.mem_cons_self, hlaid.insert_here hplaces hx hlower hupper⟩
    -- The walk goes on below the branch with the distance of the item.
    · have hsome : (node y
          (lower ++ (y.fingerprint.distance x.fingerprint, n) :: upper)).cell.branch?
            (y.fingerprint.distance x.fingerprint) = some n.entry.place :=
        Arena.Cell.branch?_eq_some List.map_append (List.forall_mem_map.2 hlower)
      rw [hsome] at hk
      have hmem : (y.fingerprint.distance x.fingerprint, n) ∈
          lower ++ (y.fingerprint.distance x.fingerprint, n) :: upper := by simp
      have hn : n.places.Nodup := by
        have hall := hplaces
        simp only [places_node, List.flatMap_append, List.flatMap_cons, List.nodup_cons,
          List.nodup_append] at hall
        exact hall.2.2.1.1
      obtain ⟨hplace, hinsert⟩ :=
        ih ((isLaidIn_node_iff.1 hlaid).2 _ hmem) (hspaced.isSpaced_of_mem hmem) hn hk
      rw [insertAmong_append_cons x n upper hlower]
      refine ⟨List.mem_cons_of_mem _ (List.mem_flatMap.2 ⟨_, hmem, hplace⟩), ?_⟩
      exact hlaid.insert_below hplaces hplace hinsert

end Insert

end MetricNode

namespace MetricTree

/-! #### Laying trees out -/

/-- The nodes of a tree. -/
def nodes (t : MetricTree α) : List (MetricNode α) :=
  t.root.elim [] MetricNode.nodes

/-- The nodes of a tree in the order in which their items came in. -/
def nodesInOrder (t : MetricTree α) : List (MetricNode α) :=
  t.nodes.mergeSort fun m n => decide (m.entry.place ≤ n.entry.place)

/-- The arena of a tree: the cells of its nodes in the order in which their items came in. -/
def arena (t : MetricTree α) : Arena α :=
  t.nodesInOrder.map MetricNode.cell

/-- The items of all nodes are those of the tree. -/
lemma map_entry_nodes_perm (t : MetricTree α) :
    (t.nodes.map MetricNode.entry).Perm t.placed := by
  refine List.Perm.trans ?_ t.walk_perm_placed
  unfold nodes walk
  cases t.root with
  | none => exact .nil
  | some n => exact n.map_entry_nodes_perm

/-- The nodes in order have the items of the tree in order. -/
lemma map_entry_nodesInOrder (t : MetricTree α) :
    t.nodesInOrder.map MetricNode.entry = t.placed := by
  have hmap : t.nodesInOrder.map MetricNode.entry =
      (t.nodes.map MetricNode.entry).mergeSort fun x y => decide (x.place ≤ y.place) :=
    List.map_mergeSort fun _ _ _ _ => rfl
  rw [hmap]
  exact Sorting.mergeSort_eq_of_ascending Placed.place t.map_entry_nodes_perm
    (pairwise_place_placedFrom 0 t.entries)

/-- The items of a tree have their places in the order in which they were put in. -/
lemma place_of_getElem?_placed (t : MetricTree α) {i : Nat} {x : Placed α}
    (h : t.placed[i]? = some x) : x.place = i := by
  rw [placed, placedFrom, List.getElem?_map, List.getElem?_zipIdx] at h
  obtain ⟨e, he, rfl⟩ := Option.map_eq_some_iff.1 h
  obtain ⟨e', -, rfl⟩ := Option.map_eq_some_iff.1 he
  exact Nat.zero_add i

/-- The arena of a tree has a cell for each of its items. -/
lemma length_arena (t : MetricTree α) : t.arena.length = t.size := by
  have hlength := congrArg List.length t.map_entry_nodesInOrder
  simpa [arena, size, placed, placedFrom] using hlength

/-- The items in the arena of a tree are those of the tree in their order. -/
lemma entries_arena (t : MetricTree α) : t.arena.entries = t.entries := by
  rw [← t.map_placed, ← t.map_entry_nodesInOrder, Arena.entries, arena, List.map_map, List.map_map]
  rfl

/-- The nodes in order are in their places. -/
lemma getElem?_nodesInOrder_iff (t : MetricTree α) {i : Nat} {n : MetricNode α} :
    t.nodesInOrder[i]? = some n ↔ n ∈ t.nodes ∧ n.entry.place = i := by
  have hplace {j : Nat} (hn : t.nodesInOrder[j]? = some n) : n.entry.place = j := by
    refine t.place_of_getElem?_placed ?_
    rw [← t.map_entry_nodesInOrder, List.getElem?_map, hn]
    rfl
  constructor
  · intro hn
    exact ⟨List.mem_mergeSort.1 (List.mem_of_getElem? hn), hplace hn⟩
  · rintro ⟨hn, rfl⟩
    obtain ⟨j, hj⟩ := List.mem_iff_getElem?.1 (List.mem_mergeSort.2 hn)
    rw [hplace hj]
    exact hj

/-- The cell of a node is in its place. -/
lemma getElem?_arena (t : MetricTree α) {n : MetricNode α} (hn : n ∈ t.nodes) :
    t.arena[n.entry.place]? = some n.cell := by
  rw [arena, List.getElem?_map, t.getElem?_nodesInOrder_iff.2 ⟨hn, rfl⟩]
  rfl

/-- The arena of a tree is the one in which its nodes have their places. -/
lemma eq_arena {t : MetricTree α} {cells : Arena α} (hlength : cells.length = t.size)
    (h : ∀ n ∈ t.nodes, cells[n.entry.place]? = some n.cell) : cells = t.arena := by
  refine List.ext_getElem? fun i => ?_
  obtain hlt | hge := Nat.lt_or_ge i t.nodesInOrder.length
  · have hn : t.nodesInOrder[i]? = some t.nodesInOrder[i] := List.getElem?_eq_getElem hlt
    obtain ⟨hmem, hplace⟩ := t.getElem?_nodesInOrder_iff.1 hn
    have hcell := h _ hmem
    have hcell' := t.getElem?_arena hmem
    rw [hplace] at hcell hcell'
    rw [hcell, hcell']
  · have hsize := t.length_arena
    rw [arena, List.length_map] at hsize
    rw [arena, List.getElem?_map, List.getElem?_eq_none hge, List.getElem?_eq_none (by omega)]
    rfl

/-- The item on top is the first. -/
lemma place_rootOf (entries : List (Fingerprint × α)) :
    ∀ n ∈ rootOf entries, n.entry.place = 0 := by
  refine forall_mem_rootOf (fun _ _ => rfl) (fun n x hn => ?_) entries
  rwa [MetricNode.entry_insert]

/-- An item stays on top when others come in after it. -/
lemma map_item_rootOf (entries : List (Fingerprint × α)) :
    (rootOf entries).map (·.entry.item) = (entries.map (·.2)).head? := by
  induction entries using List.reverseRecOn with
  | nil => rfl
  | append_singleton entries e ih =>
    rw [rootOf_append]
    cases hroot : rootOf entries with
    | none =>
      obtain rfl := rootOf_eq_none_iff.1 hroot
      rfl
    | some n =>
      rw [hroot, Option.map_some] at ih
      rw [growRoot, Option.map_some, MetricNode.entry_insert, ih, List.map_append,
        List.head?_append, ← ih]
      rfl

/-- The item on top of a tree is the one that was put in first. -/
lemma map_item_root (t : MetricTree α) : t.root.map (·.entry.item) = t.items.head? := by
  rw [t.root_eq, map_item_rootOf]
  rfl

/-- No place in a tree is taken twice. -/
lemma nodup_places (t : MetricTree α) : (t.nodes.map fun n => n.entry.place).Nodup := by
  have hperm := t.map_entry_nodes_perm.map Placed.place
  rw [List.map_map] at hperm
  refine hperm.nodup_iff.2 (List.pairwise_map.2 ?_)
  exact (pairwise_place_placedFrom 0 t.entries).imp Nat.ne_of_lt

/-- The arena of a tree without a node has no cells. -/
lemma arena_eq_nil {t : MetricTree α} (h : t.root = none) : t.arena = [] := by
  rw [arena, nodesInOrder, nodes, h, Option.elim_none, List.mergeSort_nil, List.map_nil]

/-- The nodes of a tree after an insertion. -/
lemma nodes_insert (t : MetricTree α) (f : Fingerprint) (a : α) :
    (t.insert f a).nodes =
      (growRoot t.root ⟨t.entries.length, f, a⟩).elim [] MetricNode.nodes :=
  rfl

/-- If the arena of a tree is a tree, to put an item into it is to put the item into the tree. -/
lemma insert?_arena_of_isTree {t : MetricTree α} (h : t.arena.IsTree) (f : Fingerprint) (a : α) :
    t.arena.insert? f a = some (t.insert f a).arena := by
  have hsize : (t.insert f a).size = t.arena.length + 1 := by
    rw [t.length_arena, size, size, insert, List.length_append, List.length_singleton]
  unfold Arena.insert?
  cases hroot : t.root with
  | none =>
    -- The item is put on top of a tree without items.
    have hnil := arena_eq_nil hroot
    have hentries : t.entries = [] := rootOf_eq_none_iff.1 (t.root_eq.symm.trans hroot)
    rw [hnil, List.isEmpty_nil, if_pos rfl]
    rw [hnil] at hsize
    refine congrArg some (eq_arena hsize.symm fun n hn => ?_)
    rw [nodes_insert, hroot, hentries] at hn
    obtain rfl := List.mem_singleton.1 hn
    rfl
  | some n =>
    have hnodes : t.nodes = n.nodes := by
      rw [nodes, hroot]
      rfl
    have hlaid : n.IsLaidIn t.arena := fun m hm => t.getElem?_arena (hnodes ▸ hm)
    have hplaces : n.places.Nodup := by
      have hall := t.nodup_places
      rwa [hnodes] at hall
    have hplace : n.entry.place = 0 := place_rootOf t.entries n (t.root_eq ▸ hroot)
    have hpos : 0 < t.arena.length := by
      have hself := (List.getElem?_eq_some_iff.1 (hlaid n n.mem_nodes_self)).1
      rwa [hplace] at hself
    obtain ⟨k, c, hk, -⟩ :=
      h.exists_descend_eq_some t.arena.length hpos (by omega) (h.comesTo_zero f)
    have hplaced : t.entries.length = t.arena.length := t.length_arena.symm
    obtain ⟨-, hinsert⟩ := hlaid.insert (x := ⟨t.entries.length, f, a⟩) hplaced
      (t.isSpaced_root n hroot) hplaces (hplace ▸ hk)
    rw [if_neg (by simpa using List.length_pos_iff.1 hpos), hk, Option.map_some]
    refine congrArg some (eq_arena (Arena.length_grow.trans hsize.symm) fun m hm => hinsert m ?_)
    rwa [nodes_insert, hroot] at hm

/-- A tree is given by its items. -/
lemma ofList_entries (t : MetricTree α) : ofList t.entries = t := by
  obtain ⟨entries, root, rfl⟩ := t
  rfl

/-- The last item of a list comes into the tree of the list last. -/
lemma ofList_append_singleton (entries : List (Fingerprint × α)) (e : Fingerprint × α) :
    ofList (entries ++ [e]) = (ofList entries).insert e.1 e.2 :=
  (ofList_entries ((ofList entries).insert e.1 e.2)).symm ▸ rfl

/-- The arena of a tree is a tree. -/
lemma isTree_arena (t : MetricTree α) : t.arena.IsTree := by
  rw [← t.ofList_entries]
  induction t.entries using List.reverseRecOn with
  | nil =>
    rw [arena_eq_nil rfl]
    exact Arena.isTree_nil
  | append_singleton entries e ih =>
    obtain ⟨grown, hgrown, htree, -⟩ := ih.exists_insert?_eq_some e.1 e.2
    rw [insert?_arena_of_isTree ih, ← ofList_append_singleton] at hgrown
    rwa [Option.some.inj hgrown]

/-- To put an item into the arena of a tree is to put it into the tree. -/
lemma insert?_arena (t : MetricTree α) (f : Fingerprint) (a : α) :
    t.arena.insert? f a = some (t.insert f a).arena :=
  insert?_arena_of_isTree t.isTree_arena f a

/-- The arena of a tree is the one into which its items are put one after another. -/
lemma ofEntries?_entries (t : MetricTree α) : Arena.ofEntries? t.entries = some t.arena := by
  conv_rhs => rw [← t.ofList_entries]
  induction t.entries using List.reverseRecOn with
  | nil =>
    rw [arena_eq_nil rfl]
    rfl
  | append_singleton entries e ih =>
    rw [ofList_append_singleton, ← insert?_arena, Arena.ofEntries?_append_singleton, ih]
    rfl

end MetricTree

/-! #### Changes -/

namespace ItemChange

/-- An arena after a change. The items that pass a test are put one after another into an arena
without cells. -/
def onArena? (cells : Arena α) : ItemChange α → Option (Arena α)
  | .insert f a => cells.insert? f a
  | .filter keep =>
    cells.foldlM
      (fun kept c => if keep c.item then kept.insert? c.fingerprint c.item else some kept) []
  | .clear => some []

/-- Whether an item that is there stays when a change is made. -/
def keeps (a : α) : ItemChange α → Bool
  | .insert _ _ => true
  | .filter keep => keep a
  | .clear => false

/-- The items that some changes put in and later ones keep, in the order in which they came in. -/
def survivors : List (ItemChange α) → List (Fingerprint × α)
  | [] => []
  | .insert f a :: later =>
    if later.all (keeps a) then (f, a) :: survivors later else survivors later
  | .filter _ :: later => survivors later
  | .clear :: later => survivors later

/-- After some changes there are the items from before that they keep, and those that survive
them. -/
lemma foldl_onList (changes : List (ItemChange α)) (entries : List (Fingerprint × α)) :
    changes.foldl onList entries =
      (entries.filter fun e => changes.all (keeps e.2)) ++ survivors changes := by
  induction changes generalizing entries with
  | nil => simp [survivors]
  | cons c later ih =>
    rw [List.foldl_cons, ih]
    cases c with
    | insert f a =>
      have hkeeps (e : Fingerprint × α) :
          (insert f a :: later).all (keeps e.2) = later.all (keeps e.2) := rfl
      simp only [hkeeps, onList, List.filter_append, survivors, List.append_assoc]
      by_cases ha : later.all (keeps a) = true <;> simp [ha]
    | filter keep =>
      rw [onList, List.filter_filter, survivors]
      simp [keeps, Bool.and_comm]
    | clear => simp [onList, survivors, keeps]

/-- The items of a tree after some changes are those that survive them. -/
lemma entries_foldl_onTree_empty (changes : List (ItemChange α)) :
    (changes.foldl onTree .empty).entries = survivors changes := by
  rw [entries_foldl_onTree, foldl_onList]
  rfl

/-- A change does to the arena of a tree what it does to the tree. -/
lemma onArena?_arena (t : MetricTree α) (c : ItemChange α) :
    c.onArena? t.arena = some (c.onTree t).arena := by
  cases c with
  | insert f a => exact t.insert?_arena f a
  | filter keep =>
    have hentries : (t.filter keep).entries =
        (t.arena.filter fun c => keep c.item).map fun c => (c.fingerprint, c.item) := by
      change t.entries.filter _ = _
      rw [← t.entries_arena, Arena.entries, List.filter_map]
      rfl
    have hkept : Arena.ofEntries? (t.filter keep).entries =
        (ItemChange.filter keep).onArena? t.arena := by
      rw [hentries, Arena.ofEntries?, List.foldlM_map, List.foldlM_filter]
      rfl
    rw [← hkept]
    exact (t.filter keep).ofEntries?_entries
  | clear => exact congrArg some (MetricTree.arena_eq_nil rfl).symm

/-- Changes one after another do to the arena of a tree what they do to the tree. -/
lemma foldlM_onArena?_arena (changes : List (ItemChange α)) (t : MetricTree α) :
    changes.foldlM onArena? t.arena = some (changes.foldl onTree t).arena := by
  induction changes generalizing t with
  | nil => rfl
  | cons c later ih =>
    rw [List.foldlM_cons, onArena?_arena, List.foldl_cons, ← ih]
    rfl

end ItemChange

namespace MetricTree

/-- **Trees in arenas**: whatever items are put in, left out and cleared away, all walks down the
cells come to their end, and the cells are those of the nodes of the tree. Branches lead to greater
places only, and all but the first of the cells are each at the end of exactly one branch, whose
distance is that of the cell and of all below it. The look through the arena finds it sound, and so
is the tree. The items are those that survive the changes, in the order in which they came in, and
to put only these into an arena without cells makes the same cells and branches. -/
theorem arena_foldl_onTree (changes : List (ItemChange α)) :
    ∃ cells : Arena α,
      changes.foldlM ItemChange.onArena? [] = some cells ∧
      cells = (changes.foldl ItemChange.onTree .empty).arena ∧
      cells.IsTree ∧ cells.isSound = true ∧
      (changes.foldl ItemChange.onTree .empty).isSound = true ∧
      cells.entries = ItemChange.survivors changes ∧
      Arena.ofEntries? (ItemChange.survivors changes) = some cells := by
  have hrun := ItemChange.foldlM_onArena?_arena changes .empty
  rw [arena_eq_nil rfl] at hrun
  have hentries := ItemChange.entries_foldl_onTree_empty changes
  refine ⟨_, hrun, rfl, isTree_arena _, (isTree_arena _).isSound_eq_true, isSound_eq_true _,
    (entries_arena _).trans hentries, ?_⟩
  rw [← hentries]
  exact ofEntries?_entries _

example : (([.insert ⟨1⟩ 'a', .insert ⟨2⟩ 'b', .insert ⟨3⟩ 'c', .filter (· ≠ 'a')] :
    List (ItemChange Char)).foldlM ItemChange.onArena? []).map
      (·.map fun c => (c.item, c.branches)) = some [('b', [(1, 1)]), ('c', [])] := by
  decide +kernel

end MetricTree

end Lookalike
