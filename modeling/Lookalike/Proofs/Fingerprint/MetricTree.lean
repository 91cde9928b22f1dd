import Mathlib.Data.List.Basic
import Mathlib.Data.List.Induction
import Lookalike.Fingerprint.MetricTree
import Lookalike.Proofs.Fingerprint.Distance
import Lookalike.Proofs.Ordered.Sorting

/-! ### Searching a metric tree

Below a branch, all items have the distance of that branch from the node above. A search may
therefore pass by the branches that are too near or too far: what it finds is the walk through the
whole tree, without the items that are too far from the query. -/

namespace Lookalike

namespace MetricNode

variable {α : Type}

/-! #### The invariant of a node -/

mutual

/-- The branches below a node are spaced, seen from the item at the node. -/
def IsSpaced : MetricNode α → Prop
  | .node x branches => AreSpaced x.fingerprint branches

/-- The distances of branches ascend, and each of them is that of all items on the branch from the
item above. -/
def AreSpaced (top : Fingerprint) : List (Nat × MetricNode α) → Prop
  | [] => True
  | (label, n) :: rest =>
    (∀ y ∈ n.walk, top.distance y.fingerprint = label) ∧ n.IsSpaced ∧
      (∀ b ∈ rest, label < b.1) ∧ AreSpaced top rest

end

/-- A walk begins at the node. -/
lemma entry_mem_walk (n : MetricNode α) : n.entry ∈ n.walk := by
  cases n
  simp [walk, entry]

mutual

/-- A walk after an insertion meets the new item and those from before. -/
theorem walk_insert_perm (x : Placed α) : (n : MetricNode α) →
    (n.insert x).walk.Perm (x :: n.walk)
  | .node entry branches => by
    rw [MetricNode.insert, walk, walk]
    have h := walkAmong_insertAmong_perm (entry.fingerprint.distance x.fingerprint) x branches
    exact (h.cons entry).trans (List.Perm.swap x entry _)

/-- A walk over branches after an insertion meets the new item and those from before. -/
theorem walkAmong_insertAmong_perm (distance : Nat) (x : Placed α) :
    (branches : List (Nat × MetricNode α)) →
    (walkAmong (insertAmong distance x branches)).Perm (x :: walkAmong branches)
  | [] => by simp [insertAmong, walkAmong, walk]
  | (label, n) :: rest => by
    rw [insertAmong]
    split
    · simp only [walkAmong, walk]
      exact List.perm_append_singleton x _
    · split
      · rw [walkAmong, walkAmong]
        have h := (walk_insert_perm x n).append_left (walkAmong rest)
        exact h.trans List.perm_middle
      · rw [walkAmong, walkAmong]
        exact (walkAmong_insertAmong_perm distance x rest).append_right n.walk

end

/-- The branches after an insertion have the distances from before and that of the new item. -/
lemma label_mem_insertAmong {distance : Nat} {x : Placed α} {b : Nat × MetricNode α} :
    {branches : List (Nat × MetricNode α)} → b ∈ insertAmong distance x branches →
    b.1 = distance ∨ ∃ c ∈ branches, b.1 = c.1
  | [], h => by
    rw [insertAmong, List.mem_singleton] at h
    exact .inl (congrArg Prod.fst h)
  | (label, n) :: rest, h => by
    rw [insertAmong] at h
    split at h
    · rcases List.mem_cons.1 h with rfl | h
      · exact .inl rfl
      · exact .inr ⟨b, h, rfl⟩
    · split at h
      · rename_i heq
        rcases List.mem_cons.1 h with rfl | h
        · exact .inl heq.symm
        · exact .inr ⟨b, List.mem_cons_of_mem _ h, rfl⟩
      · rcases List.mem_cons.1 h with rfl | h
        · exact .inr ⟨(label, n), List.mem_cons_self, rfl⟩
        · rcases label_mem_insertAmong h with h | ⟨c, hc, h⟩
          · exact .inl h
          · exact .inr ⟨c, List.mem_cons_of_mem _ hc, h⟩

mutual

/-- An insertion keeps the branches below a node spaced. -/
theorem IsSpaced.insert (x : Placed α) : {n : MetricNode α} → n.IsSpaced → (n.insert x).IsSpaced
  | .node entry branches, h => by
    rw [IsSpaced] at h
    rw [MetricNode.insert, IsSpaced]
    exact AreSpaced.insertAmong x h

/-- An insertion keeps branches spaced, if it goes by the distance of the new item. -/
theorem AreSpaced.insertAmong {top : Fingerprint} (x : Placed α) :
    {branches : List (Nat × MetricNode α)} → AreSpaced top branches →
    AreSpaced top (insertAmong (top.distance x.fingerprint) x branches)
  | [], _ => by simp [MetricNode.insertAmong, AreSpaced, IsSpaced, walk, walkAmong]
  | (label, n) :: rest, h => by
    obtain ⟨hlabel, hn, hlt, hrest⟩ := h
    rw [MetricNode.insertAmong]
    split
    · rename_i hless
      refine ⟨by simp [walk, walkAmong], by simp [IsSpaced, AreSpaced], fun b hb => ?_,
        hlabel, hn, hlt, hrest⟩
      rcases List.mem_cons.1 hb with rfl | hb
      · exact hless
      · exact Nat.lt_trans hless (hlt b hb)
    · rename_i hnotless
      split
      · rename_i heq
        refine ⟨fun y hy => ?_, hn.insert x, hlt, hrest⟩
        rcases List.mem_cons.1 ((walk_insert_perm x n).mem_iff.1 hy) with rfl | hy
        · exact heq
        · exact hlabel y hy
      · rename_i hne
        refine ⟨hlabel, hn, fun b hb => ?_, hrest.insertAmong x⟩
        rcases label_mem_insertAmong hb with h | ⟨c, hc, h⟩
        · omega
        · exact h ▸ hlt c hc

end

/-! #### What a search finds -/

/-- The items among some that are within a radius of a query, with their distances. -/
def near (query : Fingerprint) (radius : Nat) (xs : List (Placed α)) : List (Placed α × Nat) :=
  (xs.filter fun y => y.fingerprint.distance query ≤ radius).map fun y =>
    (y, y.fingerprint.distance query)

/-- What is near among two lists is near among one of them. -/
lemma near_append (query : Fingerprint) (radius : Nat) (xs ys : List (Placed α)) :
    near query radius (xs ++ ys) = near query radius xs ++ near query radius ys := by
  simp [near]

/-- Nothing is near if all items are too far. -/
lemma near_eq_nil {query : Fingerprint} {radius : Nat} {xs : List (Placed α)}
    (h : ∀ y ∈ xs, radius < y.fingerprint.distance query) : near query radius xs = [] := by
  rw [near, List.map_eq_nil_iff, List.filter_eq_nil_iff]
  intro y hy
  have hfar := h y hy
  simp only [decide_eq_true_eq]
  omega

/-- A branch whose distance lies outside the bounds of a search holds nothing that is near. -/
lemma far_of_outside {top query : Fingerprint} {radius label : Nat} {y : Placed α}
    (hy : top.distance y.fingerprint = label)
    (hout : ¬(top.distance query - radius ≤ label ∧
      label ≤ min (top.distance query + radius) maxRadius)) :
    radius < y.fingerprint.distance query := by
  have hover := Fingerprint.distance_triangle top y.fingerprint query
  have hback := Fingerprint.distance_triangle top query y.fingerprint
  have hbits := Fingerprint.distance_le top y.fingerprint
  have hmax : maxRadius = 4294967295 := rfl
  rw [Fingerprint.distance_comm query] at hback
  omega

mutual

/-- A search below a node finds what is near on the whole walk. -/
theorem search_eq_near (query : Fingerprint) (radius : Nat) : {n : MetricNode α} → n.IsSpaced →
    n.search query radius = near query radius n.walk
  | .node entry branches, h => by
    rw [IsSpaced] at h
    rw [search, searchAmong_eq_near query radius h, walk]
    by_cases hnear : entry.fingerprint.distance query ≤ radius <;> simp [near, hnear]

/-- A search over branches finds what is near on the whole walk over them. -/
theorem searchAmong_eq_near (query : Fingerprint) (radius : Nat) {top : Fingerprint} :
    {branches : List (Nat × MetricNode α)} → AreSpaced top branches →
    searchAmong query radius (top.distance query - radius)
        (min (top.distance query + radius) maxRadius) branches =
      near query radius (walkAmong branches)
  | [], _ => by simp [searchAmong, walkAmong, near]
  | (label, n) :: rest, h => by
    obtain ⟨hlabel, hn, _, hrest⟩ := h
    have ihrest := searchAmong_eq_near query radius hrest
    rw [searchAmong, walkAmong, near_append, ihrest]
    split
    · rw [search_eq_near query radius hn]
    · rename_i hout
      rw [near_eq_nil fun y hy => far_of_outside (hlabel y hy) hout, List.append_nil]

end

/-! #### Soundness -/

mutual

/-- The branches of a spaced node have the right distances. -/
theorem isLabelled_of_isSpaced : {n : MetricNode α} → n.IsSpaced → n.isLabelled = true
  | .node entry branches, h => by
    rw [IsSpaced] at h
    rw [isLabelled]
    exact areLabelled_of_areSpaced h

/-- Spaced branches have the right distances. -/
theorem areLabelled_of_areSpaced {top : Fingerprint} :
    {branches : List (Nat × MetricNode α)} → AreSpaced top branches →
    areLabelled top branches = true
  | [], _ => rfl
  | (label, n) :: rest, h => by
    obtain ⟨hlabel, hn, _, hrest⟩ := h
    rw [areLabelled, hlabel n.entry n.entry_mem_walk, isLabelled_of_isSpaced hn,
      areLabelled_of_areSpaced hrest]
    simp

end

end MetricNode

namespace MetricTree

variable {α : Type}

/-! #### The tree of a list of items -/

/-- The items of a list with their places in it. -/
def placedFrom (start : Nat) (entries : List (Fingerprint × α)) : List (Placed α) :=
  (entries.zipIdx start).map fun e => ⟨e.2, e.1.1, e.1.2⟩

/-- The items of a tree in the order in which they were put in. -/
def placed (t : MetricTree α) : List (Placed α) :=
  placedFrom 0 t.entries

/-- The items of a tree in the order in which a search visits them. -/
def walk (t : MetricTree α) : List (Placed α) :=
  t.root.elim [] MetricNode.walk

/-- Growing a tree adds the new item to its walk. -/
lemma walk_growRoot_perm (root : Option (MetricNode α)) (x : Placed α) :
    ((growRoot root x).elim [] MetricNode.walk).Perm (x :: root.elim [] MetricNode.walk) := by
  cases root with
  | none => simp [growRoot, MetricNode.walk, MetricNode.walkAmong]
  | some n => exact MetricNode.walk_insert_perm x n

/-- The walk through the tree of a list meets each item of the list once. -/
lemma walk_rootOf_perm (entries : List (Fingerprint × α)) :
    ((rootOf entries).elim [] MetricNode.walk).Perm (placedFrom 0 entries) := by
  induction entries using List.reverseRecOn with
  | nil => exact List.Perm.refl _
  | append_singleton entries e ih =>
    have hlast : placedFrom 0 (entries ++ [e]) =
        placedFrom 0 entries ++ [⟨entries.length, e.1, e.2⟩] := by
      simp [placedFrom, List.zipIdx_append]
    rw [rootOf_append, hlast]
    refine (walk_growRoot_perm _ _).trans ((ih.cons _).trans ?_)
    exact (List.perm_append_singleton _ _).symm

/-- The node on top is missing only without items. -/
lemma rootOf_eq_none_iff {entries : List (Fingerprint × α)} :
    rootOf entries = none ↔ entries = [] := by
  cases entries using List.reverseRecOn with
  | nil => exact ⟨fun _ => rfl, fun _ => rfl⟩
  | append_singleton entries e =>
    rw [rootOf_append]
    cases rootOf entries <;> simp [growRoot]

/-- What holds of a single node in the first place, and goes on holding when items come in, holds of
the node on top. -/
lemma forall_mem_rootOf {P : MetricNode α → Prop} (first : ∀ f a, P (.node ⟨0, f, a⟩ []))
    (insert : ∀ n x, P n → P (n.insert x)) (entries : List (Fingerprint × α)) :
    ∀ n ∈ rootOf entries, P n := by
  induction entries using List.reverseRecOn with
  | nil =>
    intro n hn
    cases hn
  | append_singleton entries e ih =>
    rw [rootOf_append]
    intro n hn
    cases hroot : rootOf entries with
    | none =>
      obtain rfl := rootOf_eq_none_iff.1 hroot
      rw [hroot, growRoot, Option.mem_some_iff] at hn
      subst hn
      exact first e.1 e.2
    | some m =>
      rw [hroot, growRoot, Option.mem_some_iff] at hn
      subst hn
      exact insert m _ (ih m hroot)

/-- All nodes of the tree of a list are spaced. -/
lemma isSpaced_rootOf (entries : List (Fingerprint × α)) :
    ∀ n ∈ rootOf entries, n.IsSpaced := by
  refine forall_mem_rootOf (fun f a => ?_) (fun n x hn => hn.insert x) entries
  simp [MetricNode.IsSpaced, MetricNode.AreSpaced]

/-- The walk through a tree meets each of its items once. -/
lemma walk_perm_placed (t : MetricTree α) : t.walk.Perm t.placed := by
  unfold walk placed
  rw [t.root_eq]
  exact walk_rootOf_perm t.entries

/-- All nodes of a tree are spaced. -/
lemma isSpaced_root (t : MetricTree α) : ∀ n ∈ t.root, n.IsSpaced := by
  rw [t.root_eq]
  exact isSpaced_rootOf t.entries

/-- The items with their places are the items of the tree. -/
lemma map_placed (t : MetricTree α) :
    t.placed.map (fun y => (y.fingerprint, y.item)) = t.entries := by
  rw [placed, placedFrom, List.map_map]
  exact List.zipIdx_map_fst 0 t.entries

/-- The items on the walk through a tree are the items of the tree in another order. -/
lemma map_walk_perm (t : MetricTree α) :
    (t.walk.map fun y => (y.fingerprint, y.item)).Perm t.entries :=
  (t.walk_perm_placed.map _).trans (List.Perm.of_eq t.map_placed)

/-- A search finds what is near on the walk through the tree. -/
lemma hits_eq_near (t : MetricTree α) (query : Fingerprint) (radius : Nat) :
    t.hits query radius = MetricNode.near query radius t.walk := by
  unfold hits walk
  cases hroot : t.root with
  | none => rfl
  | some n => exact MetricNode.search_eq_near query radius (t.isSpaced_root n hroot)

/-- A search finds the items within its radius, in some order. -/
lemma search_perm (t : MetricTree α) (query : Fingerprint) (radius : Nat) :
    (t.search query radius).Perm
      ((t.entries.filter fun e => e.1.distance query ≤ radius).map fun e =>
        (e.2, e.1.distance query)) := by
  have hentries := (t.map_walk_perm.filter fun e => e.1.distance query ≤ radius).map fun e =>
    (e.2, e.1.distance query)
  rw [List.filter_map, List.map_map] at hentries
  rw [search, hits_eq_near, MetricNode.near, List.map_map]
  exact hentries

/-- **Searching a tree**: there is one order of its items, from the top down and from the farthest
branch to the nearest, that holds each item once, and a search finds the items within its radius in
that order, each with its distance. -/
theorem search_eq_filter_walk (t : MetricTree α) :
    (∀ n ∈ t.root, n.IsSpaced) ∧
      (t.walk.map fun y => (y.fingerprint, y.item)).Perm t.entries ∧
      ∀ (query : Fingerprint) (radius : Nat),
        t.search query radius =
          (t.walk.filter fun y => y.fingerprint.distance query ≤ radius).map fun y =>
            (y.item, y.fingerprint.distance query) := by
  refine ⟨t.isSpaced_root, t.map_walk_perm, fun query radius => ?_⟩
  rw [search, hits_eq_near, MetricNode.near, List.map_map]
  rfl

/-! #### Pairs -/

/-- The pairs of items in a list whose fingerprints are within a radius of each other, each item
with those behind it. -/
def closePairs (radius : Nat) : List (Fingerprint × α) → List (α × α × Nat)
  | [] => []
  | (f, a) :: rest =>
    ((rest.filter fun e => f.distance e.1 ≤ radius).map fun e => (a, e.2, f.distance e.1)) ++
      closePairs radius rest

/-- The places of items in a list ascend. -/
lemma pairwise_place_placedFrom (start : Nat) (entries : List (Fingerprint × α)) :
    (placedFrom start entries).Pairwise fun x y => x.place < y.place := by
  rw [placedFrom, List.pairwise_map]
  have hplaces := List.pairwise_lt_range' (s := start) (n := entries.length)
  rw [← List.zipIdx_map_snd start entries, List.pairwise_map] at hplaces
  exact hplaces

/-- No place in a list comes before the first. -/
lemma le_place_of_mem {start : Nat} {entries : List (Fingerprint × α)} {y : Placed α}
    (hy : y ∈ placedFrom start entries) : start ≤ y.place := by
  obtain ⟨e, he, rfl⟩ := List.mem_map.1 hy
  exact (List.mem_zipIdx he).1

/-- The hits behind a place, in the order of their places. -/
lemma laterHits_eq_near (t : MetricTree α) (place : Nat) (f : Fingerprint) (radius : Nat) :
    t.laterHits place f radius =
      MetricNode.near f radius (t.placed.filter fun y => place < y.place) := by
  have hfilter (xs : List (Placed α)) :
      ((MetricNode.near f radius xs).filter fun h => place < h.1.place) =
        MetricNode.near f radius (xs.filter fun y => place < y.place) := by
    simp only [MetricNode.near, List.filter_map, List.filter_filter, Function.comp_def,
      Bool.and_comm]
  have hsorted : (MetricNode.near f radius (t.placed.filter fun y => place < y.place)).Pairwise
      fun x y => x.1.place < y.1.place := by
    rw [MetricNode.near, List.pairwise_map]
    exact ((pairwise_place_placedFrom 0 t.entries).filter _).filter _
  rw [laterHits, hits_eq_near, hfilter]
  exact Sorting.mergeSort_eq_of_ascending (fun x : Placed α × Nat => x.1.place)
    (((t.walk_perm_placed.filter _).filter _).map _) hsorted

/-- What is near among the items of a list does not depend on their places. -/
lemma near_placedFrom (a : α) (f : Fingerprint) (radius start : Nat)
    (entries : List (Fingerprint × α)) :
    ((MetricNode.near f radius (placedFrom start entries)).map fun h => (a, h.1.item, h.2)) =
      (entries.filter fun e => f.distance e.1 ≤ radius).map fun e => (a, e.2, f.distance e.1) := by
  induction entries generalizing start with
  | nil => rfl
  | cons e rest ih =>
    have hrest := ih (start + 1)
    simp only [placedFrom, MetricNode.near] at hrest ⊢
    rw [List.zipIdx_cons, List.map_cons, List.filter_cons, List.filter_cons,
      Fingerprint.distance_comm e.1]
    split
    · rw [List.map_cons, List.map_cons, List.map_cons, hrest, Fingerprint.distance_comm e.1]
    · exact hrest

/-- The pairs of the items from a place on. -/
lemma flatMap_near_placedFrom (radius start : Nat) (entries : List (Fingerprint × α)) :
    ((entries.zipIdx start).flatMap fun e =>
      (MetricNode.near e.1.1 radius
        ((placedFrom start entries).filter fun y => e.2 < y.place)).map fun h =>
          (e.1.2, h.1.item, h.2)) = closePairs radius entries := by
  induction entries generalizing start with
  | nil => rfl
  | cons e rest ih =>
    obtain ⟨f, a⟩ := e
    have hcons : placedFrom start ((f, a) :: rest) = ⟨start, f, a⟩ :: placedFrom (start + 1) rest :=
      rfl
    have hbehind : (placedFrom start ((f, a) :: rest)).filter (fun y => start < y.place) =
        placedFrom (start + 1) rest := by
      rw [hcons, List.filter_cons_of_neg (by simp), List.filter_eq_self]
      intro y hy
      have hle := le_place_of_mem hy
      simp only [decide_eq_true_eq]
      omega
    have hlater : ∀ e ∈ rest.zipIdx (start + 1),
        ((placedFrom start ((f, a) :: rest)).filter fun y => e.2 < y.place) =
          (placedFrom (start + 1) rest).filter fun y => e.2 < y.place := by
      intro e he
      have hle := (List.mem_zipIdx he).1
      rw [hcons, List.filter_cons_of_neg]
      simp only [decide_eq_true_eq]
      omega
    rw [List.zipIdx_cons, List.flatMap_cons, closePairs, hbehind, near_placedFrom,
      ← ih (start + 1)]
    congr 1
    exact List.flatMap_congr fun e he => by rw [hlater e he]

/-- The pairs of near items are those of the list of items. -/
lemma pairs_eq_closePairs (t : MetricTree α) (radius : Nat) :
    t.pairs radius = closePairs radius t.entries := by
  rw [pairs, ← flatMap_near_placedFrom radius 0 t.entries]
  simp only [laterHits_eq_near]
  rfl

/-- Every tree is sound. -/
lemma isSound_eq_true (t : MetricTree α) : t.isSound = true := by
  have hperm := t.walk_perm_placed
  unfold isSound
  unfold walk at hperm
  cases hroot : t.root with
  | none =>
    rw [hroot] at hperm
    have hempty := hperm.length_eq
    simp only [Option.elim_none, List.length_nil, placed, placedFrom, List.length_map,
      List.length_zipIdx] at hempty
    exact List.isEmpty_iff_length_eq_zero.2 hempty.symm
  | some n =>
    rw [hroot] at hperm
    have hplaces : t.placed.map (·.place) = List.range t.size := by
      rw [placed, placedFrom, List.map_map, List.range_eq_range']
      exact List.zipIdx_map_snd 0 t.entries
    have hall := hperm.map (·.place)
    rw [hplaces] at hall
    simp only [Bool.and_eq_true, List.isPerm_iff]
    exact ⟨MetricNode.isLabelled_of_isSpaced (t.isSpaced_root n hroot), hall⟩

end MetricTree

end Lookalike
