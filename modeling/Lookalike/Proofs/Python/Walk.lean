import Mathlib.Data.List.Basic
import Mathlib.Tactic.Lemma
import Lookalike.Python.SyntaxTree

/-! ### Walks

A walk keeps the trees that are still to be visited in a list. It meets the trees in pre-order: a
tree comes before those inside it, and these come from the first child to the last. Hence it meets
what stands at each place in a tree exactly once, in the order of the places. -/

namespace Lookalike.Python.SyntaxTree

/-! #### Pre-order -/

mutual

/-- All trees in a tree: the tree itself, and then those in its children, one child after
another. -/
def preorder : SyntaxTree → List SyntaxTree
  | .node c first last children => .node c first last children :: preorderOfAll children

/-- All trees in some trees, one after another. -/
def preorderOfAll : List SyntaxTree → List SyntaxTree
  | [] => []
  | t :: rest => t.preorder ++ preorderOfAll rest

end

/-- The trees in a tree are itself and those inside it. -/
lemma preorder_eq (t : SyntaxTree) : t.preorder = t :: preorderOfAll t.children := by
  cases t
  rw [preorder, children]

/-- The trees in some trees are those in each of them. -/
lemma preorderOfAll_eq_flatMap (ts : List SyntaxTree) : preorderOfAll ts = ts.flatMap preorder := by
  induction ts with
  | nil => rfl
  | cons t ts ih => rw [preorderOfAll, ih, List.flatMap_cons]

/-- The trees that are still to be visited are met in pre-order, one after another. -/
lemma walkFrom_eq (pending : List SyntaxTree) : walkFrom pending = preorderOfAll pending := by
  induction pending using walkFrom.induct with
  | case1 => rw [walkFrom, preorderOfAll]
  | case2 t rest ih =>
    rw [walkFrom, ih, preorderOfAll, preorder_eq, preorderOfAll_eq_flatMap, List.flatMap_append,
      ← preorderOfAll_eq_flatMap, ← preorderOfAll_eq_flatMap, List.cons_append]

/-- A walk meets the trees in pre-order. -/
theorem walk_eq_preorder (t : SyntaxTree) : t.walk = t.preorder := by
  rw [walk, walkFrom_eq, preorderOfAll, preorderOfAll, List.append_nil]

/-- A walk meets a tree first and then goes through its children. -/
lemma walk_eq_cons (t : SyntaxTree) : t.walk = t :: t.children.flatMap walk := by
  rw [walk_eq_preorder, preorder_eq, preorderOfAll_eq_flatMap, funext walk_eq_preorder]

/-! #### Places -/

/-- What stands at a place in a tree. A place says which child to go to, step by step from the
root. -/
def at? (t : SyntaxTree) : List Nat → Option SyntaxTree
  | [] => some t
  | i :: place => t.children[i]?.bind fun child => child.at? place

mutual

/-- The places in a tree. -/
def places : SyntaxTree → List (List Nat)
  | .node _ _ _ children => [] :: placesFrom 0 children

/-- The places in some children, of which the first has the given number. -/
def placesFrom (i : Nat) : List SyntaxTree → List (List Nat)
  | [] => []
  | t :: rest => t.places.map (i :: ·) ++ placesFrom (i + 1) rest

end

/-- A place below a tree is a place in one of its children. -/
lemma at?_node_cons (c : Construct) (first last : Nat) (children : List SyntaxTree) (i : Nat)
    (place : List Nat) :
    (SyntaxTree.node c first last children).at? (i :: place) =
      children[i]?.bind fun child => child.at? place :=
  rfl

/-- A place in a child is in one of the children. -/
lemma mem_placesFrom (p : List Nat) : ∀ (i : Nat) (ts : List SyntaxTree),
    p ∈ placesFrom i ts ↔ ∃ n t q, ts[n]? = some t ∧ q ∈ t.places ∧ p = (i + n) :: q
  | i, [] => by simp [placesFrom]
  | i, t :: rest => by
    rw [placesFrom, List.mem_append, List.mem_map, mem_placesFrom p (i + 1) rest]
    constructor
    · rintro (⟨q, hq, rfl⟩ | ⟨n, s, q, hs, hq, rfl⟩)
      · exact ⟨0, t, q, rfl, hq, rfl⟩
      · exact ⟨n + 1, s, q, hs, hq, by rw [Nat.add_right_comm, Nat.add_assoc]⟩
    · rintro ⟨n, s, q, hs, hq, rfl⟩
      cases n with
      | zero =>
        obtain rfl : t = s := Option.some.inj hs
        exact .inl ⟨q, hq, rfl⟩
      | succ n => exact .inr ⟨n, s, q, hs, hq, by rw [Nat.add_right_comm, Nat.add_assoc]⟩

/-- The places in a tree are those at which something stands. -/
lemma mem_places_iff (p : List Nat) (t : SyntaxTree) : p ∈ t.places ↔ (t.at? p).isSome := by
  induction p generalizing t with
  | nil =>
    cases t
    simp [places, at?]
  | cons i q ih =>
    cases t with
    | node c first last children =>
      rw [places, at?_node_cons, Option.isSome_bind]
      simp only [List.mem_cons, reduceCtorEq, false_or, mem_placesFrom, Nat.zero_add,
        List.cons.injEq]
      rw [Option.any_eq_true]
      constructor
      · rintro ⟨_, s, _, hs, hq, rfl, rfl⟩
        exact ⟨s, hs, (ih s).1 hq⟩
      · rintro ⟨s, hs, hq⟩
        exact ⟨i, s, q, hs, (ih s).2 hq, rfl, rfl⟩

mutual

/-- The places in a tree ascend. -/
theorem pairwise_places : ∀ t : SyntaxTree, t.places.Pairwise (· < ·)
  | .node _ _ _ children => by
    rw [places, List.pairwise_cons]
    refine ⟨fun p hp => ?_, pairwise_placesFrom 0 children⟩
    obtain ⟨n, t, q, -, -, rfl⟩ := (mem_placesFrom p 0 children).1 hp
    exact List.nil_lt_cons _ _

/-- The places in some trees come in their order. -/
theorem pairwise_placesFrom :
    ∀ (i : Nat) (ts : List SyntaxTree), (placesFrom i ts).Pairwise (· < ·)
  | _, [] => List.Pairwise.nil
  | i, t :: rest => by
    rw [placesFrom, List.pairwise_append]
    refine ⟨?_, pairwise_placesFrom (i + 1) rest, ?_⟩
    · rw [List.pairwise_map]
      exact (pairwise_places t).imp fun h => List.cons_lt_cons_iff.2 (.inr ⟨rfl, h⟩)
    · intro p hp p' hp'
      obtain ⟨q, -, rfl⟩ := List.mem_map.1 hp
      obtain ⟨n, s, q', -, -, rfl⟩ := (mem_placesFrom p' (i + 1) rest).1 hp'
      exact List.cons_lt_cons_iff.2 (.inl (by omega))

end

mutual

/-- What stands at the places in a tree are its trees in pre-order. -/
theorem map_at?_places : ∀ t : SyntaxTree, t.places.map t.at? = t.preorder.map some
  | .node c first last children => by
    rw [places, preorder, List.map_cons, List.map_cons]
    exact congrArg _ (map_at?_placesFrom c first last [] children)

/-- At the places in some trees stand all trees in them, one by one. -/
theorem map_at?_placesFrom (c : Construct) (first last : Nat) :
    ∀ before ts : List SyntaxTree,
      (placesFrom before.length ts).map (SyntaxTree.node c first last (before ++ ts)).at? =
        (preorderOfAll ts).map some
  | _, [] => rfl
  | before, t :: rest => by
    have hrest := map_at?_placesFrom c first last (before ++ [t]) rest
    rw [List.length_append, List.length_singleton, List.append_assoc, List.singleton_append]
      at hrest
    have hchild (p : List Nat) :
        (SyntaxTree.node c first last (before ++ t :: rest)).at? (before.length :: p) =
          t.at? p := by
      simp [at?_node_cons]
    rw [placesFrom, preorderOfAll, List.map_append, List.map_append, hrest, List.map_map,
      ← map_at?_places t]
    exact congrArg (· ++ _) (List.map_congr_left fun p _ => hchild p)

end

/-- A walk meets what stands at each place exactly once, in the order of the places. -/
theorem walk_eq_at?_places (t : SyntaxTree) : t.walk.map some = t.places.map t.at? := by
  rw [map_at?_places, walk_eq_preorder]

end Lookalike.Python.SyntaxTree
