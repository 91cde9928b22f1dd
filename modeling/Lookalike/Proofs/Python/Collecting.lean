import Lookalike.Proofs.Python.Visits
import Lookalike.Proofs.Python.Walk

/-! ### Collecting over a walk

In a tree in which nothing hides inside imports and the like, the visits are to the trees that a
walk meets, in the same order. Its features can therefore be collected over a walk. -/

namespace Lookalike.Python

namespace SyntaxTree

/-- A list of the trees in a tree that holds what stands at each place once, in the order of the
places. -/
def IsTraversal (t : SyntaxTree) (trees : List SyntaxTree) : Prop :=
  ∃ places : List (List Nat), places.Pairwise (· < ·) ∧ (∀ p, p ∈ places ↔ (t.at? p).isSome) ∧
    trees.map some = places.map t.at?

/-- A walk is a traversal. -/
lemma isTraversal_walk (t : SyntaxTree) : t.IsTraversal t.walk :=
  ⟨t.places, pairwise_places t, fun p => mem_places_iff p t, walk_eq_at?_places t⟩

mutual

/-- If nothing is inside constructs of which the inside does not count, then the visits are to the
trees in pre-order. -/
theorem map_tree_visits : ∀ t : SyntaxTree,
    (∀ s ∈ t.preorder, s.construct.isClosed = true → s.children = []) →
      t.visits.map Visit.tree = t.preorder
  | .node c first last children, h => by
    rw [preorder, List.forall_mem_cons] at h
    obtain ⟨hroot, hchildren⟩ := h
    rw [visits, preorder, List.map_cons]
    cases hclosed : c.isClosed with
    | true =>
      obtain rfl : children = [] := hroot hclosed
      rfl
    | false =>
      have hbelow : ((visitsOfAll children).map (Visit.below c.levels)).map Visit.tree =
          (visitsOfAll children).map Visit.tree := List.map_map
      rw [if_neg Bool.false_ne_true, hbelow, map_tree_visitsOfAll children hchildren]

/-- Where nothing stands inside closed constructs, the trees that are visited are all trees in their
order. -/
theorem map_tree_visitsOfAll : ∀ ts : List SyntaxTree,
    (∀ s ∈ preorderOfAll ts, s.construct.isClosed = true → s.children = []) →
      (visitsOfAll ts).map Visit.tree = preorderOfAll ts
  | [], _ => rfl
  | t :: rest, h => by
    rw [preorderOfAll, List.forall_mem_append] at h
    rw [visitsOfAll, preorderOfAll, List.map_append, map_tree_visits t h.1,
      map_tree_visitsOfAll rest h.2]

end

end SyntaxTree

/-- A class with an import, a function with types and a call. -/
def importingClass : SyntaxTree :=
  .node (.class ⟨"Clock", ["Base"], 0⟩) 1 5
    [.node (.imports ["time", "math"]) 2 2 [],
      .node (.assignment [.name "zone"] (some .text)) 3 3 [],
      .node (.function ⟨"now", [⟨"self", none⟩, ⟨"precise", some "bool"⟩], false, false, 0,
          some "float", false⟩) 4 5
        [.node (.return (some .call)) 5 5
          [.node (.call (.method (some "time") "time") 0 0) 5 5 []]]]

end Lookalike.Python
