import Mathlib.Data.List.FinRange
import Mathlib.Data.List.ProdSigma
import Lookalike.Proofs.Fingerprint.MetricTree

/-! ### Near pairs of a tree

A tree changes by putting items in, by leaving out those that fail a test, and by losing all of
them; its items are those of a list that changes in the same way. The near pairs of a tree are what
two nested loops over that list find: the pairs of places of which the second comes after the first
and whose fingerprints are near, in the order of the first place and then of the second. -/

namespace Lookalike

/-- A change of a tree or of a list of items. -/
inductive ItemChange (α : Type) where
  | insert (f : Fingerprint) (a : α)
  | filter (keep : α → Bool)
  | clear

namespace ItemChange

variable {α : Type}

/-- A tree after a change. -/
def onTree (t : MetricTree α) : ItemChange α → MetricTree α
  | .insert f a => t.insert f a
  | .filter keep => t.filter keep
  | .clear => .empty

/-- A list of items after a change. -/
def onList (entries : List (Fingerprint × α)) : ItemChange α → List (Fingerprint × α)
  | .insert f a => entries ++ [(f, a)]
  | .filter keep => entries.filter fun e => keep e.2
  | .clear => []

/-- A change does to the items of a tree what it does to a list. -/
lemma entries_onTree (t : MetricTree α) (c : ItemChange α) :
    (c.onTree t).entries = c.onList t.entries := by
  cases c <;> rfl

/-- Changes one after another do to the items of a tree what they do to a list. -/
lemma entries_foldl_onTree (changes : List (ItemChange α)) (t : MetricTree α) :
    (changes.foldl onTree t).entries = changes.foldl onList t.entries := by
  induction changes generalizing t with
  | nil => rfl
  | cons c rest ih => rw [List.foldl_cons, ih, entries_onTree, List.foldl_cons]

end ItemChange

namespace MetricTree

variable {α : Type}

/-! #### Places two by two -/

/-- The distance of the fingerprints at two places of a list of items. -/
def placeDistance (entries : List (Fingerprint × α)) (p : Fin entries.length × Fin entries.length) :
    Nat :=
  (entries.get p.1).1.distance (entries.get p.2).1

/-- The places of a list of items two by two, the second after the first, whose fingerprints are
within a radius of each other. -/
def nearPlaces (radius : Nat) (entries : List (Fingerprint × α)) :
    List (Fin entries.length × Fin entries.length) :=
  (List.finRange entries.length ×ˢ List.finRange entries.length).filter fun p =>
    decide (p.1 < p.2) && decide (placeDistance entries p ≤ radius)

/-- The items at two places with their distance. -/
def pairAt (entries : List (Fingerprint × α)) (p : Fin entries.length × Fin entries.length) :
    α × α × Nat :=
  ((entries.get p.1).2, (entries.get p.2).2, placeDistance entries p)

/-- Of two places the first decides on their order, and then the second. -/
def PlacesLt {n : Nat} (p q : Fin n × Fin n) : Prop :=
  p.1 < q.1 ∨ p.1 = q.1 ∧ p.2 < q.2

/-- Two nested loops run through the places two by two in their order. -/
lemma pairwise_placesLt (n : Nat) :
    (List.finRange n ×ˢ List.finRange n).Pairwise PlacesLt := by
  have hlt := List.pairwise_lt_finRange n
  refine List.pairwise_flatMap.2 ⟨fun i _ => ?_, hlt.imp fun {i j} hij p hp q hq => ?_⟩
  · rw [List.pairwise_map]
    exact hlt.imp fun h => .inr ⟨rfl, h⟩
  · obtain ⟨_, -, rfl⟩ := List.mem_map.1 hp
    obtain ⟨_, -, rfl⟩ := List.mem_map.1 hq
    exact .inl hij

/-- The pairs of places beyond the first one of a longer list are those of the rest. -/
lemma nearPlaces_cons (radius : Nat) (e : Fingerprint × α) (rest : List (Fingerprint × α)) :
    nearPlaces radius (e :: rest) =
      ((List.finRange rest.length).filter fun j => e.1.distance (rest.get j).1 ≤ radius).map
          (fun j => (0, j.succ)) ++
        (nearPlaces radius rest).map fun p => (p.1.succ, p.2.succ) := by
  have hfirst :
      ((List.finRange (rest.length + 1)).map fun j => ((0 : Fin (rest.length + 1)), j)).filter
          (fun p => decide (p.1 < p.2) && decide (placeDistance (e :: rest) p ≤ radius)) =
        ((List.finRange rest.length).filter fun j => e.1.distance (rest.get j).1 ≤ radius).map
          (fun j => (0, j.succ)) := by
    rw [List.finRange_succ, List.map_cons, List.filter_cons_of_neg (by simp), List.map_map,
      List.filter_map]
    simp only [Function.comp_def, Fin.succ_pos, decide_true, Bool.true_and]
    rfl
  have hlater : ((List.finRange rest.length).map Fin.succ ×ˢ List.finRange (rest.length + 1)).filter
      (fun p => decide (p.1 < p.2) && decide (placeDistance (e :: rest) p ≤ radius)) =
        (nearPlaces radius rest).map fun p => (p.1.succ, p.2.succ) := by
    rw [nearPlaces, List.finRange_succ]
    simp only [SProd.sprod, List.product, List.flatMap_map, List.filter_flatMap, List.map_flatMap]
    refine List.flatMap_congr fun i _ => ?_
    rw [List.map_cons, List.filter_cons_of_neg (by simp)]
    simp only [List.map_map, List.filter_map, Function.comp_def, Fin.succ_lt_succ_iff]
    rfl
  have hplaces : List.finRange (e :: rest).length ×ˢ List.finRange (e :: rest).length =
      ((List.finRange (rest.length + 1)).map fun j => ((0 : Fin (rest.length + 1)), j)) ++
        (List.finRange rest.length).map Fin.succ ×ˢ List.finRange (rest.length + 1) := by
    change List.finRange (rest.length + 1) ×ˢ List.finRange (rest.length + 1) = _
    conv_lhs => lhs; rw [List.finRange_succ]
    exact List.product_cons ..
  rw [nearPlaces, hplaces, List.filter_append, hfirst, hlater]

/-- The near pairs of a list are the items at the near places. -/
lemma closePairs_eq_map (radius : Nat) (entries : List (Fingerprint × α)) :
    closePairs radius entries = (nearPlaces radius entries).map (pairAt entries) := by
  induction entries with
  | nil => rfl
  | cons e rest ih =>
    obtain ⟨f, a⟩ := e
    have hbehind : (rest.filter fun e => f.distance e.1 ≤ radius).map
        (fun e => (a, e.2, f.distance e.1)) =
        (((List.finRange rest.length).filter fun j => f.distance (rest.get j).1 ≤ radius).map
          fun j => (0, j.succ)).map (pairAt ((f, a) :: rest)) := by
      conv_lhs => rw [← List.map_get_finRange rest]
      rw [List.filter_map, List.map_map, List.map_map]
      rfl
    have hlater : (nearPlaces radius rest).map (pairAt rest) =
        ((nearPlaces radius rest).map fun p => (p.1.succ, p.2.succ)).map
          (pairAt ((f, a) :: rest)) := by
      rw [List.map_map]
      rfl
    rw [closePairs, nearPlaces_cons, List.map_append, hbehind, ih, hlater]

/-- **Near pairs**: after any changes the items of a tree are those of a list that was changed in
the same way. The near pairs of every tree are what two nested loops over its items find, each of
them once and in the order of the places: an item with all items behind it that are within the
radius, and with their distance. -/
theorem pairs_eq_nestedLoops :
    (∀ changes : List (ItemChange α),
      (changes.foldl ItemChange.onTree .empty).entries = changes.foldl ItemChange.onList []) ∧
    ∀ (t : MetricTree α) (radius : Nat),
      t.pairs radius = (nearPlaces radius t.entries).map (pairAt t.entries) ∧
        (nearPlaces radius t.entries).Pairwise PlacesLt ∧
        ∀ p, p ∈ nearPlaces radius t.entries ↔ p.1 < p.2 ∧ placeDistance t.entries p ≤ radius := by
  refine ⟨fun changes => ItemChange.entries_foldl_onTree changes .empty, fun t radius => ?_⟩
  refine ⟨?_, ?_, ?_⟩
  · rw [pairs_eq_closePairs, closePairs_eq_map]
  · exact (pairwise_placesLt t.entries.length).filter _
  · rintro ⟨i, j⟩
    simp [nearPlaces, List.mem_product]

example : (ofList [(⟨42⟩, 'a'), (⟨42⟩, 'b'), (⟨43⟩, 'c')]).pairs 0 = [('a', 'b', 0)] := by
  decide +kernel

end MetricTree

end Lookalike
