import Mathlib.Data.List.Nodup
import Lookalike.Proofs.Decimal.Order
import Lookalike.Proofs.Fingerprint.Distance
import Lookalike.Proofs.Ordered.Sorting
import Lookalike.Proofs.Progress
import Lookalike.Proofs.Similarity
import Lookalike.Registry.Search

/-! ### Scoring pairs of records

A pair of similar records comes out the same whichever of the two is met first: its similarity is
symmetric, and the lesser name is put first. The order in which the records of a registry are
compared is therefore lost when the pairs are sorted, and so is the order in which they came in. -/

namespace Lookalike

open Python

/-! #### One pair -/

/-- Two records are versions of one unit in either order. -/
lemma Record.sameIdentity_comm (a b : Record) : a.sameIdentity b = b.sameIdentity a := by
  simp only [sameIdentity, eq_comm]

/-- The pair of two records does not depend on their order. -/
lemma pairOf_swap (threshold : Float) (distinct : Bool) (a b : Record) :
    pairOf threshold distinct (a, b) = pairOf threshold distinct (b, a) := by
  have hids : decide (a.id = b.id) = decide (b.id = a.id) := decide_eq_decide.2 eq_comm
  unfold pairOf
  dsimp only
  rw [similarity_comm a.unit.features, a.sameIdentity_comm, hids]
  split
  · rfl
  · rename_i hne
    split
    · rfl
    · have hid : a.id ≠ b.id := by
        intro heq
        simp [heq] at hne
      split
      · rename_i hab
        rw [if_neg fun hba => hid (String.le_antisymm hab hba)]
      · rename_i hab
        rw [if_pos (String.not_lt.1 (String.lt_asymm (String.not_le.1 hab)))]

/-- A pair of records in a list, with their similarity. -/
structure Pair.IsOf (records : List Record) (p : Pair) : Prop where
  fst_mem : p.a ∈ records
  snd_mem : p.b ∈ records
  similarity_eq : p.similarity = Lookalike.similarity p.a.unit.features p.b.unit.features

/-- The pair of two records has them at its ends. -/
lemma ends_of_pairOf_eq_some {threshold : Float} {distinct : Bool} {a b : Record} {p : Pair}
    (h : pairOf threshold distinct (a, b) = some p) :
    (p.a = a ∧ p.b = b ∨ p.a = b ∧ p.b = a) ∧
      p.similarity = similarity p.a.unit.features p.b.unit.features := by
  unfold pairOf at h
  dsimp only at h
  split at h
  · cases h
  · split at h
    · cases h
    · split at h
      · obtain rfl := Option.some.inj h
        exact ⟨.inl ⟨rfl, rfl⟩, rfl⟩
      · obtain rfl := Option.some.inj h
        exact ⟨.inr ⟨rfl, rfl⟩, similarity_comm _ _⟩

/-- The records of a pair have different names. -/
lemma id_ne_of_pairOf_eq_some {threshold : Float} {distinct : Bool} {c : Record × Record}
    {p : Pair} (h : pairOf threshold distinct c = some p) : p.a.id ≠ p.b.id := by
  obtain ⟨a, b⟩ := c
  have hne : a.id ≠ b.id := by
    intro heq
    simp [pairOf, heq] at h
  obtain ⟨⟨ha, hb⟩ | ⟨ha, hb⟩, -⟩ := ends_of_pairOf_eq_some h
  · rwa [ha, hb]
  · rw [ha, hb]
    exact hne.symm

/-! #### All pairs -/

/-- A record of a pair of records in a list is in the list. -/
lemma mem_of_mem_allPairs {xs : List Record} {c : Record × Record} (h : c ∈ allPairs xs) :
    c.1 ∈ xs ∧ c.2 ∈ xs := by
  induction xs with
  | nil => cases h
  | cons x rest ih =>
    rw [allPairs, List.mem_append, List.mem_map] at h
    obtain ⟨y, hy, rfl⟩ | hrest := h
    · exact ⟨List.mem_cons_self, List.mem_cons_of_mem _ hy⟩
    · obtain ⟨hfst, hsnd⟩ := ih hrest
      exact ⟨List.mem_cons_of_mem _ hfst, List.mem_cons_of_mem _ hsnd⟩

/-- What is made of all pairs in either order does not depend on the order of the records. -/
lemma filterMap_allPairs_perm {β : Type} {f : Record × Record → Option β}
    (hf : ∀ a b, f (a, b) = f (b, a)) {xs ys : List Record} (h : xs.Perm ys) :
    ((allPairs xs).filterMap f).Perm ((allPairs ys).filterMap f) := by
  induction h with
  | nil => exact .nil
  | cons x hxs ih =>
    rw [allPairs, allPairs, List.filterMap_append, List.filterMap_append]
    exact ((hxs.map _).filterMap f).append ih
  | swap x y rest =>
    simp only [allPairs, List.map_cons, List.filterMap_append, List.cons_append,
      List.filterMap_cons, hf y x]
    have hrest := List.perm_append_comm_assoc ((rest.map fun b => (y, b)).filterMap f)
      ((rest.map fun b => (x, b)).filterMap f) ((allPairs rest).filterMap f)
    cases f (x, y) with
    | none => exact hrest
    | some b => exact hrest.cons b
  | trans _ _ ih ih' => exact ih.trans ih'

/-- How many of all pairs pass a test in either order does not depend on the order of the
records. -/
lemma length_filter_allPairs_eq_of_perm {p : Record × Record → Bool}
    (hp : ∀ a b, p (a, b) = p (b, a)) {xs ys : List Record} (h : xs.Perm ys) :
    ((allPairs xs).filter p).length = ((allPairs ys).filter p).length := by
  have hunits := (filterMap_allPairs_perm (f := fun c => if p c then some () else none)
    (fun a b => by rw [hp]) h).length_eq
  rw [← List.filterMap_filter, ← List.filterMap_filter] at hunits
  simpa using hunits

/-! #### Near pairs -/

/-- Whether the fingerprints of two records are within a radius of each other. -/
def areWithin (radius : Nat) (c : Record × Record) : Bool :=
  c.1.fingerprint.distance c.2.fingerprint ≤ radius

/-- Whether the fingerprints of a pair are within a radius of each other. -/
def Pair.isWithin (radius : Nat) (p : Pair) : Bool :=
  p.a.fingerprint.distance p.b.fingerprint ≤ radius

/-- Two records are within a radius of each other in either order. -/
lemma areWithin_swap (radius : Nat) (a b : Record) :
    areWithin radius (a, b) = areWithin radius (b, a) := by
  rw [areWithin, areWithin, a.fingerprint.distance_comm]

/-- The near pairs are those of near candidates. -/
lemma filter_filterMap_pairOf (candidates : List (Record × Record)) (threshold : Float)
    (distinct : Bool) (radius : Nat) :
    (candidates.filterMap (pairOf threshold distinct)).filter (Pair.isWithin radius) =
      (candidates.filter (areWithin radius)).filterMap (pairOf threshold distinct) := by
  rw [List.filterMap_filter, List.filter_filterMap]
  refine List.filterMap_congr fun c _ => ?_
  obtain ⟨a, b⟩ := c
  cases hp : pairOf threshold distinct (a, b) with
  | none => simp
  | some p =>
    have hwithin : p.isWithin radius = areWithin radius (a, b) := by
      obtain ⟨⟨rfl, rfl⟩ | ⟨rfl, rfl⟩, -⟩ := ends_of_pairOf_eq_some hp
      · rfl
      · exact areWithin_swap radius p.a p.b
    rw [Option.filter_some, hwithin]

/-! #### Sorted pairs -/

instance : Std.TransCmp Pair.compare :=
  inferInstanceAs (Std.TransCmp (compareLex
    (compareLex (fun p q : Pair => Binary64.totalCompare q.similarity p.similarity)
      (compareOn fun p : Pair => p.a.id))
    (compareOn fun p : Pair => p.b.id)))

/-- Pairs of records with different names are told apart by their order. -/
lemma separates_pairs {records : List Record} (hids : (records.map (·.id)).Nodup)
    {pairs : List Pair} (h : ∀ p ∈ pairs, p.IsOf records) : Sorting.Separates Pair.le pairs := by
  intro p hp q hq hpq hqp
  have heq : p.compare q = .eq := Sorting.eq_of_isLE_of_isLE Pair.compare hpq hqp
  rw [Pair.compare, Ordering.then_eq_eq, Ordering.then_eq_eq] at heq
  obtain ⟨⟨-, hfst⟩, hsnd⟩ := heq
  have ha : p.a = q.a := List.inj_on_of_nodup_map hids (h p hp).fst_mem (h q hq).fst_mem
    (Std.LawfulEqOrd.eq_of_compare hfst)
  have hb : p.b = q.b := List.inj_on_of_nodup_map hids (h p hp).snd_mem (h q hq).snd_mem
    (Std.LawfulEqOrd.eq_of_compare hsnd)
  have hs : p.similarity = q.similarity := by
    rw [(h p hp).similarity_eq, (h q hq).similarity_eq, ha, hb]
  exact Pair.ext ha hb hs

/-- The similar pairs among some candidates, the most similar first. -/
def similarPairs (candidates : List (Record × Record)) (threshold : Float) (distinct : Bool) :
    List Pair :=
  (candidates.filterMap (pairOf threshold distinct)).mergeSort Pair.le

/-- The records of a similar pair have different names. -/
lemma id_ne_of_mem_similarPairs {candidates : List (Record × Record)} {threshold : Float}
    {distinct : Bool} {p : Pair} (h : p ∈ similarPairs candidates threshold distinct) :
    p.a.id ≠ p.b.id := by
  obtain ⟨c, -, hc⟩ := List.mem_filterMap.1 (List.mem_mergeSort.1 h)
  exact id_ne_of_pairOf_eq_some hc

/-- Scoring some candidates gives the similar pairs among them if it comes to its end. -/
lemma scorePairs_eq (candidates : List (Record × Record)) (threshold : Float) (distinct : Bool)
    (watch : Watch) (notices : List Notice) :
    scorePairs candidates threshold distinct watch notices =
      (if (course watch candidates.length 0 candidates.length notices).1 then
        .ok (similarPairs candidates threshold distinct)
      else .error .cancelled,
      (course watch candidates.length 0 candidates.length notices).2) := by
  unfold scorePairs
  rw [runSteps_eq_course]
  split
  · rename_i hcourse
    split at hcourse <;> simp_all [similarPairs]
  · rename_i hcourse
    split at hcourse <;> simp_all

/-- The pairs among all records are pairs of them. -/
lemma isOf_of_mem_filterMap_allPairs {xs : List Record} {threshold : Float} {distinct : Bool}
    {p : Pair} (h : p ∈ (allPairs xs).filterMap (pairOf threshold distinct)) : p.IsOf xs := by
  obtain ⟨⟨a, b⟩, hab, hp⟩ := List.mem_filterMap.1 h
  obtain ⟨ha, hb⟩ := mem_of_mem_allPairs hab
  obtain ⟨⟨hpa, hpb⟩ | ⟨hpa, hpb⟩, hs⟩ := ends_of_pairOf_eq_some hp
  · exact ⟨hpa ▸ ha, hpb ▸ hb, hs⟩
  · exact ⟨hpa ▸ hb, hpb ▸ ha, hs⟩

/-- Candidates whose fingerprints are too far apart may be left out before scoring or after it. -/
lemma similarPairs_filter {xs : List Record} (hids : (xs.map (·.id)).Nodup) (threshold : Float)
    (distinct : Bool) (radius : Nat) :
    similarPairs ((allPairs xs).filter (areWithin radius)) threshold distinct =
      (similarPairs (allPairs xs) threshold distinct).filter (Pair.isWithin radius) := by
  rw [similarPairs, similarPairs, ← filter_filterMap_pairOf]
  exact Sorting.filter_mergeSort (Sorting.isLE_trans Pair.compare)
    (Sorting.isLE_total Pair.compare) _
    (separates_pairs hids fun _ hp => isOf_of_mem_filterMap_allPairs hp)

/-- The similar pairs among all records do not depend on the order of the records. -/
lemma similarPairs_congr {xs ys : List Record} (h : xs.Perm ys) (hids : (ys.map (·.id)).Nodup)
    (threshold : Float) (distinct : Bool) :
    similarPairs (allPairs xs) threshold distinct =
      similarPairs (allPairs ys) threshold distinct :=
  Sorting.mergeSort_congr (Sorting.isLE_trans Pair.compare) (Sorting.isLE_total Pair.compare)
    (filterMap_allPairs_perm (pairOf_swap threshold distinct) h)
    (separates_pairs hids fun _ hp => isOf_of_mem_filterMap_allPairs hp)

end Lookalike
