import Mathlib.Data.List.Nodup
import Mathlib.Data.List.Sort
import Mathlib.Data.Set.Function
import Lookalike.Ordered.TextSet
import Lookalike.Store.Basic

/-! ### Maps and sets as lists

What the operations of a map do to its list of entries and to its list of values. An entry whose
key is new comes into its place among the others, one whose key is greater than all others comes
last, and a map or a set is what its own list makes. -/

namespace Lookalike

/-! #### Entries -/

/-- An entry with the greatest key comes last. -/
lemma putEntry_of_forall_lt {α : Type} {key : String} {value : α} :
    {entries : List (String × α)} → (∀ e ∈ entries, e.1 < key) →
    putEntry key value entries = entries ++ [(key, value)]
  | [], _ => rfl
  | (k, v) :: rest, h => by
    have hk : k < key := h (k, v) List.mem_cons_self
    have hrest : putEntry key value rest = rest ++ [(key, value)] :=
      putEntry_of_forall_lt fun e he => h e (List.mem_cons_of_mem _ he)
    rw [putEntry, if_neg (String.lt_asymm hk), if_neg (String.ne_of_lt hk).symm, hrest]
    rfl

/-- An entry with a new key comes in beside the others. -/
lemma putEntry_perm {α : Type} {key : String} {value : α} :
    {entries : List (String × α)} → (∀ e ∈ entries, e.1 ≠ key) →
    (putEntry key value entries).Perm ((key, value) :: entries)
  | [], _ => List.Perm.refl _
  | (k, v) :: rest, h => by
    have hk : k ≠ key := h (k, v) List.mem_cons_self
    have hrest : (putEntry key value rest).Perm ((key, value) :: rest) :=
      putEntry_perm fun e he => h e (List.mem_cons_of_mem _ he)
    rw [putEntry, if_neg (fun heq : key = k => hk heq.symm)]
    split
    · exact List.Perm.refl _
    · exact (hrest.cons _).trans (List.Perm.swap _ _ _)

/-- Behind a key stands what was put there last. -/
lemma find?_putEntry {α : Type} (key id : String) (value : α) (entries : List (String × α)) :
    ((putEntry key value entries).find? (·.1 = id)).map (·.2) =
      if key = id then some value else (entries.find? (·.1 = id)).map (·.2) := by
  induction entries with
  | nil => by_cases hid : key = id <;> simp [putEntry, hid]
  | cons e rest ih =>
    obtain ⟨k, v⟩ := e
    rw [putEntry]
    split
    · by_cases hid : key = id <;> simp [hid]
    · split
      · rename_i hkey
        subst hkey
        by_cases hid : key = id <;> simp [hid]
      · rename_i hkey
        by_cases hk : k = id
        · have hid : ¬ key = id := fun h => hkey (h.trans hk.symm)
          simp [hk, hid]
        · simpa [hk] using ih

/-- What is put behind a key last counts. -/
lemma putEntry_putEntry {α : Type} (key : String) (value value' : α)
    (entries : List (String × α)) :
    putEntry key value' (putEntry key value entries) = putEntry key value' entries := by
  induction entries with
  | nil => simp [putEntry]
  | cons e rest ih =>
    obtain ⟨k, v⟩ := e
    by_cases hlt : key < k
    · simp [putEntry, hlt]
    · by_cases hkey : key = k
      · simp [putEntry, hkey]
      · simp [putEntry, hlt, hkey, ih]

/-- A new entry that does not pass a test does not show among those that do. -/
lemma filter_putEntry {α : Type} {key : String} {value : α} {keep : String × α → Bool}
    (hkeep : keep (key, value) = false) {entries : List (String × α)}
    (hnew : ∀ e ∈ entries, e.1 ≠ key) :
    (putEntry key value entries).filter keep = entries.filter keep := by
  induction entries with
  | nil => simp [putEntry, hkeep]
  | cons e rest ih =>
    obtain ⟨k, v⟩ := e
    obtain ⟨hk, hrest⟩ := List.forall_mem_cons.1 hnew
    rw [putEntry, if_neg (fun heq : key = k => hk heq.symm)]
    split
    · rw [List.filter_cons, hkeep, if_neg Bool.false_ne_true]
    · rw [List.filter_cons, ih hrest, List.filter_cons]

/-- A function of the values may be applied before an entry comes in or after it. -/
lemma putEntry_map {α β : Type} (f : α → β) (key : String) (value : α)
    (entries : List (String × α)) :
    putEntry key (f value) (entries.map fun e => (e.1, f e.2)) =
      (putEntry key value entries).map fun e => (e.1, f e.2) := by
  induction entries with
  | nil => rfl
  | cons e rest ih =>
    simp only [List.map_cons, putEntry]
    split
    · rfl
    · split
      · rfl
      · rw [ih, List.map_cons]

/-- Entries ascend if their keys do. -/
lemma ascending_iff_map_fst {α : Type} {entries : List (String × α)} :
    Ascending entries ↔ (entries.map (·.1)).Pairwise (· < ·) := by
  rw [Ascending, List.pairwise_map]

namespace TextMap

variable {α : Type}

/-- There is no value at a key that no entry has. -/
lemma get?_eq_none_iff {m : TextMap α} {key : String} :
    m.get? key = none ↔ ∀ e ∈ m.entries, e.1 ≠ key := by
  simp [get?]

/-- There is no value at a key that is not among the keys. -/
lemma get?_eq_none_iff_not_mem {m : TextMap α} {key : String} :
    m.get? key = none ↔ key ∉ m.keys := by
  rw [get?_eq_none_iff, keys, List.mem_map, not_exists]
  simp only [not_and, ne_eq]

/-- The keys are those at which there is a value. -/
lemma mem_keys_iff {m : TextMap α} {key : String} : key ∈ m.keys ↔ (m.get? key).isSome := by
  rw [← not_iff_not, ← get?_eq_none_iff_not_mem, Option.not_isSome_iff_eq_none]

/-- Two maps that have values at the same keys have the same keys in the same order. -/
lemma keys_eq_of_isSome_iff {β : Type} {m : TextMap α} {n : TextMap β}
    (h : ∀ key, (m.get? key).isSome ↔ (n.get? key).isSome) : m.keys = n.keys := by
  have hm : m.keys.Pairwise (· < ·) := ascending_iff_map_fst.1 m.ascending
  have hn : n.keys.Pairwise (· < ·) := ascending_iff_map_fst.1 n.ascending
  refine hm.eq_of_mem_iff hn fun key => ?_
  rw [mem_keys_iff, mem_keys_iff, h]

/-- A map contains the keys at which it has a value. -/
lemma contains_eq_isSome_get? (m : TextMap α) (key : String) :
    m.contains key = (m.get? key).isSome := by
  rw [contains, get?, Option.isSome_map, Bool.eq_iff_iff, List.any_eq_true, List.find?_isSome]

/-- The value at a key is what was put there last. -/
lemma get?_insert (m : TextMap α) (key id : String) (value : α) :
    (m.insert key value).get? id = if key = id then some value else m.get? id :=
  find?_putEntry key id value m.entries

/-- The value at a key after a list of entries has come in is that of the entries, if they have
one. -/
lemma get?_foldl_insert (entries : List (String × α)) (m : TextMap α) (key : String) :
    (entries.foldl (fun m (k, v) => m.insert k v) m).get? key =
      ((ofList entries).get? key).or (m.get? key) := by
  induction entries generalizing m with
  | nil => rfl
  | cons e rest ih =>
    have hinsert (n : TextMap α) :
        (n.insert e.1 e.2).get? key = ((empty.insert e.1 e.2).get? key).or (n.get? key) := by
      rw [get?_insert, get?_insert]
      split <;> rfl
    have hcons : (ofList (e :: rest)).get? key =
        ((ofList rest).get? key).or ((empty.insert e.1 e.2).get? key) := ih _
    rw [List.foldl_cons, ih, hinsert m, hcons, Option.or_assoc]

/-- The value at a key in the map of two lists of entries is that of the second list, if it has
one. -/
lemma get?_ofList_append (xs ys : List (String × α)) (key : String) :
    (ofList (xs ++ ys)).get? key = ((ofList ys).get? key).or ((ofList xs).get? key) := by
  rw [ofList, List.foldl_append, get?_foldl_insert]
  rfl

/-- An entry whose key comes before all others is put in front of them. -/
lemma entries_insert_of_forall_lt {m : TextMap α} {key : String}
    (h : ∀ e ∈ m.entries, key < e.1) (value : α) :
    (m.insert key value).entries = (key, value) :: m.entries := by
  change putEntry key value m.entries = (key, value) :: m.entries
  cases hm : m.entries with
  | nil => rfl
  | cons e rest => exact if_pos (h e (hm ▸ List.mem_cons_self))

/-- A new value that does not pass a test does not show among those that do. -/
lemma filter_insert {m : TextMap α} {key : String} {value : α} {keep : String → α → Bool}
    (hnew : m.get? key = none) (hkeep : keep key value = false) :
    (m.insert key value).filter keep = m.filter keep :=
  ext (filter_putEntry hkeep (get?_eq_none_iff.1 hnew))

/-- Putting in a value at a new key adds it to the values. -/
lemma values_insert_perm {m : TextMap α} {key : String} (h : m.get? key = none) (value : α) :
    (m.insert key value).values.Perm (value :: m.values) :=
  (putEntry_perm (get?_eq_none_iff.1 h)).map _

/-- A test of values leaves those values that pass it. -/
lemma values_filter (m : TextMap α) (keep : α → Bool) :
    (m.filter fun _ v => keep v).values = m.values.filter keep := by
  rw [values, values, filter, List.filter_map]
  rfl

/-- Two tests that agree on the entries leave the same map. -/
lemma filter_congr {m : TextMap α} {p q : String → α → Bool}
    (h : ∀ e ∈ m.entries, p e.1 e.2 = q e.1 e.2) : m.filter p = m.filter q :=
  ext (List.filter_congr h)

/-- One test after another is both at once. -/
lemma filter_filter (m : TextMap α) (p q : String → α → Bool) :
    (m.filter p).filter q = m.filter fun k v => p k v && q k v := by
  refine ext ?_
  simp only [filter, List.filter_filter]
  exact List.filter_congr fun e _ => Bool.and_comm _ _

/-- A test that all entries pass changes nothing. -/
lemma filter_eq_self {m : TextMap α} {p : String → α → Bool}
    (h : ∀ e ∈ m.entries, p e.1 e.2 = true) : m.filter p = m :=
  ext (List.filter_eq_self.2 h)

/-- A test that leaves as many entries as there were leaves all of them. -/
lemma filter_eq_self_of_size_eq {m : TextMap α} {p : String → α → Bool}
    (h : (m.filter p).size = m.size) : m.filter p = m :=
  ext (List.filter_sublist.eq_of_length h)

/-- A value that a map has at a key is in an entry of that key. -/
lemma mem_entries_of_get?_eq_some {m : TextMap α} {key : String} {value : α}
    (h : m.get? key = some value) : (key, value) ∈ m.entries := by
  obtain ⟨e, he, rfl⟩ := Option.map_eq_some_iff.1 h
  obtain rfl : e.1 = key := of_decide_eq_true (List.find?_some he :)
  exact List.mem_of_find?_eq_some he

/-- The entries of a map are its keys with the values that are found at them. -/
lemma mem_entries_iff {m : TextMap α} {key : String} {value : α} :
    (key, value) ∈ m.entries ↔ m.get? key = some value := by
  refine ⟨fun h => ?_, mem_entries_of_get?_eq_some⟩
  have hkey : key ∈ m.keys := List.mem_map.2 ⟨_, h, rfl⟩
  obtain ⟨v, hv⟩ := Option.isSome_iff_exists.1 (mem_keys_iff.1 hkey)
  have hkeys : (m.entries.map (·.1)).Nodup :=
    (ascending_iff_map_fst.1 m.ascending).imp String.ne_of_lt
  have hsame := List.inj_on_of_nodup_map hkeys (mem_entries_of_get?_eq_some hv) h rfl
  rw [hv, (Prod.mk.inj hsame).2]

/-- The keys of a map ascend. -/
lemma keys_pairwise_lt (m : TextMap α) : m.keys.Pairwise (· < ·) :=
  ascending_iff_map_fst.1 m.ascending

section MapValues

variable {β : Type} (m : TextMap α) (f : α → β)

/-- The value at a key of a changed map is the changed value. -/
lemma get?_mapValues (key : String) : (m.mapValues f).get? key = (m.get? key).map f := by
  rw [get?, get?, mapValues, List.find?_map, Option.map_map, Option.map_map]
  rfl

/-- A changed map has values at the same keys. -/
lemma contains_mapValues (key : String) : (m.mapValues f).contains key = m.contains key := by
  rw [contains_eq_isSome_get?, contains_eq_isSome_get?, get?_mapValues, Option.isSome_map]

/-- A changed map has as many entries. -/
lemma size_mapValues : (m.mapValues f).size = m.size :=
  List.length_map _

/-- A changed value comes into a changed map. -/
lemma insert_mapValues (key : String) (value : α) :
    (m.mapValues f).insert key (f value) = (m.insert key value).mapValues f :=
  ext (putEntry_map f key value m.entries)

/-- Tests that agree before and after the change leave the same entries. -/
lemma filter_mapValues {p : String → β → Bool} {q : String → α → Bool}
    (h : ∀ key value, p key (f value) = q key value) :
    (m.mapValues f).filter p = (m.filter q).mapValues f := by
  refine ext ?_
  simp only [filter, mapValues, List.filter_map]
  exact congrArg _ (List.filter_congr fun e _ => h e.1 e.2)

end MapValues

section InsertNew

/-- The map with a value at a key, unless there is one already. -/
def insertNew (m : TextMap α) (key : String) (value : α) : TextMap α :=
  if m.contains key then m else m.insert key value

/-- A new value that does not pass a test does not show among those that do. -/
lemma filter_insertNew {m : TextMap α} {key : String} {value : α} {keep : String → α → Bool}
    (hkeep : keep key value = false) : (m.insertNew key value).filter keep = m.filter keep := by
  rw [insertNew]
  split
  · rfl
  · rename_i hnew
    rw [contains_eq_isSome_get?, Option.not_isSome_iff_eq_none] at hnew
    exact filter_insert hnew hkeep

/-- A changed value comes into a changed map where none was. -/
lemma insertNew_mapValues {β : Type} (m : TextMap α) (f : α → β) (key : String) (value : α) :
    (m.mapValues f).insertNew key (f value) = (m.insertNew key value).mapValues f := by
  rw [insertNew, insertNew, contains_mapValues, insert_mapValues]
  split <;> rfl

variable {γ : Type} (keyOf : γ → String)

/-- New values that do not pass a test do not show among those that do. -/
lemma filter_foldl_insertNew {value : γ → α} {keep : String → α → Bool} {cs : List γ}
    (hkeep : ∀ c ∈ cs, keep (keyOf c) (value c) = false) (m : TextMap α) :
    (cs.foldl (fun m c => m.insertNew (keyOf c) (value c)) m).filter keep = m.filter keep := by
  induction cs generalizing m with
  | nil => rfl
  | cons c rest ih =>
    obtain ⟨hc, hrest⟩ := List.forall_mem_cons.1 hkeep
    rw [List.foldl_cons, ih hrest, filter_insertNew hc]

/-- Values that a change makes equal come in alike, seen through the change. -/
lemma mapValues_foldl_insertNew {β : Type} {f : α → β} {value value' : γ → α}
    (hvalue : ∀ c, f (value c) = f (value' c)) (cs : List γ) {m n : TextMap α}
    (hmn : m.mapValues f = n.mapValues f) :
    (cs.foldl (fun m c => m.insertNew (keyOf c) (value c)) m).mapValues f =
      (cs.foldl (fun m c => m.insertNew (keyOf c) (value' c)) n).mapValues f := by
  induction cs generalizing m n with
  | nil => exact hmn
  | cons c rest ih =>
    refine ih ?_
    rw [← insertNew_mapValues, ← insertNew_mapValues, hmn, hvalue]

end InsertNew

/-- Entries whose keys ascend beyond those of a map come in at its end. -/
lemma entries_foldl_insert (entries : List (String × α)) (m : TextMap α)
    (h : Ascending (m.entries ++ entries)) :
    (entries.foldl (fun m e => m.insert e.1 e.2) m).entries = m.entries ++ entries := by
  induction entries generalizing m with
  | nil => simp
  | cons e rest ih =>
    have hlt : ∀ x ∈ m.entries, x.1 < e.1 := fun x hx =>
      (List.pairwise_append.1 h).2.2 x hx e List.mem_cons_self
    have hput : (m.insert e.1 e.2).entries = m.entries ++ [e] := putEntry_of_forall_lt hlt
    rw [List.foldl_cons, ih, hput, List.append_assoc, List.singleton_append]
    rw [hput, List.append_assoc, List.singleton_append]
    exact h

/-- A map is what its entries make. -/
lemma ofList_entries (m : TextMap α) : ofList m.entries = m := by
  refine ext ?_
  have h := entries_foldl_insert m.entries empty m.ascending
  simpa [ofList, empty] using h

end TextMap

/-! #### Texts -/

/-- The greatest text comes last. -/
lemma putText_of_forall_lt {x : String} : {ys : List String} → (∀ y ∈ ys, y < x) →
    putText x ys = ys ++ [x]
  | [], _ => rfl
  | y :: rest, h => by
    have hy : y < x := h y List.mem_cons_self
    have hrest := putText_of_forall_lt fun z hz => h z (List.mem_cons_of_mem _ hz)
    rw [putText, if_neg (String.lt_asymm hy), if_neg (String.ne_of_lt hy).symm, hrest]
    rfl

namespace TextSet

/-- Texts that ascend beyond those of a set come in at its end. -/
lemma items_foldl_insert (xs : List String) (s : TextSet)
    (h : (s.items ++ xs).Pairwise (· < ·)) : (xs.foldl insert s).items = s.items ++ xs := by
  induction xs generalizing s with
  | nil => simp
  | cons x rest ih =>
    have hlt : ∀ y ∈ s.items, y < x := fun y hy =>
      (List.pairwise_append.1 h).2.2 y hy x List.mem_cons_self
    have hput : (s.insert x).items = s.items ++ [x] := putText_of_forall_lt hlt
    rw [List.foldl_cons, ih, hput, List.append_assoc, List.singleton_append]
    rw [hput, List.append_assoc, List.singleton_append]
    exact h

/-- A set is what its texts make. -/
lemma ofList_items (s : TextSet) : ofList s.items = s := by
  refine ext ?_
  have h := items_foldl_insert s.items empty s.ascending
  simpa [ofList, empty] using h

/-- Sets with the same texts are equal. -/
lemma eq_of_mem_iff {s t : TextSet} (h : ∀ x, x ∈ s ↔ x ∈ t) : s = t :=
  ext (s.ascending.eq_of_mem_iff t.ascending h)

/-- A text comes in beside those that are there. -/
lemma mem_insert_iff {s : TextSet} {x y : String} : x ∈ s.insert y ↔ x = y ∨ x ∈ s :=
  mem_putText

/-- A set contains the texts that are in it. -/
lemma contains_iff_mem {s : TextSet} {x : String} : s.contains x = true ↔ x ∈ s :=
  List.contains_iff_mem

/-- No text stands in a set twice. -/
lemma nodup_items (s : TextSet) : s.items.Nodup :=
  s.ascending.imp String.ne_of_lt

/-- Texts that a map keeps apart are as many as before. -/
lemma size_ofList_map {f : String → String} {xs : List String} (h : Set.InjOn f {x | x ∈ xs}) :
    (ofList (xs.map f)).size = (ofList xs).size := by
  have hperm : ((ofList xs).items.map f).Perm (ofList (xs.map f)).items := by
    have hnodup : ((ofList xs).items.map f).Nodup :=
      (nodup_items _).map_on fun x hx y hy => h ((mem_ofList xs x).1 hx) ((mem_ofList xs y).1 hy)
    rw [List.perm_ext_iff_of_nodup hnodup (nodup_items _)]
    intro y
    have hitems : y ∈ (ofList (xs.map f)).items ↔ y ∈ xs.map f := mem_ofList _ y
    rw [hitems, List.mem_map, List.mem_map]
    exact exists_congr fun x => and_congr_left' (mem_ofList xs x)
  rw [size, size, ← hperm.length_eq, List.length_map]

/-- What one set has in common with another is what the other has in common with it. -/
lemma common_perm (s t : TextSet) :
    (s.items.filter t.contains).Perm (t.items.filter s.contains) := by
  rw [List.perm_ext_iff_of_nodup (s.nodup_items.filter _) (t.nodup_items.filter _)]
  intro x
  simp only [List.mem_filter, contains, List.contains_iff_mem]
  exact And.comm

end TextSet

/-! #### Records under their names -/

namespace Keyed

variable {m : TextMap Record}

/-- The entries of a map of records are its records with their names. -/
lemma entries_eq (h : Keyed m) : m.entries = m.values.map fun x => (x.id, x) := by
  rw [TextMap.values, List.map_map]
  refine (List.map_id _).symm.trans (List.map_congr_left fun e he => ?_)
  exact Prod.ext (h e he) rfl

/-- A map of records is what its records make. -/
lemma foldl_insert_values (h : Keyed m) :
    m.values.foldl (fun m x => m.insert x.id x) .empty = m := by
  have hm := TextMap.ofList_entries m
  rw [TextMap.ofList, h.entries_eq, List.foldl_map] at hm
  exact hm

/-- The names of the records of a map ascend. -/
lemma pairwise_id (h : Keyed m) : m.values.Pairwise fun x y => x.id < y.id := by
  have hasc := m.ascending
  rw [Ascending, h.entries_eq, List.pairwise_map] at hasc
  exact hasc

/-- No two records of a map have one name. -/
lemma nodup_id (h : Keyed m) : (m.values.map (·.id)).Nodup := by
  rw [List.Nodup, List.pairwise_map]
  exact h.pairwise_id.imp String.ne_of_lt

/-- A name that is in use belongs to one record only. -/
lemma eq_of_id_eq (h : Keyed m) {x y : Record} (hx : x ∈ m.values) (hy : y ∈ m.values)
    (hid : x.id = y.id) : x = y :=
  List.inj_on_of_nodup_map h.nodup_id hx hy hid

/-- Each record is found by its name. -/
lemma get?_id (h : Keyed m) {x : Record} (hx : x ∈ m.values) : m.get? x.id = some x := by
  obtain ⟨e, he, rfl⟩ := List.mem_map.1 hx
  have hkey : e.2.id ∈ m.keys := List.mem_map.2 ⟨e, he, h e he⟩
  obtain ⟨y, hy⟩ := Option.isSome_iff_exists.1 (TextMap.mem_keys_iff.1 hkey)
  have hentry := TextMap.mem_entries_of_get?_eq_some hy
  rw [hy, h.eq_of_id_eq hx (List.mem_map_of_mem hentry) (h _ hentry)]

/-- What is found by a name is the record of this name. -/
lemma get?_eq_some_iff (h : Keyed m) {id : String} {x : Record} :
    m.get? id = some x ↔ x ∈ m.values ∧ x.id = id := by
  constructor
  · intro hx
    have hentry := TextMap.mem_entries_of_get?_eq_some hx
    exact ⟨List.mem_map_of_mem hentry, (h _ hentry).symm⟩
  · rintro ⟨hx, rfl⟩
    exact h.get?_id hx

end Keyed

end Lookalike
