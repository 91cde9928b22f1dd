/-! ### Maps from texts

A map keeps its entries in the order of their keys, each key once. Two maps with the same entries
are therefore equal, whatever the order in which the entries came in. -/

namespace Lookalike

/-- The keys of a list of entries ascend, so that none is repeated. -/
def Ascending {α : Type} (entries : List (String × α)) : Prop :=
  entries.Pairwise fun x y => x.1 < y.1

/-- Of two texts that are not equal, one comes first. -/
theorem text_lt_of_not_lt {a b : String} (h : ¬ a < b) (hne : a ≠ b) : b < a := by
  rcases Decidable.em (b < a) with h' | h'
  · exact h'
  · exact absurd (String.le_antisymm (String.not_lt.1 h') (String.not_lt.1 h)) hne

/-- An entry put into its place, instead of one with the same key. -/
def putEntry {α : Type} (key : String) (value : α) : List (String × α) → List (String × α)
  | [] => [(key, value)]
  | (k, v) :: rest =>
    if key < k then (key, value) :: (k, v) :: rest
    else if key = k then (key, value) :: rest
    else (k, v) :: putEntry key value rest

theorem mem_putEntry {α : Type} {key : String} {value : α} {x : String × α} :
    ∀ {entries : List (String × α)}, x ∈ putEntry key value entries → x = (key, value) ∨ x ∈ entries
  | [], h => by simpa [putEntry] using h
  | (k, v) :: rest, h => by
    simp only [putEntry] at h
    split at h
    · simpa using h
    · split at h
      · rcases List.mem_cons.1 h with h | h
        · exact .inl h
        · exact .inr (List.mem_cons_of_mem _ h)
      · rcases List.mem_cons.1 h with h | h
        · exact .inr (h ▸ List.mem_cons_self)
        · rcases mem_putEntry h with h | h
          · exact .inl h
          · exact .inr (List.mem_cons_of_mem _ h)

theorem Ascending.putEntry {α : Type} {key : String} {value : α} :
    ∀ {entries : List (String × α)}, Ascending entries → Ascending (putEntry key value entries)
  | [], _ => by simp [Lookalike.putEntry, Ascending]
  | (k, v) :: rest, h => by
    have ⟨hk, hrest⟩ := List.pairwise_cons.1 h
    simp only [Lookalike.putEntry]
    split
    · rename_i hlt
      refine List.pairwise_cons.2 ⟨fun x hx => ?_, h⟩
      rcases List.mem_cons.1 hx with rfl | hx
      · exact hlt
      · exact String.lt_trans hlt (hk x hx)
    · rename_i hnlt
      split
      · rename_i heq
        exact List.pairwise_cons.2 ⟨fun x hx => heq ▸ hk x hx, hrest⟩
      · rename_i hne
        refine List.pairwise_cons.2 ⟨fun x hx => ?_, Ascending.putEntry hrest⟩
        rcases mem_putEntry hx with rfl | hx
        · exact text_lt_of_not_lt hnlt hne
        · exact hk x hx

/-- A map from texts, ordered by its keys. -/
structure TextMap (α : Type) where
  entries : List (String × α)
  ascending : Ascending entries := by exact List.Pairwise.nil

namespace TextMap

variable {α : Type}

@[ext] theorem ext {a b : TextMap α} (h : a.entries = b.entries) : a = b := by
  cases a
  cases b
  cases h
  rfl

instance [DecidableEq α] : DecidableEq (TextMap α) := fun a b =>
  if h : a.entries = b.entries then isTrue (ext h) else isFalse fun e => h (e ▸ rfl)

/-- The map without entries. -/
def empty : TextMap α :=
  ⟨[], List.Pairwise.nil⟩

/-- The value at a key. -/
def get? (m : TextMap α) (key : String) : Option α :=
  (m.entries.find? (·.1 = key)).map (·.2)

/-- Whether there is a value at a key. -/
def contains (m : TextMap α) (key : String) : Bool :=
  m.entries.any (·.1 = key)

/-- The map with a value at a key, instead of any other value there. -/
def insert (m : TextMap α) (key : String) (value : α) : TextMap α :=
  ⟨putEntry key value m.entries, m.ascending.putEntry⟩

/-- The entries that pass a test. -/
def filter (m : TextMap α) (keep : String → α → Bool) : TextMap α :=
  ⟨m.entries.filter fun (k, v) => keep k v, m.ascending.filter _⟩

/-- The map with the values changed. -/
def mapValues {β : Type} (m : TextMap α) (f : α → β) : TextMap β :=
  ⟨m.entries.map fun (k, v) => (k, f v), by
    have h := m.ascending
    simpa [Ascending, List.pairwise_map] using h⟩

/-- The keys in ascending order. -/
def keys (m : TextMap α) : List String :=
  m.entries.map (·.1)

/-- The values in the order of their keys. -/
def values (m : TextMap α) : List α :=
  m.entries.map (·.2)

/-- The number of entries. -/
def size (m : TextMap α) : Nat :=
  m.entries.length

/-- Whether there are no entries. -/
def isEmpty (m : TextMap α) : Bool :=
  m.entries.isEmpty

/-- The map of some entries, the last one with a key counting. -/
def ofList (entries : List (String × α)) : TextMap α :=
  entries.foldl (fun m (k, v) => m.insert k v) empty

end TextMap

end Lookalike
