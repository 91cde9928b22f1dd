import Mathlib.Data.Option.Basic
import Lookalike.Proofs.Ordered.TextMap

/-! ### Lawful stores

A store holds the records of a map if its calls act on it as they would on the map. What a store
does when a call fails is left open: a failed call gives no store back, so that its caller goes on
with the one it had. A store is made unreliable by a plan that lets its calls fail. -/

namespace Lookalike

/-- A store whose calls that succeed act as on a map of records. `Holds s m` says that the store
`s` holds the records of the map `m`. -/
class LawfulStore (σ : Type) [RecordStore σ] where
  Holds : σ → TextMap Record → Prop
  all_ok {s : σ} {xs : List Record} :
    RecordStore.all s = .ok xs → ∃ m, Keyed m ∧ m.values = xs ∧ Holds s m
  insert_ok {s t : σ} {m : TextMap Record} {x : Record} {fresh : Bool} :
    Holds s m → m.get? x.id = none → RecordStore.insert s x = .ok (fresh, t) →
      Holds t (m.insert x.id x)
  removeFile_ok {s t : σ} {m : TextMap Record} {file : String} {removed : Nat} :
    Holds s m → RecordStore.removeFile s file = .ok (removed, t) →
      Holds t (m.filter fun _ x => !x.isFrom file)
  clear_ok {s t : σ} {m : TextMap Record} :
    Holds s m → RecordStore.clear s = .ok t → Holds t .empty

/-- A result of a function comes from a result of its argument. -/
lemma exists_of_map_eq_ok {ε α β : Type} {x : Except ε α} {f : α → β} {b : β}
    (h : x.map f = .ok b) : ∃ a, x = .ok a ∧ f a = b := by
  cases x with
  | error e => simp [Except.map] at h
  | ok a => exact ⟨a, rfl, by simpa [Except.map] using h⟩

/-! #### Records in memory -/

namespace MemoryStore

/-- Records in memory are a map of records. -/
instance : LawfulStore MemoryStore where
  Holds s m := s.records = m
  all_ok := by
    intro s xs h
    obtain rfl : s.records.values = xs := by simpa [RecordStore.all] using h
    exact ⟨s.records, s.keyed, rfl, rfl⟩
  insert_ok := by
    intro s t m x fresh hm hx h
    subst hm
    have hnew : s.records.contains x.id = false := by
      rw [TextMap.contains_eq_isSome_get?, hx]
      rfl
    have hs : s.insert x = (fresh, t) := by simpa [RecordStore.insert] using h
    rw [MemoryStore.insert, hnew] at hs
    rw [← (Prod.mk.inj hs).2]
  removeFile_ok := by
    intro s t m file removed hm h
    subst hm
    have hs : s.removeFile file = (removed, t) := by simpa [RecordStore.removeFile] using h
    rw [← (Prod.mk.inj hs).2]
  clear_ok := by
    intro s t m _ h
    obtain rfl : empty = t := by simpa [RecordStore.clear] using h
    rfl

end MemoryStore

/-! #### Stores with failures -/

/-- A store with a plan for its coming calls: for each of them the error, if it is to fail. -/
structure Unreliable (σ : Type) where
  store : σ
  failures : List (Option StoreError)

namespace Unreliable

variable {σ α : Type}

/-- The answer to a call under the plan. -/
def answer (s : Unreliable σ) (call : σ → Except StoreError α) : Except StoreError α :=
  match s.failures.head?.join with
  | some e => .error e
  | none => call s.store

/-- Another store under the rest of the plan. -/
def next (s : Unreliable σ) (store : σ) : Unreliable σ :=
  ⟨store, s.failures.tail⟩

instance [RecordStore σ] : RecordStore (Unreliable σ) where
  insert s x := s.answer fun t => (RecordStore.insert t x).map fun (fresh, t) => (fresh, s.next t)
  all s := s.answer RecordStore.all
  get? s id := s.answer fun t => RecordStore.get? t id
  removeFile s file :=
    s.answer fun t => (RecordStore.removeFile t file).map fun (n, t) => (n, s.next t)
  clear s := s.answer fun t => (RecordStore.clear t).map s.next

/-- A call that succeeds under a plan succeeds. -/
lemma call_of_answer_eq_ok {s : Unreliable σ} {call : σ → Except StoreError α} {a : α}
    (h : s.answer call = .ok a) : call s.store = .ok a := by
  unfold answer at h
  split at h
  · simp at h
  · exact h

/-- A result of a function under a plan comes from a result of the call. -/
lemma exists_of_answer_map_eq_ok {β : Type} {s : Unreliable σ} {call : σ → Except StoreError α}
    {f : α → β} {b : β} (h : (s.answer fun t => (call t).map f) = .ok b) :
    ∃ a, call s.store = .ok a ∧ f a = b :=
  exists_of_map_eq_ok (call_of_answer_eq_ok h)

/-- An unreliable store holds what the store in it holds. -/
instance [RecordStore σ] [LawfulStore σ] : LawfulStore (Unreliable σ) where
  Holds s m := LawfulStore.Holds s.store m
  all_ok h := LawfulStore.all_ok (call_of_answer_eq_ok h)
  insert_ok := by
    intro s t m x fresh hm hx h
    obtain ⟨⟨_, _⟩, hcall, hnext⟩ := exists_of_answer_map_eq_ok h
    rw [← (Prod.mk.inj hnext).2]
    exact LawfulStore.insert_ok hm hx hcall
  removeFile_ok := by
    intro s t m file removed hm h
    obtain ⟨⟨_, _⟩, hcall, hnext⟩ := exists_of_answer_map_eq_ok h
    rw [← (Prod.mk.inj hnext).2]
    exact LawfulStore.removeFile_ok hm hcall
  clear_ok := by
    intro s t m hm h
    obtain ⟨_, hcall, rfl⟩ := exists_of_answer_map_eq_ok h
    exact LawfulStore.clear_ok hm hcall

end Unreliable

end Lookalike
