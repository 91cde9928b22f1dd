import Lookalike.Ordered.TextMap
import Lookalike.Record.Basic

/-! ### Stores

A store keeps records under their names. Each of its calls may fail, and a call that fails leaves
the store as it was. `MemoryStore` keeps the records as they are; `Outage` puts a store out of
reach for a while. -/

namespace Lookalike

/-- Why a store does not answer. -/
inductive StoreError where
  | database
  | serialization
  | unavailable (reason : String)
  deriving DecidableEq

/-- The text of an error, as far as it is the store's own. -/
def StoreError.message? : StoreError → Option String
  | .unavailable reason => some ("Store unavailable: " ++ reason)
  | _ => none

/-- What a store can do. `insert` keeps a record unless there is one of its name, and says whether
it did; `removeFile` says how many records went. -/
class RecordStore (σ : Type) where
  insert : σ → Record → Except StoreError (Bool × σ)
  all : σ → Except StoreError (List Record)
  get? : σ → String → Except StoreError (Option Record)
  removeFile : σ → String → Except StoreError (Nat × σ)
  clear : σ → Except StoreError σ

/-! ### Records by their names -/

/-- Every record of a map stands under its own name. -/
def Keyed (m : TextMap Record) : Prop :=
  ∀ entry ∈ m.entries, entry.1 = entry.2.id

theorem Keyed.empty : Keyed .empty :=
  fun _ h => absurd h List.not_mem_nil

theorem Keyed.insert {m : TextMap Record} (h : Keyed m) (r : Record) : Keyed (m.insert r.id r) :=
  fun entry he => (mem_putEntry he).elim (fun e => e ▸ rfl) (h entry)

theorem Keyed.filter {m : TextMap Record} (h : Keyed m) (keep : String → Record → Bool) :
    Keyed (m.filter keep) :=
  fun entry he => h entry (List.mem_filter.1 he).1

/-! ### Records in memory -/

/-- Records in memory, by their names. -/
structure MemoryStore where
  records : TextMap Record
  keyed : Keyed records

namespace MemoryStore

/-- The store without records. -/
def empty : MemoryStore :=
  ⟨.empty, .empty⟩

/-- The store with a record, unless there is one of its name. -/
def insert (s : MemoryStore) (r : Record) : Bool × MemoryStore :=
  if s.records.contains r.id then (false, s)
  else (true, ⟨s.records.insert r.id r, s.keyed.insert r⟩)

/-- The store without the records of a file, and how many there were. -/
def removeFile (s : MemoryStore) (file : String) : Nat × MemoryStore :=
  let keep (_ : String) (r : Record) : Bool := !r.isFrom file
  let kept := s.records.filter keep
  (s.records.size - kept.size, ⟨kept, s.keyed.filter keep⟩)

instance : RecordStore MemoryStore where
  insert s r := .ok (s.insert r)
  all s := .ok s.records.values
  get? s id := .ok (s.records.get? id)
  removeFile s file := .ok (s.removeFile file)
  clear _ := .ok empty

end MemoryStore

/-! ### Stores that are out of reach for a while -/

/-- A store with the reason why it is out of reach at the moment, if it is. -/
structure Outage (σ : Type) where
  store : σ
  reason : Option String

namespace Outage

variable {σ : Type}

/-- A store within reach. -/
def within (store : σ) : Outage σ :=
  ⟨store, none⟩

/-- The answer of a store that is within reach. -/
def guarded {α : Type} (s : Outage σ) (answer : σ → Except StoreError α) : Except StoreError α :=
  match s.reason with
  | some reason => .error (.unavailable reason)
  | none => answer s.store

/-- The same outage over another store. -/
def onStore (s : Outage σ) (store : σ) : Outage σ :=
  ⟨store, s.reason⟩

instance [RecordStore σ] : RecordStore (Outage σ) where
  insert s r :=
    s.guarded fun t => (RecordStore.insert t r).map fun (fresh, t) => (fresh, s.onStore t)
  all s := s.guarded RecordStore.all
  get? s id := s.guarded fun t => RecordStore.get? t id
  removeFile s file :=
    s.guarded fun t => (RecordStore.removeFile t file).map fun (n, t) => (n, s.onStore t)
  clear s := s.guarded fun t => (RecordStore.clear t).map s.onStore

end Outage

end Lookalike
