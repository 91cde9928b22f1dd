import Lookalike.Proofs.Store.Table

/-! ### The entries of a store

A store keeps one entry under each name: the record itself, or the row that was written for it. A
record that comes in makes an entry unless there is one of its name, and the entries of a file go
together. What a store keeps can therefore be followed entry by entry, also where the records that
it gives back do not tell the whole of it. -/

namespace Lookalike

/-- A store whose calls that succeed act on entries under names. -/
class EntryStore (σ : Type) [RecordStore σ] [LawfulStore σ] where
  Entry : Type
  entries : σ → TextMap Entry
  ofRecord : Record → Entry
  isFrom : Entry → String → Bool
  isFrom_ofRecord (x : Record) (file : String) : isFrom (ofRecord x) file = x.isFrom file
  contains_eq {s : σ} {m : TextMap Record} :
    LawfulStore.Holds s m → ∀ id, (entries s).contains id = m.contains id
  insert_ok {s t : σ} {x : Record} {fresh : Bool} :
    RecordStore.insert s x = .ok (fresh, t) →
      entries t = (entries s).insertNew x.id (ofRecord x)
  removeFile_ok {s t : σ} {file : String} {removed : Nat} :
    RecordStore.removeFile s file = .ok (removed, t) →
      entries t = (entries s).filter fun _ e => !isFrom e file

/-- The entries of records in memory are the records. -/
instance : EntryStore MemoryStore where
  Entry := Record
  entries := MemoryStore.records
  ofRecord x := x
  isFrom := Record.isFrom
  isFrom_ofRecord _ _ := rfl
  contains_eq := by
    intro s m h id
    have hs : s.records = m := h
    rw [hs]
  insert_ok := by
    intro s t x fresh h
    have hs : s.insert x = (fresh, t) := Except.ok.inj h
    obtain rfl : (s.insert x).2 = t := congrArg Prod.snd hs
    simp only [MemoryStore.insert, TextMap.insertNew]
    split <;> rfl
  removeFile_ok := by
    intro s t file removed h
    have hs : s.removeFile file = (removed, t) := Except.ok.inj h
    obtain rfl : (s.removeFile file).2 = t := congrArg Prod.snd hs
    rfl

/-- A row that was written for a record is of the file of the record. -/
lemma Row.isFrom_ofRecord (x : Record) (file : String) : (ofRecord x).isFrom file = x.isFrom file :=
  (Stands.written x).isFrom_eq file

/-- The entries of a table are its rows. -/
instance : EntryStore Table where
  Entry := Row
  entries := Table.rows
  ofRecord := Row.ofRecord
  isFrom := Row.isFrom
  isFrom_ofRecord := Row.isFrom_ofRecord
  contains_eq := by
    intro s m h id
    have hkeys := map_fst_eq_of_forall₂ (fun _ _ => Stands.fst_eq) h
    rw [TextMap.contains_eq_isSome_get?, TextMap.contains_eq_isSome_get?, Bool.eq_iff_iff,
      ← TextMap.mem_keys_iff, ← TextMap.mem_keys_iff, TextMap.keys, hkeys, TextMap.keys]
  insert_ok := by
    intro s t x fresh h
    have hs : s.insert x = (fresh, t) := Except.ok.inj h
    obtain rfl : (s.insert x).2 = t := congrArg Prod.snd hs
    simp only [Table.insert, TextMap.insertNew]
    split <;> rfl
  removeFile_ok := by
    intro s t file removed h
    have hs : s.removeFile file = (removed, t) := Except.ok.inj h
    obtain rfl : (s.removeFile file).2 = t := congrArg Prod.snd hs
    rfl

/-- The entries of an unreliable store are those of the store in it. -/
instance {σ : Type} [RecordStore σ] [LawfulStore σ] [EntryStore σ] :
    EntryStore (Unreliable σ) where
  Entry := EntryStore.Entry σ
  entries s := EntryStore.entries s.store
  ofRecord := EntryStore.ofRecord
  isFrom := EntryStore.isFrom
  isFrom_ofRecord := EntryStore.isFrom_ofRecord
  contains_eq h := EntryStore.contains_eq (σ := σ) h
  insert_ok h := by
    obtain ⟨⟨fresh, t⟩, hcall, hnext⟩ := Unreliable.exists_of_answer_map_eq_ok h
    rw [← (Prod.mk.inj hnext).2]
    exact EntryStore.insert_ok hcall
  removeFile_ok h := by
    obtain ⟨⟨removed, t⟩, hcall, hnext⟩ := Unreliable.exists_of_answer_map_eq_ok h
    rw [← (Prod.mk.inj hnext).2]
    exact EntryStore.removeFile_ok hcall

end Lookalike
