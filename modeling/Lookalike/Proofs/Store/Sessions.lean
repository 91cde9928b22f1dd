import Lookalike.Proofs.Record.Written
import Lookalike.Proofs.Store.Saved

/-! ### Sessions

In a session a store gets one call after another, and between them the file that it keeps its
records in may be closed and opened again. A call that fails leaves the store as it was. A table
goes through every session as records in memory do, with equal answers, if the records that come in
can be kept in rows: what stands for the store in memory is, after each step, the table that has a
row for each of its records. -/

namespace Lookalike

open Python

/-! #### Calls and sessions -/

/-- A call to a store. -/
inductive StoreCall where
  | insert (x : Record)
  | all
  | get (id : String)
  | removeFile (file : String)
  | clear

/-- What a store answers. -/
inductive StoreAnswer where
  | inserted (fresh : Bool)
  | records (xs : List Record)
  | record (x : Option Record)
  | removed (n : Nat)
  | done
  deriving DecidableEq

/-- The answer of a store to a call, and the store after it. -/
def StoreCall.answer {σ : Type} [RecordStore σ] (s : σ) :
    StoreCall → Except StoreError (StoreAnswer × σ)
  | .insert x => (RecordStore.insert s x).map fun (fresh, t) => (.inserted fresh, t)
  | .all => (RecordStore.all s).map fun xs => (.records xs, s)
  | .get id => (RecordStore.get? s id).map fun x => (.record x, s)
  | .removeFile file => (RecordStore.removeFile s file).map fun (n, t) => (.removed n, t)
  | .clear => (RecordStore.clear s).map fun t => (.done, t)

/-- A store whose file can be closed and opened again. -/
class ReopenedStore (σ : Type) [RecordStore σ] where
  reopen : σ → Except StoreError σ

/-- Records in memory are in no file. -/
instance : ReopenedStore MemoryStore :=
  ⟨.ok⟩

/-- A table is what is found in the bytes that its file was closed with. -/
instance : ReopenedStore Table :=
  ⟨fun t =>
    match (Content.ofBytes t.toText.toUTF8).table? with
    | some t => .ok t
    | none => .error .database⟩

/-- A step of a session: a call, or closing the file and opening it again. -/
inductive SessionStep where
  | call (c : StoreCall)
  | reopen

section Session

variable {σ : Type} [RecordStore σ] [ReopenedStore σ]

/-- The answer of a store to a step, and the store after it. -/
def SessionStep.answer (s : σ) : SessionStep → Except StoreError (StoreAnswer × σ)
  | .call c => c.answer s
  | .reopen => (ReopenedStore.reopen s).map fun t => (.done, t)

/-- The answers of a store in a session. -/
def sessionAnswers (s : σ) : List SessionStep → List (Except StoreError StoreAnswer)
  | [] => []
  | step :: rest =>
    match step.answer s with
    | .ok (a, t) => .ok a :: sessionAnswers t rest
    | .error e => .error e :: sessionAnswers s rest

end Session

/-! #### Records that rows can keep -/

/-- Whether a row keeps all of a record: the numbers of its unit fit into a row, and the signature
and the number of lines, which are not kept, come out as they were. -/
structure Record.IsStorable (x : Record) : Prop where
  narrow : x.unit.IsNarrow
  signature : x.unit.signature = x.unit.features.signature
  lines : x.lines = lineSpan x.unit.firstLine x.unit.lastLine

/-- A record that a row keeps is read from its row. -/
lemma Record.IsStorable.toRecord?_ofRecord {x : Record} (h : x.IsStorable) :
    (Row.ofRecord x).toRecord? x.id = some x := by
  rw [Row.toRecord?_ofRecord h.narrow, Record.remade, ← h.signature, ← h.lines]

/-- A step that brings in only a record that a row can keep. -/
def SessionStep.IsStorable (step : SessionStep) : Prop :=
  ∀ x, step = .call (.insert x) → x.IsStorable

namespace MemoryStore

/-- Whether rows can keep all records of a store. -/
def IsStorable (s : MemoryStore) : Prop :=
  ∀ x ∈ s.records.values, x.IsStorable

/-- The table that has a row for each record. -/
def toTable (s : MemoryStore) : Table :=
  ⟨s.records.mapValues Row.ofRecord⟩

/-- The empty store makes the empty table. -/
lemma toTable_empty : empty.toTable = .empty := rfl

/-- The table of a store holds no floating point numbers. -/
lemma isExact_toTable (s : MemoryStore) : s.toTable.IsExact := by
  intro e he
  obtain ⟨f, -, rfl⟩ := List.mem_map.1 he
  exact Row.isExact_ofRecord f.2

/-- The rows of a store are the rows of its records under their names. -/
lemma entries_toTable (s : MemoryStore) :
    s.toTable.rows.entries = s.records.values.map fun x => (x.id, Row.ofRecord x) := by
  have hentries : s.toTable.rows.entries =
      s.records.entries.map fun e => (e.1, Row.ofRecord e.2) := rfl
  rw [hentries, s.keyed.entries_eq, List.map_map]
  rfl

/-! #### What the calls do -/

/-- A record comes into the table as it does into the store. -/
lemma insert_toTable (s : MemoryStore) (x : Record) :
    s.toTable.insert x = ((s.insert x).1, (s.insert x).2.toTable) := by
  rw [Table.insert, insert, toTable, TextMap.contains_mapValues]
  split
  · rfl
  · rw [TextMap.insert_mapValues]
    rfl

/-- The records of a file leave the table as they leave the store. -/
lemma removeFile_toTable (s : MemoryStore) (file : String) :
    s.toTable.removeFile file = ((s.removeFile file).1, (s.removeFile file).2.toTable) := by
  have hfile (x : Record) : (Row.ofRecord x).isFrom file = x.isFrom file :=
    (Stands.written x).isFrom_eq file
  have hkept : (s.records.mapValues Row.ofRecord).filter (fun _ row => !row.isFrom file) =
      (s.records.filter fun _ x => !x.isFrom file).mapValues Row.ofRecord :=
    TextMap.filter_mapValues _ _ fun _ x => congrArg _ (hfile x)
  rw [Table.removeFile, removeFile, toTable, hkept, TextMap.size_mapValues, TextMap.size_mapValues]
  rfl

/-- All records that rows can keep are read from them. -/
lemma all_toTable {s : MemoryStore} (h : s.IsStorable) :
    RecordStore.all s.toTable = .ok s.records.values := by
  refine Table.records?_eq_ok_iff.2 ?_
  rw [entries_toTable, List.forall₂_map_left_iff, List.forall₂_same]
  exact fun x hx => (h x hx).toRecord?_ofRecord

/-- A record that a row can keep is read from its row by its name. -/
lemma get?_toTable {s : MemoryStore} (h : s.IsStorable) (id : String) :
    s.toTable.get? id = .ok (s.records.get? id) := by
  rw [Table.get?, toTable, TextMap.get?_mapValues]
  cases hx : s.records.get? id with
  | none => rfl
  | some x =>
    have hentry := TextMap.mem_entries_of_get?_eq_some hx
    obtain rfl : id = x.id := s.keyed _ hentry
    have hstorable : x.IsStorable := h x (List.mem_map_of_mem hentry)
    simp only [Option.map_some, hstorable.toRecord?_ofRecord]

/-- The table of a store is found again when its file is opened. -/
lemma reopen_toTable (s : MemoryStore) : ReopenedStore.reopen s.toTable = .ok s.toTable := by
  simp only [ReopenedStore.reopen, s.isExact_toTable.ofBytes_toText, Content.table?]

/-! #### What a step keeps -/

/-- With one more record that a row can keep, rows can keep all records. -/
lemma IsStorable.insert {s : MemoryStore} (h : s.IsStorable) {x : Record} (hx : x.IsStorable) :
    (s.insert x).2.IsStorable := by
  rw [MemoryStore.insert]
  split
  · exact h
  · intro y hy
    obtain ⟨e, he, rfl⟩ := List.mem_map.1 hy
    obtain rfl | he := mem_putEntry he
    · exact hx
    · exact h _ (List.mem_map_of_mem he)

/-- Without the records of a file, rows can keep all records. -/
lemma IsStorable.removeFile {s : MemoryStore} (h : s.IsStorable) (file : String) :
    (s.removeFile file).2.IsStorable := by
  intro x hx
  rw [MemoryStore.removeFile, TextMap.values_filter] at hx
  exact h x (List.mem_of_mem_filter hx)

/-- In a step that brings in only what a row can keep, a store and its table answer alike, and the
table after the step is that of the store after the step. -/
lemma exists_answer_toTable {s : MemoryStore} (hs : s.IsStorable) {step : SessionStep}
    (hstep : step.IsStorable) :
    ∃ a, ∃ t : MemoryStore, step.answer s = .ok (a, t) ∧
      step.answer s.toTable = .ok (a, t.toTable) ∧ t.IsStorable := by
  cases step with
  | reopen =>
    refine ⟨.done, s, rfl, ?_, hs⟩
    rw [SessionStep.answer, reopen_toTable]
    rfl
  | call c =>
    cases c with
    | insert x =>
      refine ⟨.inserted (s.insert x).1, (s.insert x).2, rfl, ?_, hs.insert (hstep x rfl)⟩
      exact congrArg (fun r => Except.ok (StoreAnswer.inserted r.1, r.2)) (s.insert_toTable x)
    | all =>
      refine ⟨.records s.records.values, s, rfl, ?_, hs⟩
      rw [SessionStep.answer, StoreCall.answer, all_toTable hs]
      rfl
    | get id =>
      refine ⟨.record (s.records.get? id), s, rfl, ?_, hs⟩
      exact congrArg (Except.map fun x => (StoreAnswer.record x, s.toTable)) (get?_toTable hs id)
    | removeFile file =>
      refine ⟨.removed (s.removeFile file).1, (s.removeFile file).2, rfl, ?_, hs.removeFile file⟩
      exact congrArg (fun r => Except.ok (StoreAnswer.removed r.1, r.2)) (s.removeFile_toTable file)
    | clear => exact ⟨.done, empty, rfl, rfl, List.forall_mem_nil _⟩

/-- From a store and from its table, sessions go alike. -/
lemma sessionAnswers_toTable {s : MemoryStore} (hs : s.IsStorable) {steps : List SessionStep}
    (hsteps : ∀ step ∈ steps, step.IsStorable) :
    sessionAnswers s.toTable steps = sessionAnswers s steps := by
  induction steps generalizing s with
  | nil => rfl
  | cons step rest ih =>
    obtain ⟨hstep, hrest⟩ := List.forall_mem_cons.1 hsteps
    obtain ⟨a, t, hmemory, htable, ht⟩ := exists_answer_toTable hs hstep
    simp only [sessionAnswers, hmemory, htable, ih ht hrest]

end MemoryStore

/-- A record of a file. -/
def plainRecord : Record :=
  { oddRecord with id := "aa", unit := { oddRecord.unit with file := some "/a.py" } }

end Lookalike
