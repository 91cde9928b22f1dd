import Mathlib.Data.List.Forall2
import Lookalike.Proofs.Record.RoundTrip
import Lookalike.Proofs.Store.Lawful
import Lookalike.Store.Table

/-! ### Records in a table

A row stands for the record that it was written for, and also for the record that is read from it.
The two agree on everything but the signature and the number of lines, which are made anew when a
row is read. A table holds the records of a map if its rows stand for them one by one. -/

namespace Lookalike

open Python

/-! #### Written and read again -/

/-- A fingerprint survives being written as a number with a sign. -/
lemma Fingerprint.ofSigned_toSigned (f : Fingerprint) : ofSigned f.toSigned = f := by
  have hbits : UInt64.ofInt f.bits.toInt64.toInt = f.bits := by
    have hsigned : f.bits.toInt64.toInt = f.bits.toBitVec.toInt := rfl
    have hlt := f.bits.toNat_lt
    rw [← UInt64.toNat_inj, UInt64.ofInt, UInt64.toNat_ofNat', hsigned,
      BitVec.toInt_eq_toNat_cond, UInt64.toNat_toBitVec]
    split <;> omega
  rw [ofSigned, toSigned, hbits]

/-- A kind survives being written as its name. -/
lemma Python.UnitKind.ofName?_name (k : UnitKind) : ofName? k.name = some k := by
  cases k <;> decide

/-- Whether the numbers of a unit fit into thirty-two bits. -/
structure Python.CodeUnit.IsNarrow (u : CodeUnit) : Prop where
  firstLine : u.firstLine < UInt32.size
  lastLine : u.lastLine < UInt32.size
  complexity : u.features.complexity < UInt32.size

/-- The record that a table makes of a record: with its signature and its number of lines anew. -/
def Record.remade (x : Record) : Record :=
  { x with
    unit := { x.unit with signature := x.unit.features.signature },
    lines := lineSpan x.unit.firstLine x.unit.lastLine }

/-- A cell that may be empty has the text that is read from it. -/
lemma Cell.text?_of_nullable? {c : Cell} {text : Option String} (h : c.nullable? = some text) :
    c.text? = text := by
  cases c with
  | null => exact Option.some.inj h
  | integer n => cases h
  | real x => cases h
  | text s => exact Option.some.inj h

namespace Row

/-- The record that is read from the row of a record. -/
lemma toRecord?_ofRecord {x : Record} (hx : x.unit.IsNarrow) :
    (ofRecord x).toRecord? x.id = some x.remade := by
  have hfeatures := Features.read?_compact hx.complexity
  have hfirst : Cell.lineNumber? (.integer x.unit.firstLine) = some x.unit.firstLine := by
    have h := hx.firstLine
    rw [Cell.lineNumber?, if_pos (by omega)]
    rfl
  have hlast : Cell.lineNumber? (.integer x.unit.lastLine) = some x.unit.lastLine := by
    have h := hx.lastLine
    rw [Cell.lineNumber?, if_pos (by omega)]
    rfl
  have hfile : Cell.nullable? (x.unit.file.elim .null .text) = some x.unit.file := by
    cases x.unit.file <;> rfl
  simp only [toRecord?, ofRecord, Cell.text?, Cell.integer?, Option.bind_some,
    UnitKind.ofName?_name, hfeatures, hfirst, hlast, hfile, Option.bind_eq_bind,
    Fingerprint.ofSigned_toSigned]
  rfl

/-- What is read from a row: a record under the name of the row and of the file in the row, which
writing and reading it again would not change. -/
lemma of_toRecord?_eq_some {id : String} {row : Row} {x : Record}
    (h : row.toRecord? id = some x) :
    x.id = id ∧ (row .file).nullable? = some x.file ∧ x.remade = x := by
  simp only [toRecord?, Option.bind_eq_bind, Option.bind_eq_some_iff] at h
  obtain ⟨kind, _, features, _, first, _, last, _, fingerprint, _, name, _, source, _, file, hfile,
    registeredAt, _, hx⟩ := h
  obtain rfl := Option.some.inj hx
  exact ⟨rfl, hfile, rfl⟩

end Row

/-! #### Rows and records -/

/-- A row under a name stands for a record under that name: it was written for the record, or the
record is read from it. -/
inductive Stands : String × Row → String × Record → Prop
  | written (x : Record) : Stands (x.id, .ofRecord x) (x.id, x)
  | read {id : String} {row : Row} {x : Record} :
      row.toRecord? id = some x → Stands (id, row) (id, x)

namespace Stands

variable {e : String × Row} {f : String × Record}

/-- A row and its record have one name. -/
lemma fst_eq (h : Stands e f) : e.1 = f.1 := by
  cases h <;> rfl

/-- A row and its record are of one file. -/
lemma isFrom_eq (h : Stands e f) (file : String) : e.2.isFrom file = f.2.isFrom file := by
  cases h with
  | written x =>
    rw [Row.isFrom, Record.isFrom, Record.file]
    cases hx : x.unit.file <;> simp [Row.ofRecord, hx, Cell.text?]
  | read hread =>
    obtain ⟨-, hfile, -⟩ := Row.of_toRecord?_eq_some hread
    rw [Row.isFrom, Record.isFrom, Cell.text?_of_nullable? hfile]

/-- What is read from a row is its record, made anew. -/
lemma toRecord?_eq (h : Stands e f) (hf : f.2.unit.IsNarrow) :
    e.2.toRecord? e.1 = some f.2.remade := by
  cases h with
  | written x => exact Row.toRecord?_ofRecord hf
  | read hread =>
    obtain ⟨-, -, hremade⟩ := Row.of_toRecord?_eq_some hread
    rw [hremade]
    exact hread

end Stands

/-! #### Rows and maps -/

/-- Lists of entries whose keys agree still correspond after one more pair has been put in. -/
lemma forall₂_putEntry {α β : Type} {R : String × α → String × β → Prop}
    (hkeys : ∀ e f, R e f → e.1 = f.1) {key : String} {a : α} {b : β} (hnew : R (key, a) (key, b))
    {es : List (String × α)} {fs : List (String × β)} (h : List.Forall₂ R es fs) :
    List.Forall₂ R (putEntry key a es) (putEntry key b fs) := by
  induction h with
  | nil => exact .cons hnew .nil
  | @cons e f es fs hef hrest ih =>
    obtain ⟨k, v⟩ := e
    obtain ⟨k', w⟩ := f
    obtain rfl : k = k' := hkeys _ _ hef
    unfold putEntry
    split
    · exact .cons hnew (.cons hef hrest)
    · split
      · exact .cons hnew hrest
      · exact .cons hef ih

/-- Lists of entries whose keys agree have the same keys. -/
lemma map_fst_eq_of_forall₂ {α β : Type} {R : String × α → String × β → Prop}
    (hkeys : ∀ e f, R e f → e.1 = f.1) {es : List (String × α)} {fs : List (String × β)}
    (h : List.Forall₂ R es fs) : es.map (·.1) = fs.map (·.1) := by
  rw [← List.forall₂_eq_eq_eq, List.forall₂_map_left_iff, List.forall₂_map_right_iff]
  exact h.imp hkeys

/-- A function that may fail succeeds on a list if it does so on each element. -/
lemma mapM_eq_some_iff {α β : Type} {f : α → Option β} {xs : List α} {ys : List β} :
    xs.mapM f = some ys ↔ List.Forall₂ (fun x y => f x = some y) xs ys := by
  induction xs generalizing ys with
  | nil => simp [eq_comm]
  | cons x xs ih =>
    simp only [List.mapM_cons, Option.bind_eq_bind, Option.bind_eq_some_iff, ih,
      List.forall₂_cons_left_iff]
    constructor
    · rintro ⟨y, hy, ys', hys, h⟩
      exact ⟨y, ys', hy, hys, (Option.some.inj h).symm⟩
    · rintro ⟨y, ys', hy, hys, rfl⟩
      exact ⟨y, hy, ys', hys, rfl⟩

namespace Table

/-- The records of some rows are read from them one by one. -/
lemma records?_eq_ok_iff {rows : List (String × Row)} {xs : List Record} :
    records? rows = .ok xs ↔ List.Forall₂ (fun e x => e.2.toRecord? e.1 = some x) rows xs := by
  rw [← mapM_eq_some_iff, records?]
  split <;> simp_all

/-- A table of rows that stand for the records of a map. -/
instance : LawfulStore Table where
  Holds t m := List.Forall₂ Stands t.rows.entries m.entries
  all_ok := by
    intro t xs h
    have hread := records?_eq_ok_iff.1 h
    have hnames : t.rows.entries.map (·.1) = xs.map (·.id) := by
      rw [← List.forall₂_eq_eq_eq, List.forall₂_map_left_iff, List.forall₂_map_right_iff]
      exact hread.imp fun e x hx => (Row.of_toRecord?_eq_some hx).1.symm
    have hasc : Ascending (xs.map fun x => (x.id, x)) := by
      have hrows := ascending_iff_map_fst.1 t.rows.ascending
      rw [hnames] at hrows
      rw [ascending_iff_map_fst, List.map_map]
      exact hrows
    refine ⟨⟨xs.map fun x => (x.id, x), hasc⟩, ?_, ?_, ?_⟩
    · intro e he
      obtain ⟨x, -, rfl⟩ := List.mem_map.1 he
      rfl
    · rw [TextMap.values, List.map_map]
      exact List.map_id xs
    · rw [List.forall₂_map_right_iff]
      refine hread.imp fun e x hx => ?_
      obtain ⟨hid, -, -⟩ := Row.of_toRecord?_eq_some hx
      rw [hid]
      exact .read hx
  insert_ok := by
    intro s t m x fresh hm hx h
    have hs : s.insert x = (fresh, t) := by simpa [RecordStore.insert] using h
    have hkeys := map_fst_eq_of_forall₂ (fun _ _ => Stands.fst_eq) hm
    have hnew : s.rows.contains x.id = false := by
      rw [TextMap.get?_eq_none_iff_not_mem, TextMap.keys, ← hkeys] at hx
      rw [TextMap.contains_eq_isSome_get?, TextMap.get?_eq_none_iff_not_mem.2 hx]
      rfl
    rw [Table.insert, hnew] at hs
    rw [← (Prod.mk.inj hs).2]
    exact forall₂_putEntry (fun _ _ => Stands.fst_eq) (.written x) hm
  removeFile_ok := by
    intro s t m file removed hm h
    have hs : s.removeFile file = (removed, t) := by simpa [RecordStore.removeFile] using h
    rw [← (Prod.mk.inj hs).2]
    refine List.rel_filter ?_ hm
    intro e f hef
    exact iff_of_eq (congrArg (fun b => (!b) = true) (hef.isFrom_eq file))
  clear_ok := by
    intro s t m _ h
    obtain rfl : empty = t := by simpa [RecordStore.clear] using h
    exact .nil

/-- A table that holds narrow records gives them back, each with its signature and its number of
lines anew. -/
theorem all_eq_of_holds {t : Table} {m : TextMap Record} (h : LawfulStore.Holds t m)
    (hm : ∀ x ∈ m.values, x.unit.IsNarrow) :
    RecordStore.all t = .ok (m.values.map Record.remade) := by
  refine records?_eq_ok_iff.2 ?_
  have hstands : List.Forall₂ Stands t.rows.entries m.entries := h
  rw [TextMap.values, List.map_map, List.forall₂_map_right_iff]
  rw [TextMap.values, List.forall_mem_map] at hm
  generalize t.rows.entries = rows, m.entries = entries at hstands hm
  induction hstands with
  | nil => exact .nil
  | cons hef _ ih =>
    rw [List.forall_mem_cons] at hm
    exact .cons (hef.toRecord?_eq hm.1) (ih hm.2)

end Table

end Lookalike
