import Lookalike.Proofs.Store.Table

/-! ### Steady and faithful stores

A steady store fails only when it is out of reach: on its own it takes every record in and lets the
records of every file go. A faithful store gives back the records that it holds as they are, those
at least that it can keep whole. A table keeps a record whole if the signature and the number of
lines that it makes anew are those that the record has, as they are for units of texts. -/

namespace Lookalike

open Python

/-! #### Steady stores -/

/-- A store that always takes records in and lets them go. -/
class SteadyStore (σ : Type) [RecordStore σ] : Prop where
  insert_ok (s : σ) (x : Record) : ∃ fresh t, RecordStore.insert s x = .ok (fresh, t)
  removeFile_ok (s : σ) (file : String) :
    ∃ removed t, RecordStore.removeFile s file = .ok (removed, t)

instance : SteadyStore MemoryStore :=
  ⟨fun _ _ => ⟨_, _, rfl⟩, fun _ _ => ⟨_, _, rfl⟩⟩

instance : SteadyStore Table :=
  ⟨fun _ _ => ⟨_, _, rfl⟩, fun _ _ => ⟨_, _, rfl⟩⟩

namespace Unreliable

variable {σ : Type} [RecordStore σ] [SteadyStore σ]

/-- Without a failure ahead, a steady store takes a record in. -/
lemma exists_insert_eq_ok (s : σ) (x : Record) :
    ∃ fresh t, RecordStore.insert (⟨s, []⟩ : Unreliable σ) x = .ok (fresh, ⟨t, []⟩) := by
  obtain ⟨fresh, t, h⟩ := SteadyStore.insert_ok s x
  refine ⟨fresh, t, ?_⟩
  change (RecordStore.insert s x).map _ = _
  rw [h]
  rfl

/-- Without a failure ahead, a steady store lets the records of a file go. -/
lemma exists_removeFile_eq_ok (s : σ) (file : String) :
    ∃ removed t, RecordStore.removeFile (⟨s, []⟩ : Unreliable σ) file =
      .ok (removed, ⟨t, []⟩) := by
  obtain ⟨removed, t, h⟩ := SteadyStore.removeFile_ok s file
  refine ⟨removed, t, ?_⟩
  change (RecordStore.removeFile s file).map _ = _
  rw [h]
  rfl

end Unreliable

/-! #### Faithful stores -/

/-- A store that gives back the records that it holds as they are if it can keep them whole, and
that can keep whole the records of units of texts and all records that it has given back. -/
class FaithfulStore (σ : Type) [RecordStore σ] [LawfulStore σ] where
  KeepsWhole : Record → Prop
  keepsWhole_ofUnit (now : Int) {u : CodeUnit} :
    u.signature = u.features.signature → KeepsWhole (.ofUnit now u)
  keepsWhole_of_mem_all {s : σ} {xs : List Record} :
    RecordStore.all s = .ok xs → ∀ x ∈ xs, KeepsWhole x
  all_eq {s : σ} {m : TextMap Record} {xs : List Record} :
    LawfulStore.Holds s m → (∀ x ∈ m.values, KeepsWhole x) → RecordStore.all s = .ok xs →
      xs = m.values
  all_removeFile {s t : σ} {xs : List Record} {file : String} {removed : Nat} :
    RecordStore.all s = .ok xs → RecordStore.removeFile s file = .ok (removed, t) →
      RecordStore.all t = .ok (xs.filter (!·.isFrom file))

namespace MemoryStore

/-- Records in memory are kept as they are. -/
instance : FaithfulStore MemoryStore where
  KeepsWhole _ := True
  keepsWhole_ofUnit _ _ _ := trivial
  keepsWhole_of_mem_all _ _ _ := trivial
  all_eq := by
    intro s m xs hm _ h
    have hs : s.records = m := hm
    have hxs : s.records.values = xs := by simpa [RecordStore.all] using h
    rw [← hxs, hs]
  all_removeFile := by
    intro s t xs file removed h hremove
    have hxs : s.records.values = xs := by simpa [RecordStore.all] using h
    have ht : s.removeFile file = (removed, t) := by simpa [RecordStore.removeFile] using hremove
    rw [← hxs, ← (Prod.mk.inj ht).2]
    exact congrArg Except.ok (TextMap.values_filter s.records fun x => !x.isFrom file)

end MemoryStore

/-- A line number that is read from a cell is small. -/
lemma Cell.lt_of_lineNumber?_eq_some {n k : Nat} (h : lineNumber? (.integer n) = some k) :
    n < UInt32.size := by
  rw [lineNumber?] at h
  split at h
  · rename_i hbounds
    exact Int.ofNat_lt.1 hbounds.2
  · cases h

namespace Row

/-- What is read from the row of a record is the record, with its signature and its number of lines
anew. -/
lemma eq_remade_of_toRecord?_ofRecord {x y : Record}
    (h : (ofRecord x).toRecord? x.id = some y) : y = x.remade := by
  suffices hx : x.unit.IsNarrow by
    rw [toRecord?_ofRecord hx] at h
    exact (Option.some.inj h).symm
  simp only [toRecord?, Option.bind_eq_bind, Option.bind_eq_some_iff] at h
  obtain ⟨_, _, features, ⟨v, ⟨text, htext, hv⟩, hfeatures⟩, _, hfirst, _, hlast, -⟩ := h
  obtain rfl : x.unit.features.toJson.compact = text := Option.some.inj htext
  have hread :
      (Json.read? x.unit.features.toJson.compact).bind Features.ofJson? = some features := by
    rw [hv, Option.bind_some, hfeatures]
  exact ⟨Cell.lt_of_lineNumber?_eq_some hfirst, Cell.lt_of_lineNumber?_eq_some hlast,
    Features.complexity_lt_of_read?_compact hread⟩

end Row

/-- What is read from a row is its record, if writing and reading would not change that. -/
lemma Stands.eq_of_toRecord?_eq_some {e : String × Row} {f : String × Record} (h : Stands e f)
    (hf : f.2.remade = f.2) {x : Record} (hx : e.2.toRecord? e.1 = some x) : x = f.2 := by
  cases h with
  | written y => exact (Row.eq_remade_of_toRecord?_ofRecord hx).trans hf
  | read hread =>
    rw [hread] at hx
    exact (Option.some.inj hx).symm

namespace Table

/-- A table keeps those records whole whose signatures and numbers of lines come out as they
were. -/
instance : FaithfulStore Table where
  KeepsWhole x := x.remade = x
  keepsWhole_ofUnit := by
    intro now u hu
    rw [Record.remade, Record.ofUnit, ← hu]
    rfl
  keepsWhole_of_mem_all := by
    intro s xs h
    have hread : List.Forall₂ (fun (x : Record) (e : String × Row) =>
        x.remade = x ∧ e.2.toRecord? e.1 = some x) xs s.rows.entries :=
      (records?_eq_ok_iff.1 h).flip.imp fun x e hx => ⟨(Row.of_toRecord?_eq_some hx).2.2, hx⟩
    exact ((List.forall₂_and_left _ _).1 hread).1
  all_eq := by
    intro s m xs hm hwhole h
    have hstands : List.Forall₂ Stands s.rows.entries m.entries := hm
    have hread := records?_eq_ok_iff.1 h
    clear h
    rw [TextMap.values] at hwhole ⊢
    rw [List.forall_mem_map] at hwhole
    generalize s.rows.entries = rows, m.entries = entries at hstands hread hwhole
    induction hstands generalizing xs with
    | nil =>
      cases hread
      rfl
    | @cons e f rows entries hef _ ih =>
      obtain ⟨hf, hrest⟩ := List.forall_mem_cons.1 hwhole
      obtain ⟨x, rest, hx, hxs, rfl⟩ := List.forall₂_cons_left_iff.1 hread
      rw [hef.eq_of_toRecord?_eq_some hf hx, ih hxs hrest]
      rfl
  all_removeFile := by
    intro s t xs file removed h hremove
    have ht : s.removeFile file = (removed, t) := by simpa [RecordStore.removeFile] using hremove
    rw [← (Prod.mk.inj ht).2]
    refine records?_eq_ok_iff.2 (List.rel_filter ?_ (records?_eq_ok_iff.1 h))
    intro e x hread
    obtain ⟨-, hfile, -⟩ := Row.of_toRecord?_eq_some hread
    simp [Row.isFrom, Record.isFrom, Cell.text?_of_nullable? hfile]

end Table

end Lookalike
