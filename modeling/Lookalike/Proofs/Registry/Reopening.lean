import Lookalike.Proofs.Registry.Agreement
import Lookalike.Proofs.Store.Faithful

/-! ### Opening a store again

A registry whose units come from texts is restored when its store is opened again. What comes back
are the records of those files that are still there, and those without a file, each as it was; the
records of other files are dropped from the store too. Opening the store once more with the same
reader therefore finds nothing to drop. -/

namespace Lookalike

open Python

namespace Registry

/-! #### Dropping the records of files -/

/-- A record stays if its file is there or if it has none. -/
lemma not_isStale (reader : SourceReader) (x : Record) :
    (!isStale reader x) = x.file.all fun file => reader.has (.ofText file) := by
  cases hx : x.file <;> simp [isStale, hx]

section Dropping

variable {σ : Type} [RecordStore σ]

/-- What an unreliable store lets go, the store in it lets go. -/
lemma dropFiles_store_eq_ok {files : List String} {s t : Unreliable σ}
    (h : dropFiles s files = .ok t) : dropFiles s.store files = .ok t.store := by
  induction files generalizing s with
  | nil =>
    obtain rfl := Except.ok.inj h
    rfl
  | cons file rest ih =>
    obtain ⟨removed, s', hremove, hdrop⟩ := dropFiles_cons_eq_ok_iff.1 h
    obtain ⟨⟨removed', store⟩, hcall, hnext⟩ := Unreliable.exists_of_answer_map_eq_ok hremove
    obtain ⟨-, rfl⟩ := Prod.mk.inj hnext
    exact dropFiles_cons_eq_ok_iff.2 ⟨removed', store, hcall, ih hdrop⟩

/-- Without a failure ahead, a steady store lets the records of files go. -/
lemma exists_dropFiles_eq_ok [SteadyStore σ] (files : List String) (s : σ) :
    ∃ t, dropFiles (⟨s, []⟩ : Unreliable σ) files = .ok t := by
  induction files generalizing s with
  | nil => exact ⟨_, rfl⟩
  | cons file rest ih =>
    obtain ⟨removed, s', hremove⟩ := Unreliable.exists_removeFile_eq_ok s file
    obtain ⟨t, hdrop⟩ := ih s'
    exact ⟨t, dropFiles_cons_eq_ok_iff.2 ⟨removed, _, hremove, hdrop⟩⟩

/-- A faithful store that has let some files go gives back the records of the others. -/
lemma all_eq_of_dropFiles_eq_ok [LawfulStore σ] [FaithfulStore σ] {files : List String} {s t : σ}
    {xs : List Record} (hall : RecordStore.all s = .ok xs) (h : dropFiles s files = .ok t) :
    RecordStore.all t = .ok (xs.filter fun x => !files.any (x.isFrom ·)) := by
  induction files generalizing s xs with
  | nil =>
    obtain rfl := Except.ok.inj h
    have hkept : (xs.filter fun x => !([] : List String).any (x.isFrom ·)) = xs :=
      List.filter_eq_self.2 fun _ _ => rfl
    rw [hkept]
    exact hall
  | cons file rest ih =>
    obtain ⟨removed, s', hremove, hdrop⟩ := dropFiles_cons_eq_ok_iff.1 h
    have hrest := ih (FaithfulStore.all_removeFile hall hremove) hdrop
    rw [List.filter_filter] at hrest
    simpa only [List.any_cons, Bool.not_or, Bool.and_comm] using hrest

end Dropping

/-! #### Opening a store with known records -/

/-- The records of a map, loaded into a new registry, are its records. -/
lemma records_foldl_load {σ : Type} {m : TextMap Record} (h : Keyed m) (store : σ)
    (settings : Settings) : (m.values.foldl load (new store settings)).records = m := by
  rw [foldl_load]
  exact h.foldl_insert_values

section Opening

variable {σ : Type} [RecordStore σ] {s : Unreliable σ} {settings : Settings}
  {reader : SourceReader} {r : Registry (Unreliable σ)}

/-- An opening loads the records that are not stale, and drops the files of the others. -/
lemma load_and_drop_of_openStore_eq_ok {xs : List Record} (hall : RecordStore.all s.store = .ok xs)
    (h : openStore s settings reader = .ok r) :
    r.records = ((xs.filter (!isStale reader ·)).foldl load (new s settings)).records ∧
      dropFiles s.store
          (TextSet.ofList ((xs.filter (isStale reader)).filterMap (·.file))).items =
        .ok r.store.store := by
  obtain ⟨ys, left, hys, hdrop, rfl⟩ := exists_of_openStore_eq_ok h
  have hcall := Unreliable.call_of_answer_eq_ok hys
  rw [hall] at hcall
  obtain rfl := Except.ok.inj hcall
  exact ⟨rfl, dropFiles_store_eq_ok hdrop⟩

/-- Without a failure ahead, a steady store that gives its records can be opened. -/
lemma exists_openStore_eq_ok [SteadyStore σ] {s : σ} {xs : List Record}
    (hall : RecordStore.all s = .ok xs) (settings : Settings) (reader : SourceReader) :
    ∃ r, openStore (⟨s, []⟩ : Unreliable σ) settings reader = .ok r := by
  obtain ⟨t, hdrop⟩ := exists_dropFiles_eq_ok
    (TextSet.ofList ((xs.filter (isStale reader)).filterMap (·.file))).items s
  have hxs : RecordStore.all (⟨s, []⟩ : Unreliable σ) = .ok xs := hall
  unfold openStore
  simp only [bind, Except.bind, hxs, hdrop]
  exact ⟨_, rfl⟩

variable {m : TextMap Record}

/-- A store that gives the records of a map is opened with those that are not stale. -/
lemma records_of_openStore_eq_ok (hm : Keyed m) (hall : RecordStore.all s.store = .ok m.values)
    (h : openStore s settings reader = .ok r) :
    r.records = m.filter fun _ x => x.file.all fun file => reader.has (.ofText file) := by
  have hvalues : m.values.filter (!isStale reader ·) =
      (m.filter fun _ x => x.file.all fun file => reader.has (.ofText file)).values := by
    rw [TextMap.values_filter]
    exact List.filter_congr fun x _ => not_isStale reader x
  rw [(load_and_drop_of_openStore_eq_ok hall h).1, hvalues, records_foldl_load (hm.filter _)]

/-- Nothing is dropped from a store whose records are not stale. -/
lemma store_of_openStore_eq_ok (hall : RecordStore.all s.store = .ok m.values)
    (hfresh : ∀ x ∈ m.values, (x.file.all fun file => reader.has (.ofText file)) = true)
    (h : openStore s settings reader = .ok r) : r.store.store = s.store := by
  have hdrop := (load_and_drop_of_openStore_eq_ok hall h).2
  have hnone : m.values.filter (isStale reader) = [] := by
    rw [List.filter_eq_nil_iff]
    intro x hx hstale
    have hkept := hfresh x hx
    rw [← not_isStale, hstale] at hkept
    cases hkept
  rw [hnone] at hdrop
  exact (Except.ok.inj hdrop).symm

/-- After an opening a faithful store gives the records of the registry. -/
lemma all_of_openStore_eq_ok [LawfulStore σ] [FaithfulStore σ] (hm : Keyed m)
    (hall : RecordStore.all s.store = .ok m.values) (h : openStore s settings reader = .ok r) :
    RecordStore.all r.store.store = .ok r.records.values := by
  have hdrop := (load_and_drop_of_openStore_eq_ok hall h).2
  rw [all_eq_of_dropFiles_eq_ok hall hdrop, records_of_openStore_eq_ok hm hall h,
    TextMap.values_filter]
  refine congrArg Except.ok (List.filter_congr fun x hx => ?_)
  rw [any_isFrom_staleFiles hx, not_isStale]

end Opening

/-! #### Restoring a registry -/

section Restoring

variable {σ : Type} [RecordStore σ] [LawfulStore σ] [FaithfulStore σ]
  {r r' : Registry (Unreliable σ)}

/-- A registry whose records its store can keep whole. -/
def IsKeptWhole (r : Registry (Unreliable σ)) : Prop :=
  ∀ x ∈ r.records.values, FaithfulStore.KeepsWhole σ x

/-- Requests that bring units of texts keep the records such that the store can keep them whole. -/
lemma keptFor_isKeptWhole : KeptFor CodeUnit.IsExtracted (IsKeptWhole (σ := σ)) where
  pass _ h := h
  load := by
    rintro r now u fresh store h ⟨source, file, units, hextract, hu⟩ - - x hx
    obtain ⟨e, he, rfl⟩ := List.mem_map.1 hx
    rcases mem_putEntry he with rfl | hold
    · exact FaithfulStore.keepsWhole_ofUnit now (CodeUnit.signature_eq_of_mem_extract hextract hu)
    · exact h _ (List.mem_map_of_mem hold)
  dropFile := by
    intro r file removed store h _ x hx
    have hvalues := TextMap.values_filter r.records fun x => !x.isFrom file
    exact h x (List.mem_of_mem_filter (hvalues ▸ hx))
  clear := by
    intro r store _ _ x hx
    cases hx

/-- The store of a registry that takes in units of texts can keep its records whole. -/
lemma ReachableBy.isKeptWhole (h : ReachableBy Request.IsExtracted r) : r.IsKeptWhole := by
  refine h.kept keptFor_isKeptWhole (fun q hq => hq) ?_ ?_ (fun r failures hr => hr)
  · intro store settings _ x hx
    cases hx
  · intro store settings reader r hopen x hx
    obtain ⟨xs, _, hxs, -, -⟩ := exists_of_openStore_eq_ok hopen
    have hall := Unreliable.call_of_answer_eq_ok hxs
    obtain ⟨m, hm, rfl, -⟩ := LawfulStore.all_ok hall
    rw [records_of_openStore_eq_ok hm hall hopen, TextMap.values_filter] at hx
    exact FaithfulStore.keepsWhole_of_mem_all hall x (List.mem_of_mem_filter hx)

/-- A registry `r'` that a reader restores from another one. -/
structure RestoredFrom (reader : SourceReader) (r r' : Registry (Unreliable σ)) : Prop where
  /-- The records are the old ones, without those whose file is not there. -/
  records_eq : r'.records =
    r.records.filter fun _ x => x.file.all fun file => reader.has (.ofText file)
  /-- The store gives back the same records. -/
  stored : RecordStore.all r'.store.store = .ok r'.records.values
  /-- If every file is there, the store is left as it was. -/
  untouched : (∀ x ∈ r.records.values, (x.file.all fun file => reader.has (.ofText file)) = true) →
    r'.store.store = r.store.store
  /-- The store can be opened again, unless it fails. -/
  reopens (settings : Settings) :
    ∃ r'', openStore (r'.facing []).store settings reader = .ok r''
  /-- Whenever it is opened again with the same reader, nothing is dropped and the same records
  come back. -/
  again (failures : List (Option StoreError)) (settings : Settings)
      (r'' : Registry (Unreliable σ)) :
    openStore (r'.facing failures).store settings reader = .ok r'' →
      r''.records = r'.records ∧ r''.store.store = r'.store.store

/-- An opening of the store of a registry that takes in units of texts restores it. -/
lemma ReachableBy.restoredFrom [SteadyStore σ] (h : ReachableBy Request.IsExtracted r)
    {failures : List (Option StoreError)} {settings : Settings} {reader : SourceReader}
    (hopen : openStore (r.facing failures).store settings reader = .ok r') :
    RestoredFrom reader r r' := by
  have hm := h.reachable.agrees.keyed
  have hheld : LawfulStore.Holds r.store.store r.records := h.reachable.agrees.held
  -- A store gives units of texts back as they were, so that it has the records of the registry.
  have hall : RecordStore.all (r.facing failures).store.store = .ok r.records.values := by
    obtain ⟨xs, _, hxs, -, -⟩ := exists_of_openStore_eq_ok hopen
    have hcall : RecordStore.all (r.facing failures).store.store = .ok xs :=
      Unreliable.call_of_answer_eq_ok hxs
    rw [← FaithfulStore.all_eq hheld h.isKeptWhole hcall]
    exact hcall
  have hrecords := records_of_openStore_eq_ok hm hall hopen
  have hstored := all_of_openStore_eq_ok hm hall hopen
  have hm' : Keyed r'.records := hrecords ▸ hm.filter _
  have hthere : ∀ x ∈ r'.records.values,
      (x.file.all fun file => reader.has (.ofText file)) = true := by
    intro x hx
    rw [hrecords, TextMap.values_filter] at hx
    exact (List.mem_filter.1 hx).2
  have hsame :
      r'.records.filter (fun _ x => x.file.all fun file => reader.has (.ofText file)) =
        r'.records :=
    TextMap.filter_eq_self fun e he => hthere e.2 (List.mem_map_of_mem he)
  refine ⟨hrecords, hstored, ?_, fun settings => exists_openStore_eq_ok hstored settings reader, ?_⟩
  · intro hold
    have hstore := store_of_openStore_eq_ok hall hold hopen
    exact hstore
  · intro failures settings r'' hagain
    have hstored' : RecordStore.all (r'.facing failures).store.store = .ok r'.records.values :=
      hstored
    have hstore := store_of_openStore_eq_ok hstored' hthere hagain
    exact ⟨(records_of_openStore_eq_ok hm' hstored' hagain).trans hsame, hstore⟩

end Restoring

/-- **Reopening**: whatever requests with units of texts were made and whichever calls of the store
failed, an opening of the store that succeeds restores the registry. The records are the old ones,
in every part of them, without those whose file is not there any more, and the store holds the same;
if all files are there, it is left as it was; and to open it once more with the same reader changes
nothing. This is so for records in memory and for records in a table. -/
theorem reopening_restores :
    (∀ (r r' : Registry (Unreliable MemoryStore)) (failures : List (Option StoreError))
      (settings : Settings) (reader : SourceReader), ReachableBy Request.IsExtracted r →
        openStore (r.facing failures).store settings reader = .ok r' → RestoredFrom reader r r') ∧
    ∀ (r r' : Registry (Unreliable Table)) (failures : List (Option StoreError))
      (settings : Settings) (reader : SourceReader), ReachableBy Request.IsExtracted r →
        openStore (r.facing failures).store settings reader = .ok r' → RestoredFrom reader r r' :=
  ⟨fun _ _ _ _ _ h hopen => h.restoredFrom hopen, fun _ _ _ _ _ h hopen => h.restoredFrom hopen⟩

/-- A registry over a store that has taken in one file without text. -/
def withEmptyFile {σ : Type} [RecordStore σ] (store : σ) : Registry (Unreliable σ) :=
  ((new ⟨store, []⟩ .default).facing []).after
    (.registerFile 0 "a.py" ⟨fun _ => .ok "", fun _ => true⟩)

/-- A registry with a file in memory is opened again while the file is there, and one with the file
in a table after the file has gone. -/
theorem reopening_restores_withEmptyFile :
    (∃ r', openStore ((withEmptyFile MemoryStore.empty).facing []).store .default
        ⟨fun _ => .ok "", fun _ => true⟩ = .ok r' ∧
      r'.store.store = (withEmptyFile MemoryStore.empty).store.store) ∧
    ∃ r', openStore ((withEmptyFile Table.empty).facing []).store .default
        ⟨fun _ => .error (.failed "missing"), fun _ => false⟩ = .ok r' ∧
      RecordStore.all r'.store.store = .ok [] := by
  have hextracted : (Request.registerFile 0 "a.py" ⟨fun _ => .ok "", fun _ => true⟩).IsExtracted :=
    fun u ⟨source, units, _, hextract, hu⟩ => ⟨source, some "a.py", units, hextract, hu⟩
  have hmemory : ReachableBy Request.IsExtracted (withEmptyFile MemoryStore.empty) :=
    .handled [] _ hextracted (.new rfl)
  have htable : ReachableBy Request.IsExtracted (withEmptyFile Table.empty) :=
    .handled [] _ hextracted (.new rfl)
  constructor
  · have hall : RecordStore.all (withEmptyFile MemoryStore.empty).store.store =
        .ok (withEmptyFile MemoryStore.empty).store.store.records.values := rfl
    obtain ⟨r', hopen⟩ := exists_openStore_eq_ok hall .default ⟨fun _ => .ok "", fun _ => true⟩
    have hrestored := reopening_restores.1 _ r' [] _ _ hmemory hopen
    refine ⟨r', hopen, hrestored.untouched fun x _ => ?_⟩
    cases x.file <;> rfl
  · have hread :
        (RecordStore.all (withEmptyFile Table.empty).store.store).toOption.isSome = true := by
      decide +kernel
    have hfiles : (withEmptyFile Table.empty).records.values.map (·.file) = [some "a.py"] := by
      decide +kernel
    obtain ⟨xs, hall⟩ : ∃ xs, RecordStore.all (withEmptyFile Table.empty).store.store = .ok xs := by
      cases hx : RecordStore.all (withEmptyFile Table.empty).store.store with
      | error e => rw [hx] at hread; cases hread
      | ok xs => exact ⟨xs, rfl⟩
    obtain ⟨r', hopen⟩ := exists_openStore_eq_ok hall .default
      ⟨fun _ => .error (.failed "missing"), fun _ => false⟩
    have hrestored := reopening_restores.2 _ r' [] _ _ htable hopen
    refine ⟨r', hopen, ?_⟩
    have hnone : r'.records.values = [] := by
      rw [hrestored.records_eq, TextMap.values_filter, List.filter_eq_nil_iff]
      intro x hx
      have hfile : x.file ∈ [some "a.py"] := hfiles ▸ List.mem_map_of_mem hx
      rw [List.mem_singleton.1 hfile]
      decide
    rw [hrestored.stored, hnone]

end Registry

end Lookalike
