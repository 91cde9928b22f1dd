import Lookalike.Proofs.Fingerprint.MetricTree
import Lookalike.Proofs.Registry.Reachable
import Lookalike.Proofs.Store.Table

/-! ### Agreement of records, index and store

In a reachable registry the records stand under their own names, the index has each of them once
and under its own fingerprint, and the store holds the same records. A record comes into all three
or into none, because the store is asked first and a store that fails ends the request. -/

namespace Lookalike

open Python

namespace Registry

/-! #### Loading records -/

section Loading

variable {σ : Type}

/-- Records put into an index one after another come in at its end. -/
lemma entries_foldl_insert (xs : List Record) (t : MetricTree Record) :
    (xs.foldl (fun t x => t.insert x.fingerprint x) t).entries =
      t.entries ++ xs.map fun x => (x.fingerprint, x) := by
  induction xs generalizing t with
  | nil => simp
  | cons x rest ih =>
    rw [List.foldl_cons, ih]
    simp [MetricTree.insert]

/-- Loading records changes the records and the index of a registry. -/
lemma foldl_load (xs : List Record) (r : Registry σ) :
    xs.foldl load r =
      { r with
        records := xs.foldl (fun m x => m.insert x.id x) r.records
        index := xs.foldl (fun t x => t.insert x.fingerprint x) r.index } := by
  induction xs generalizing r with
  | nil => rfl
  | cons x rest ih =>
    rw [List.foldl_cons, ih]
    rfl

variable [RecordStore σ]

/-- What the opening of a registry comes from: the records of the store, and the store without the
files that are not there any more. -/
lemma exists_of_openStore_eq_ok {store : σ} {settings : Settings} {reader : SourceReader}
    {r : Registry σ} (h : openStore store settings reader = .ok r) :
    ∃ xs left, RecordStore.all store = .ok xs ∧
      dropFiles store (TextSet.ofList ((xs.filter (isStale reader)).filterMap (·.file))).items =
        .ok left ∧
      r =
        { (xs.filter (!isStale reader ·)).foldl load (new store settings) with store := left } := by
  unfold openStore at h
  cases hall : RecordStore.all store with
  | error e => rw [hall] at h; cases h
  | ok xs =>
    rw [hall] at h
    cases hdrop : dropFiles store
        (TextSet.ofList ((xs.filter (isStale reader)).filterMap (·.file))).items with
    | error e => simp [bind, Except.bind, hdrop] at h
    | ok left =>
      simp only [bind, Except.bind, hdrop, Except.ok.injEq] at h
      exact ⟨xs, left, rfl, hdrop, h.symm⟩

/-- The stale records are those of the files of stale records. -/
lemma any_isFrom_staleFiles {reader : SourceReader} {xs : List Record} {x : Record}
    (hx : x ∈ xs) :
    (TextSet.ofList ((xs.filter (isStale reader)).filterMap (·.file))).items.any (x.isFrom ·) =
      isStale reader x := by
  have hmem (file : String) :
      file ∈ (TextSet.ofList ((xs.filter (isStale reader)).filterMap (·.file))).items ↔
        file ∈ (xs.filter (isStale reader)).filterMap (·.file) := TextSet.mem_ofList _ file
  rw [Bool.eq_iff_iff, List.any_eq_true]
  constructor
  · rintro ⟨file, hfile, hfrom⟩
    rw [hmem, List.mem_filterMap] at hfile
    obtain ⟨y, hy, hyfile⟩ := hfile
    have hystale := (List.mem_filter.1 hy).2
    have hxfile : x.file = some file := of_decide_eq_true hfrom
    rw [isStale, hyfile] at hystale
    rw [isStale, hxfile]
    exact hystale
  · intro hstale
    cases hxfile : x.file with
    | none => rw [isStale, hxfile] at hstale; cases hstale
    | some file =>
      refine ⟨file, (hmem file).2 (List.mem_filterMap.2 ⟨x, ?_, hxfile⟩), decide_eq_true hxfile⟩
      exact List.mem_filter.2 ⟨hx, hstale⟩

variable [LawfulStore σ]

/-- A store that has let some files go holds the records of the others. -/
lemma holds_of_dropFiles_eq_ok {files : List String} {s t : σ} {m : TextMap Record}
    (hm : LawfulStore.Holds s m) (h : dropFiles s files = .ok t) :
    LawfulStore.Holds t (m.filter fun _ x => !files.any (x.isFrom ·)) := by
  induction files generalizing s m with
  | nil =>
    obtain rfl := Except.ok.inj h
    rw [TextMap.filter_eq_self fun e _ => rfl]
    exact hm
  | cons file rest ih =>
    obtain ⟨removed, s', hremove, hdrop⟩ := dropFiles_cons_eq_ok_iff.1 h
    have hrest := ih (LawfulStore.removeFile_ok hm hremove) hdrop
    rw [TextMap.filter_filter] at hrest
    simpa only [List.any_cons, Bool.not_or] using hrest

end Loading

/-! #### The invariant -/

section Invariant

variable {σ : Type} [RecordStore σ] [LawfulStore σ]

/-- The records stand under their names, the index has each of them once and under its fingerprint,
and the store holds them. -/
structure Agrees (r : Registry σ) : Prop where
  keyed : Keyed r.records
  indexed : r.index.entries.Perm (r.records.values.map fun x => (x.fingerprint, x))
  held : LawfulStore.Holds r.store r.records

/-- A new registry over an empty store agrees with it. -/
lemma agrees_new {store : σ} (settings : Settings) (h : LawfulStore.Holds store .empty) :
    (new store settings).Agrees :=
  ⟨.empty, .refl _, h⟩

/-- An opened registry agrees with its store. -/
lemma agrees_of_openStore_eq_ok {store : σ} {settings : Settings} {reader : SourceReader}
    {r : Registry σ} (h : openStore store settings reader = .ok r) : r.Agrees := by
  obtain ⟨xs, left, hall, hdrop, rfl⟩ := exists_of_openStore_eq_ok h
  obtain ⟨m, hkeyed, rfl, hm⟩ := LawfulStore.all_ok hall
  have hvalues : m.values.filter (!isStale reader ·) =
      (m.filter fun _ x => !isStale reader x).values := (TextMap.values_filter m _).symm
  have hrecords := (hkeyed.filter fun _ x => !isStale reader x).foldl_insert_values
  rw [hvalues, foldl_load]
  refine ⟨?_, ?_, ?_⟩
  · change Keyed (List.foldl _ TextMap.empty _)
    rw [hrecords]
    exact hkeyed.filter _
  · change (List.foldl _ MetricTree.empty _).entries.Perm
      ((List.foldl _ TextMap.empty _).values.map _)
    rw [hrecords, entries_foldl_insert]
    exact .refl _
  · change LawfulStore.Holds left (List.foldl _ TextMap.empty _)
    have hleft := holds_of_dropFiles_eq_ok hm hdrop
    rw [hrecords]
    rwa [TextMap.filter_congr fun e he => ?_] at hleft
    have hvalue : e.2 ∈ m.values := List.mem_map_of_mem he
    rw [any_isFrom_staleFiles hvalue]

/-- A record that the store has taken comes into the records and the index. -/
lemma Agrees.load {r : Registry σ} (h : r.Agrees) {x : Record} {fresh : Bool} {store : σ}
    (hnew : r.records.get? x.id = none)
    (hinsert : RecordStore.insert r.store x = .ok (fresh, store)) :
    (Registry.load { r with store := store } x).Agrees := by
  refine ⟨h.keyed.insert x, ?_, LawfulStore.insert_ok h.held hnew hinsert⟩
  have hvalues := (TextMap.values_insert_perm hnew x).map fun y => (y.fingerprint, y)
  have hindex : (r.index.entries ++ [(x.fingerprint, x)]).Perm
      ((x.fingerprint, x) :: r.records.values.map fun y => (y.fingerprint, y)) :=
    (List.perm_append_singleton _ _).trans (h.indexed.cons _)
  exact hindex.trans hvalues.symm

/-- The records of a file that the store has let go leave the records and the index. -/
lemma Agrees.dropFile {r : Registry σ} (h : r.Agrees) {file : String} {removed : Nat} {store : σ}
    (hremove : RecordStore.removeFile r.store file = .ok (removed, store)) :
    (r.dropFile file store).Agrees := by
  refine ⟨h.keyed.filter _, ?_, LawfulStore.removeFile_ok h.held hremove⟩
  unfold Registry.dropFile
  dsimp only
  split
  · -- No record was of the file, so that the index is left as it is.
    rename_i hsize
    rw [TextMap.filter_eq_self_of_size_eq hsize]
    exact h.indexed
  · rw [TextMap.values_filter]
    have hfilter := h.indexed.filter fun e => !e.2.isFrom file
    rw [List.filter_map] at hfilter
    exact hfilter

/-- Requests keep the agreement. -/
lemma kept_agrees : Kept (Agrees (σ := σ)) where
  pass _ h := ⟨h.keyed, h.indexed, h.held⟩
  load h hnew hinsert := h.load hnew hinsert
  dropFile h hremove := h.dropFile hremove
  clear h hclear := agrees_new _ (LawfulStore.clear_ok h.held hclear)

/-- Every reachable registry agrees with its store. -/
theorem Reachable.agrees {r : Registry (Unreliable σ)} (h : Reachable r) : r.Agrees := by
  refine h.kept kept_agrees ?_ ?_ ?_
  · intro store settings hempty
    obtain ⟨m, -, hvalues, hm⟩ := LawfulStore.all_ok hempty
    obtain rfl : m = .empty := TextMap.ext (List.map_eq_nil_iff.1 hvalues)
    exact agrees_new settings hm
  · intro store settings reader r hopen
    exact agrees_of_openStore_eq_ok hopen
  · intro r failures h
    exact ⟨h.keyed, h.indexed, h.held⟩

/-- A registry that agrees with its store has as many records in its index as under their names. -/
lemma Agrees.isSound {r : Registry σ} (h : r.Agrees) : r.isSound = true := by
  have hsize : r.index.size = r.records.size := by
    have hlength := h.indexed.length_eq
    simpa [MetricTree.size, TextMap.size, TextMap.values] using hlength
  simp [Registry.isSound, r.index.isSound_eq_true, hsize]

/-- The walk through the index of a registry that agrees with its store meets each record once,
under its own fingerprint. -/
lemma Agrees.walked {r : Registry σ} (h : r.Agrees) :
    (r.index.walk.map fun y => (y.fingerprint, y.item)).Perm
      (r.records.values.map fun x => (x.fingerprint, x)) :=
  r.index.map_walk_perm.trans h.indexed

/-- The items of the index of a registry that agrees with its store are its records. -/
lemma Agrees.items_perm {r : Registry σ} (h : r.Agrees) : r.index.items.Perm r.records.values := by
  have hitems := h.indexed.map (·.2)
  rw [List.map_map] at hitems
  exact hitems.trans (.of_eq (List.map_id _))

/-- No two items of the index of a registry that agrees with its store have one name. -/
lemma Agrees.nodup_ids {r : Registry σ} (h : r.Agrees) : (r.index.items.map (·.id)).Nodup :=
  (h.items_perm.map (·.id)).nodup_iff.2 h.keyed.nodup_id

/-- The items of the index of a registry that agrees with its store are under their own
fingerprints. -/
lemma Agrees.entries_eq {r : Registry σ} (h : r.Agrees) :
    r.index.entries = r.index.items.map fun x => (x.fingerprint, x) := by
  rw [MetricTree.items, List.map_map]
  refine (List.map_id _).symm.trans (List.map_congr_left fun e he => ?_)
  obtain ⟨x, -, rfl⟩ := List.mem_map.1 (h.indexed.mem_iff.1 he)
  rfl

end Invariant

/-- **Agreement**: whatever requests were made and whichever calls of the store failed, the records
stand under their own names, the index is sound and holds each of them once and under its own
fingerprint, and the store holds the same records. A memory store holds them as they are. A table
has a row for each of them, and gives them back with their signatures and their numbers of lines
anew. -/
theorem reachable_agreement :
    (∀ r : Registry (Unreliable MemoryStore), Reachable r →
      r.isSound = true ∧ Keyed r.records ∧
        r.index.entries.Perm (r.records.values.map fun x => (x.fingerprint, x)) ∧
        (r.index.walk.map fun y => (y.fingerprint, y.item)).Perm
          (r.records.values.map fun x => (x.fingerprint, x)) ∧
        r.store.store.records = r.records) ∧
    ∀ r : Registry (Unreliable Table), Reachable r →
      r.isSound = true ∧ Keyed r.records ∧
        r.index.entries.Perm (r.records.values.map fun x => (x.fingerprint, x)) ∧
        (r.index.walk.map fun y => (y.fingerprint, y.item)).Perm
          (r.records.values.map fun x => (x.fingerprint, x)) ∧
        List.Forall₂ Stands r.store.store.rows.entries r.records.entries ∧
        ((∀ x ∈ r.records.values, x.unit.IsNarrow) →
          RecordStore.all r.store.store = .ok (r.records.values.map Record.remade)) := by
  refine ⟨fun r h => ?_, fun r h => ?_⟩
  · exact ⟨h.agrees.isSound, h.agrees.keyed, h.agrees.indexed, h.agrees.walked, h.agrees.held⟩
  · refine ⟨h.agrees.isSound, h.agrees.keyed, h.agrees.indexed, h.agrees.walked, h.agrees.held, ?_⟩
    intro hnarrow
    exact Table.all_eq_of_holds h.agrees.held hnarrow

/-- The registry that is opened over a store in memory while every file is there. -/
def openedOver (store : MemoryStore) (settings : Settings) : Registry (Unreliable MemoryStore) :=
  store.records.values.foldl load (new ⟨store, []⟩ settings)

/-- An opened registry has the settings with which it was opened. -/
lemma settings_openedOver (store : MemoryStore) (settings : Settings) :
    (openedOver store settings).settings = settings := by
  rw [openedOver, foldl_load]
  rfl

/-- An opened registry has not passed over anything. -/
lemma skips_openedOver (store : MemoryStore) (settings : Settings) :
    (openedOver store settings).skips = .none := by
  rw [openedOver, foldl_load]
  rfl

/-- The records of an opened registry, under their names, are those of its store. -/
lemma records_openedOver (store : MemoryStore) (settings : Settings) :
    (openedOver store settings).records = store.records := by
  rw [openedOver, foldl_load]
  exact store.keyed.foldl_insert_values

/-- The records of an opened registry are those of its store. -/
lemma all_openedOver (store : MemoryStore) (settings : Settings) :
    (openedOver store settings).all = store.records.values :=
  congrArg TextMap.values (records_openedOver store settings)

/-- The index of an opened registry has the records of its store in the order of their names. -/
lemma items_openedOver (store : MemoryStore) (settings : Settings) :
    (openedOver store settings).index.items = store.records.values := by
  rw [openedOver, foldl_load, MetricTree.items, entries_foldl_insert]
  simp [new, MetricTree.empty, Function.comp_def]

/-- An opened registry is reachable. -/
lemma reachable_openedOver (store : MemoryStore) (settings : Settings) :
    Reachable (openedOver store settings) := by
  have hfresh : isStale ⟨fun _ => .error .undecodable, fun _ => true⟩ = fun _ => false := by
    funext x
    unfold isStale
    cases x.file <;> rfl
  have hall : RecordStore.all (⟨store, []⟩ : Unreliable MemoryStore) = .ok store.records.values :=
    rfl
  have hopen : openStore (⟨store, []⟩ : Unreliable MemoryStore) settings
      ⟨fun _ => .error .undecodable, fun _ => true⟩ = .ok (openedOver store settings) := by
    unfold openStore
    simp only [hall, hfresh, bind, Except.bind, Bool.not_false, List.filter_true, List.filter_false]
    rw [openedOver, foldl_load]
    rfl
  exact .opened hopen

/-- A unit with hardly any features. -/
def plainUnit : CodeUnit :=
  ⟨"f", .function, "def f(): pass", 1, 1, none, ⟨[], 1, .empty, [], [], .empty⟩, "f"⟩

/-- A registry that has taken in a unit and has then failed to be cleared, because its store did
not answer. -/
def keptByFailure {σ : Type} [RecordStore σ] (store : σ) : Registry (Unreliable σ) :=
  ((((new ⟨store, []⟩ .default).facing [none]).after (.registerUnit 0 plainUnit)).facing
    [some .database]).after .clear

/-- The agreement after a failure: the unit is still there, in the registry and in either store. -/
theorem reachable_agreement_keptByFailure :
    (keptByFailure MemoryStore.empty).store.store.records =
        (keptByFailure MemoryStore.empty).records ∧
      (keptByFailure Table.empty).isSound = true ∧
      RecordStore.all (keptByFailure Table.empty).store.store =
        .ok [(Record.ofUnit 0 plainUnit).remade] := by
  have hmemory : Reachable (keptByFailure MemoryStore.empty) :=
    .handled [some .database] .clear (.handled [none] (.registerUnit 0 plainUnit) (.new rfl))
  have htable : Reachable (keptByFailure Table.empty) :=
    .handled [some .database] .clear (.handled [none] (.registerUnit 0 plainUnit) (.new rfl))
  have hnarrow : ∀ x ∈ (keptByFailure Table.empty).records.values, x.unit.IsNarrow := by
    intro x hx
    obtain rfl : x = Record.ofUnit 0 plainUnit := List.mem_singleton.1 hx
    exact ⟨by decide, by decide, by decide⟩
  obtain ⟨-, -, -, -, hstore⟩ := reachable_agreement.1 _ hmemory
  obtain ⟨hsound, -, -, -, -, hread⟩ := reachable_agreement.2 _ htable
  exact ⟨hstore, hsound, hread hnarrow⟩

end Registry

end Lookalike
