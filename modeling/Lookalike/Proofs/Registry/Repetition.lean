import Lookalike.Proofs.Registry.BatchOrder
import Lookalike.Proofs.Store.Entries

/-! ### Files that come in again

A file that comes in again finds its own records and makes room for them a second time. What stands
beside the file is the same before each of the two times, and what the file brings is up to its
text. So the records and what the store keeps are the same after once and after twice, but for the
times at which the records came in. -/

namespace Lookalike

open Python

/-- A record without the time at which it came in. -/
def Record.undated (x : Record) : Record :=
  { x with registeredAt := 0 }

/-- A row without the time at which its record came in. -/
def Row.undated (row : Row) : Row :=
  row.set .registeredAt .null

/-- The time at which a unit came in is all that a row of it tells about time. -/
lemma Row.undated_ofUnit (now now' : Int) (u : CodeUnit) :
    (Row.ofRecord (.ofUnit now u)).undated = (Row.ofRecord (.ofUnit now' u)).undated := by
  funext c
  cases c <;> rfl

/-- The names of what came in, in order, and how much was passed over: too long, left out, or no
program. -/
def Registration.outline (g : Registration) : List String × Nat × Nat × Nat :=
  (g.registered.map (·.id), g.oversized, g.filtered, g.unparsable)

namespace Registry

/-! #### Files and entries -/

section Entries

variable {σ : Type} [RecordStore σ] [LawfulStore σ] [EntryStore σ] {now : Int} {file : String}
  {path : FilePath} {reader : SourceReader} {r r₁ r' : Registry σ}

/-- Entries with one of a unit, unless there is one of its name. -/
def entriesWith (now : Int) (m : TextMap (EntryStore.Entry σ)) (u : CodeUnit) :
    TextMap (EntryStore.Entry σ) :=
  m.insertNew u.contentHash (EntryStore.ofRecord (.ofUnit now u))

/-- Some units have come into a registry `r` from a file: the records and the entries of its store
have made room for them and then taken them in. -/
structure Refilled (now : Int) (file : String) (units : List CodeUnit) (r r' : Registry σ) :
    Prop where
  settings_eq : r'.settings = r.settings
  records_eq : r'.records = units.foldl (recordsWith now) (r.recordsBeside file)
  entries_eq : EntryStore.entries r'.store = units.foldl (entriesWith now)
    ((EntryStore.entries r.store).filter fun _ e => !EntryStore.isFrom e file)

omit [LawfulStore σ] [EntryStore σ] in
/-- A unit that comes in comes into the records, and leaves the settings and the counts alone. -/
lemma records_of_registerUnit_eq_ok {u : CodeUnit} {x : Record}
    (heq : r.registerUnit now u = (.ok x, r')) :
    r'.settings = r.settings ∧ r'.skips = r.skips ∧ r'.records = recordsWith now r.records u := by
  rw [recordsWith, TextMap.contains_eq_isSome_get?]
  cases unitComes heq with
  | known hget =>
    rw [hget, Option.isSome_some, if_pos rfl]
    exact ⟨rfl, rfl, rfl⟩
  | taken hget _ =>
    rw [hget, Option.isSome_none]
    exact ⟨rfl, rfl, rfl⟩

/-- A unit that comes in comes into the entries of the store. -/
lemma entries_of_registerUnit_eq_ok (h : r.Agrees) {u : CodeUnit} {x : Record}
    (heq : r.registerUnit now u = (.ok x, r')) :
    EntryStore.entries r'.store = entriesWith now (EntryStore.entries r.store) u := by
  have hcontains := EntryStore.contains_eq h.held u.contentHash
  rw [TextMap.contains_eq_isSome_get? r.records] at hcontains
  cases unitComes heq with
  | known hget =>
    rw [hget, Option.isSome_some] at hcontains
    rw [entriesWith, TextMap.insertNew, hcontains, if_pos rfl]
  | taken _ hinsert =>
    have hentries := EntryStore.insert_ok hinsert
    exact hentries

omit [LawfulStore σ] [EntryStore σ] in
/-- A unit that is not accepted is counted, and the next one has its turn. -/
lemma exists_registerUnits_eq_rest (now : Int) {u : CodeUnit} (h : r.settings.accepts u = false)
    (us : List CodeUnit) (done : Registration) :
    ∃ done', registerUnits now r (u :: us) done = registerUnits now r us done' := by
  rw [registerUnits]
  split
  · exact ⟨_, rfl⟩
  · rename_i hlong
    have hout : r.settings.filtersOut u = true := by simpa [Settings.accepts_eq, hlong] using h
    rw [if_pos hout]
    exact ⟨_, rfl⟩

omit [LawfulStore σ] [EntryStore σ] in
/-- An accepted unit comes in before the next one has its turn. -/
lemma registerUnits_of_accepts {u : CodeUnit} (h : r.settings.accepts u = true)
    (us : List CodeUnit) (done : Registration) :
    registerUnits now r (u :: us) done =
      match r.registerUnit now u with
      | (.error e, r₁) => (.error e, r₁)
      | (.ok x, r₁) =>
        registerUnits now r₁ us { done with registered := done.registered ++ [x] } := by
  rw [Settings.accepts_eq, Bool.and_eq_true, Bool.not_eq_true', Bool.not_eq_true'] at h
  rewrite [registerUnits, h.1, h.2, if_neg Bool.false_ne_true, if_neg Bool.false_ne_true]
  rfl

/-- Of some units the accepted ones come into the records and into the entries of the store. -/
lemma entries_of_registerUnits_eq_ok (h : r.Agrees) {us : List CodeUnit} {done done' : Registration}
    (heq : registerUnits now r us done = (.ok done', r')) :
    r'.settings = r.settings ∧
      r'.records = (us.filter r.settings.accepts).foldl (recordsWith now) r.records ∧
      EntryStore.entries r'.store =
        (us.filter r.settings.accepts).foldl (entriesWith now) (EntryStore.entries r.store) := by
  induction us generalizing r done with
  | nil =>
    obtain ⟨-, rfl⟩ := Prod.mk.inj heq
    exact ⟨rfl, rfl, rfl⟩
  | cons u rest ih =>
    cases haccepts : r.settings.accepts u with
    | false =>
      obtain ⟨done₁, hrest⟩ := exists_registerUnits_eq_rest now haccepts rest done
      rw [List.filter_cons_of_neg (by simp [haccepts])]
      exact ih h (hrest.symm.trans heq)
    | true =>
      rw [List.filter_cons_of_pos haccepts]
      rw [registerUnits_of_accepts haccepts] at heq
      split at heq
      · cases heq
      · rename_i x r₁ hunit
        have hagrees : r₁.Agrees := by
          have hkept := (kept_agrees.keptFor fun _ => True).registerUnit h now (u := u) trivial
          rwa [hunit] at hkept
        obtain ⟨hsettings, -, hrecords⟩ := records_of_registerUnit_eq_ok hunit
        have hentries := entries_of_registerUnit_eq_ok h hunit
        have hrest := ih hagrees heq
        rwa [hsettings, hrecords, hentries] at hrest

/-- The records of a file go, and its entries with them. -/
lemma refilled_of_removeFile_eq_ok (h : r.Agrees) (now : Int) {file : String} {removed : Nat}
    (heq : r.removeFile file = (.ok removed, r')) : Refilled now file [] r r' ∧ r'.Agrees := by
  have hagrees := (kept_agrees.keptFor fun _ => True).removeFile h file
  rw [heq] at hagrees
  refine ⟨?_, hagrees⟩
  cases fileGoes heq with
  | gone hremove => exact ⟨rfl, rfl, EntryStore.removeFile_ok hremove⟩

/-- The units of a file come in after its records have gone. -/
lemma Refilled.registerText (h : Refilled now path.text [] r r₁) (hagrees : r₁.Agrees)
    {source : String} (hread : reader.read path = .ok source)
    {done : Registration} (heq : r₁.registerText now path.text source = (.ok done, r')) :
    Refilled now path.text (r.settings.acceptedFrom reader path) r r' := by
  cases textComes heq with
  | passedOver hextract =>
    have hnone : r.settings.acceptedFrom reader path = [] := by
      simp only [Settings.acceptedFrom, hread, hextract]
    rw [hnone]
    exact ⟨h.settings_eq, h.records_eq, h.entries_eq⟩
  | @takenIn units _ _ hextract hunits =>
    have haccepted : r.settings.acceptedFrom reader path = units.filter r.settings.accepts := by
      simp only [Settings.acceptedFrom, hread, hextract]
    obtain ⟨hsettings, hrecords, hentries⟩ := entries_of_registerUnits_eq_ok hagrees hunits
    rw [h.settings_eq] at hsettings hrecords hentries
    rw [h.records_eq] at hrecords
    rw [h.entries_eq] at hentries
    rw [haccepted]
    exact ⟨hsettings, hrecords, hentries⟩

/-- A file that comes in or is passed over refills the records and the entries of the store. -/
lemma refilled_of_registerFile_eq_ok (h : r.Agrees) {done : Registration}
    (heq : r.registerFile now path reader = (.ok done, r')) :
    Refilled now path.text (r.settings.acceptedFrom reader path) r r' := by
  cases fileComes heq with
  | passedOver hread hremove =>
    obtain ⟨hempty, -⟩ := refilled_of_removeFile_eq_ok h now hremove
    have hnone : r.settings.acceptedFrom reader path = [] := by
      simp only [Settings.acceptedFrom, hread]
    rw [hnone]
    exact ⟨hempty.settings_eq, hempty.records_eq, hempty.entries_eq⟩
  | read hread hremove htext =>
    obtain ⟨hempty, hagrees⟩ := refilled_of_removeFile_eq_ok h now hremove
    exact hempty.registerText hagrees hread htext

omit [EntryStore σ] in
/-- A file that comes in leaves the agreement. -/
lemma agrees_of_registerFile_eq (h : r.Agrees)
    {answer : Except RegistryError Registration}
    (heq : r.registerFile now path reader = (answer, r')) : r'.Agrees := by
  have hkept : (r.registerFile now path reader).2.Agrees :=
    (kept_agrees.keptFor fun _ => True).registerFile h now fun _ _ _ _ _ _ => trivial
  rwa [heq] at hkept

/-- The units that are taken in from a file are of the file. -/
lemma file_eq_of_mem_acceptedFrom {s : Settings} {u : CodeUnit}
    (hu : u ∈ s.acceptedFrom reader path) : u.file = some path.text := by
  unfold Settings.acceptedFrom at hu
  split at hu
  · cases hu
  · split at hu
    · cases hu
    · rename_i hextract
      exact CodeUnit.file_eq_of_mem_extract hextract (List.mem_of_mem_filter hu)

omit [RecordStore σ] [LawfulStore σ] [EntryStore σ] in
/-- Units of a file leave the records that are not of the file. -/
lemma recordsBeside_of_records_eq {units : List CodeUnit} (hunits : ∀ u ∈ units, u.file = some file)
    (h : r'.records = units.foldl (recordsWith now) (r.recordsBeside file)) :
    r'.recordsBeside file = r.recordsBeside file := by
  rw [recordsBeside, h, filter_foldl_recordsWith hunits, recordsBeside, TextMap.filter_filter]
  exact TextMap.filter_congr fun _ _ => Bool.and_self _

/-- Units of a file that come in again find what they found before: where times do not count, the
records and the entries are the same after twice as after once. -/
lemma Refilled.again {now' : Int} {units : List CodeUnit}
    (hunits : ∀ u ∈ units, u.file = some file) (h : Refilled now file units r r₁)
    (h' : Refilled now' file units r₁ r') {β : Type} (untimed : EntryStore.Entry σ → β)
    (huntimed : ∀ u, untimed (EntryStore.ofRecord (.ofUnit now' u)) =
      untimed (EntryStore.ofRecord (.ofUnit now u))) :
    r'.records.mapValues Record.undated = r₁.records.mapValues Record.undated ∧
      (EntryStore.entries r'.store).mapValues untimed =
        (EntryStore.entries r₁.store).mapValues untimed := by
  have hbeside := recordsBeside_of_records_eq hunits h.records_eq
  have hentries : (EntryStore.entries r₁.store).filter (fun _ e => !EntryStore.isFrom e file) =
      (EntryStore.entries r.store).filter fun _ e => !EntryStore.isFrom e file := by
    have hfrom : ∀ u ∈ units,
        (!EntryStore.isFrom (EntryStore.ofRecord (σ := σ) (.ofUnit now u)) file) = false := by
      intro u hu
      have hu' : (Record.ofUnit now u).isFrom file = true := decide_eq_true (hunits u hu)
      rw [EntryStore.isFrom_ofRecord, hu', Bool.not_true]
    rw [h.entries_eq]
    refine (TextMap.filter_foldl_insertNew CodeUnit.contentHash hfrom _).trans ?_
    rw [TextMap.filter_filter]
    exact TextMap.filter_congr fun _ _ => Bool.and_self _
  have hundated : ∀ u, (Record.ofUnit now' u).undated = (Record.ofUnit now u).undated :=
    fun _ => rfl
  constructor
  · rw [h.records_eq, h'.records_eq, hbeside]
    exact TextMap.mapValues_foldl_insertNew CodeUnit.contentHash hundated units rfl
  · rw [h.entries_eq, h'.entries_eq, hentries]
    exact TextMap.mapValues_foldl_insertNew CodeUnit.contentHash huntimed units rfl

end Entries

/-! #### Answers -/

section Answers

variable {σ : Type}

/-- The names of the units that a file brings, in order, and how much of it is passed over. -/
def outlineFrom (s : Settings) (reader : SourceReader) (path : FilePath) :
    List String × Nat × Nat × Nat :=
  match reader.read path with
  | .error _ => ([], 0, 0, 1)
  | .ok source =>
    match CodeUnit.extract source (some path.text) with
    | .error _ => ([], 0, 0, 1)
    | .ok units =>
      ((units.filter s.accepts).map (·.contentHash),
        units.countP fun u => s.maxUnitLines < u.lineCount,
        units.countP fun u => u.lineCount ≤ s.maxUnitLines ∧ s.Excludes u, 0)

/-- The answer for a file that is taken in has the names of its accepted units. -/
lemma TakesIn.outline_eq {now : Int} {file : String} {units : List CodeUnit} {done : Registration}
    {r r' : Registry σ} (h : TakesIn now file units r done r') (hkeyed : Keyed r'.records) :
    done.outline = ((units.filter r.settings.accepts).map (·.contentHash),
      units.countP fun u => r.settings.maxUnitLines < u.lineCount,
      units.countP fun u => u.lineCount ≤ r.settings.maxUnitLines ∧ r.settings.Excludes u, 0) := by
  have hname : ∀ u ∈ units.filter r.settings.accepts,
      (r'.get? u.contentHash).map (·.id) = some u.contentHash := by
    intro u hu
    have hmem : r'.get? u.contentHash ∈ done.registered.map some :=
      h.registered ▸ List.mem_map_of_mem hu
    obtain ⟨x, -, hx⟩ := List.mem_map.1 hmem
    have hid := hkeyed _ (TextMap.mem_entries_of_get?_eq_some hx.symm)
    rw [← hx, Option.map_some, ← hid]
  have hnames : done.registered.map (·.id) =
      (units.filter r.settings.accepts).map (·.contentHash) := by
    apply List.map_injective_iff.2 (Option.some_injective String)
    calc (done.registered.map (·.id)).map some
        = (done.registered.map some).map (Option.map (·.id)) := by
          rw [List.map_map, List.map_map]
          rfl
      _ = ((units.filter r.settings.accepts).map fun u => r'.get? u.contentHash).map
            (Option.map (·.id)) := by
          rw [h.registered]
      _ = ((units.filter r.settings.accepts).map (·.contentHash)).map some := by
          rw [List.map_map, List.map_map]
          exact List.map_congr_left hname
  rw [Registration.outline, hnames, h.oversized, h.filtered, h.unparsable]

variable [RecordStore σ] [LawfulStore σ] {r : Registry (Unreliable σ)}

/-- A registry agrees with its store under any plan. -/
lemma Agrees.facing (h : r.Agrees) (failures : List (Option StoreError)) :
    (r.facing failures).Agrees :=
  ⟨h.keyed, h.indexed, h.held⟩

variable [SteadyStore σ]

/-- Over a store without failures ahead, the answer for a file that can be read or whose bytes are
no text is up to the file and the settings. -/
lemma exists_registerFile_outline (hagrees : r.Agrees) (hcalm : r.store.failures = [])
    (now : Int) {path : FilePath} {reader : SourceReader}
    (hread : ∀ reason, reader.read path ≠ .error (.failed reason)) :
    ∃ done r', r.registerFile now path reader = (.ok done, r') ∧
      done.outline = outlineFrom r.settings reader path := by
  have hpassed : (reader.read path = .error .undecodable ∨ ∃ source e,
      reader.read path = .ok source ∧ CodeUnit.extract source (some path.text) = .error e) →
      outlineFrom r.settings reader path = ([], 0, 0, 1) →
        ∃ done r', r.registerFile now path reader = (.ok done, r') ∧
          done.outline = outlineFrom r.settings reader path := by
    intro hno houtline
    obtain ⟨done, r', heq, hover⟩ := exists_registerFile_passesOver r now hno
    rw [facing_nil_of_calm hcalm] at heq
    exact ⟨done, r', heq, by rw [hover.done_eq, houtline]; rfl⟩
  cases hfile : reader.read path with
  | error e =>
    cases e with
    | failed reason => exact absurd hfile (hread reason)
    | undecodable => exact hpassed (.inl hfile) (by simp only [outlineFrom, hfile])
  | ok source =>
    cases hextract : CodeUnit.extract source (some path.text) with
    | error e =>
      have houtline : outlineFrom r.settings reader path = ([], 0, 0, 1) := by
        simp only [outlineFrom, hfile, hextract]
      exact hpassed (.inr ⟨source, e, hfile, hextract⟩) houtline
    | ok units =>
      obtain ⟨done, r', heq, htakes⟩ := exists_registerFile_eq_ok r now hfile hextract
      rw [facing_nil_of_calm hcalm] at heq
      refine ⟨done, r', heq, ?_⟩
      rw [htakes.outline_eq (agrees_of_registerFile_eq hagrees heq).keyed]
      simp only [outlineFrom, hfile, hextract]

variable [EntryStore σ]

/-- A file that comes in again has the same answer and leaves the same records and entries, where
times do not count. -/
lemma registerFile_again (h : Reachable r) (now now' : Int) (path : FilePath)
    (reader : SourceReader) {β : Type} (untimed : EntryStore.Entry σ → β)
    (huntimed : ∀ u, untimed (EntryStore.ofRecord (.ofUnit now' u)) =
      untimed (EntryStore.ofRecord (.ofUnit now u))) :
    let first := (r.facing []).registerFile now path reader
    let second := first.2.registerFile now' path reader
    second.1.map Registration.outline = first.1.map Registration.outline ∧
      second.2.records.mapValues Record.undated = first.2.records.mapValues Record.undated ∧
      (EntryStore.entries second.2.store.store).mapValues untimed =
        (EntryStore.entries first.2.store.store).mapValues untimed := by
  by_cases hread : ∃ reason, reader.read path = .error (.failed reason)
  · obtain ⟨reason, hread⟩ := hread
    have hfails : ∀ (s : Registry (Unreliable σ)) now,
        s.registerFile now path reader = (.error (.reading reason), s) := by
      intro s now
      rw [registerFile, hread]
    simp only [hfails]
    exact ⟨trivial, trivial, trivial⟩
  · have hread := not_exists.1 hread
    have hagrees : (r.facing []).Agrees := h.agrees.facing []
    obtain ⟨done₁, r₁, heq₁, houtline₁⟩ := exists_registerFile_outline hagrees rfl now hread
    obtain ⟨hcalm, hsettings⟩ := calm_of_registerFile_eq rfl heq₁
    have hagrees₁ := agrees_of_registerFile_eq hagrees heq₁
    obtain ⟨done₂, r₂, heq₂, houtline₂⟩ := exists_registerFile_outline hagrees₁ hcalm now' hread
    have hfirst := refilled_of_registerFile_eq_ok hagrees heq₁
    have hsecond := refilled_of_registerFile_eq_ok hagrees₁ heq₂
    rw [hsettings] at hsecond houtline₂
    simp only [heq₁, heq₂]
    refine ⟨?_, hfirst.again (fun u => file_eq_of_mem_acceptedFrom) hsecond untimed huntimed⟩
    simp only [Except.map, houtline₁, houtline₂]

end Answers

/-- **Files that come in twice**: into any reachable registry, over a store that does not fail, a
file comes in, and then comes in once more while its text is the same. The second answer names the
same records in the same order and has the same counts as the first, or fails for the same reason.
The records are the same after both times, and so is what the store keeps, in memory or in a table,
but for the times at which records came in. -/
theorem registerFile_idempotent :
    (∀ r : Registry (Unreliable MemoryStore), Reachable r → ∀ now now' path reader,
      let first := (r.facing []).registerFile now path reader
      let second := first.2.registerFile now' path reader
      second.1.map Registration.outline = first.1.map Registration.outline ∧
        second.2.records.mapValues Record.undated = first.2.records.mapValues Record.undated ∧
        second.2.store.store.records.mapValues Record.undated =
          first.2.store.store.records.mapValues Record.undated) ∧
    ∀ r : Registry (Unreliable Table), Reachable r → ∀ now now' path reader,
      let first := (r.facing []).registerFile now path reader
      let second := first.2.registerFile now' path reader
      second.1.map Registration.outline = first.1.map Registration.outline ∧
        second.2.records.mapValues Record.undated = first.2.records.mapValues Record.undated ∧
        second.2.store.store.rows.mapValues Row.undated =
          first.2.store.store.rows.mapValues Row.undated := by
  constructor
  · intro r h now now' path reader
    exact registerFile_again h now now' path reader Record.undated fun _ => rfl
  · intro r h now now' path reader
    exact registerFile_again h now now' path reader Row.undated (Row.undated_ofUnit now' now)

/-- A reader of files that all have one text, in which a function stands twice. -/
def repeatedFunction : SourceReader :=
  ⟨fun _ => .ok "def f(): pass\ndef f(): pass\n", fun _ => true⟩

/-- A registry over an empty table, with one of these files. -/
def withRepeatedFunction : Registry (Unreliable Table) :=
  ((new ⟨.empty, []⟩ .default).facing []).after (.registerFile 0 "b.py" repeatedFunction)

/-- Another of these files comes in twice. -/
theorem registerFile_idempotent_withRepeatedFunction :
    Reachable withRepeatedFunction ∧
      let first := (withRepeatedFunction.facing []).registerFile 1 "a.py" repeatedFunction
      let second := first.2.registerFile 2 "a.py" repeatedFunction
      second.1.map Registration.outline = first.1.map Registration.outline ∧
        second.2.records.mapValues Record.undated = first.2.records.mapValues Record.undated ∧
        second.2.store.store.rows.mapValues Row.undated =
          first.2.store.store.rows.mapValues Row.undated := by
  have hreachable : Reachable withRepeatedFunction :=
    .handled [] (.registerFile 0 "b.py" repeatedFunction) (.new rfl)
  exact ⟨hreachable, registerFile_idempotent.2 _ hreachable 1 2 "a.py" repeatedFunction⟩

end Registry

end Lookalike
