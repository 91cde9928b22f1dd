import Lookalike.Proofs.Registry.Reopening
import Lookalike.Proofs.Registry.Repetition
import Lookalike.Proofs.Text.FilePath

/-! ### Requests that fail

A request that fails has changed nothing, but for one: a file whose records have gone may break off
among its units, when the store refuses one of them. Then the file stands there with the units that
came before. To bring the file in again makes room for it once more, so that it ends as it would
have ended without the failure. -/

namespace Lookalike

open Python

/-- A call that is not to fail under a plan is answered by the store. -/
lemma Unreliable.answer_of_head {σ α : Type} {s : Unreliable σ} (h : s.failures.head?.join = none)
    (call : σ → Except StoreError α) : s.answer call = call s.store := by
  rw [answer, h]

namespace Registry

/-! #### Sizes -/

section Sizes

variable {now : Int} {m : TextMap Record} {u : CodeUnit}

/-- A unit of a name that is in use changes nothing. -/
lemma recordsWith_of_get?_eq_some {x : Record} (h : m.get? u.contentHash = some x) :
    recordsWith now m u = m := by
  rw [recordsWith, TextMap.contains_eq_isSome_get?, h, Option.isSome_some, if_pos rfl]

/-- A unit of a new name adds one record. -/
lemma size_recordsWith_of_get?_eq_none (h : m.get? u.contentHash = none) :
    (recordsWith now m u).size = m.size + 1 := by
  have hlength := (TextMap.values_insert_perm h (.ofUnit now u)).length_eq
  rw [recordsWith, TextMap.contains_eq_isSome_get?, h]
  simpa [TextMap.values, TextMap.size] using hlength

/-- Units that come in do not make the records fewer. -/
lemma size_le_foldl_recordsWith (now : Int) (us : List CodeUnit) (m : TextMap Record) :
    m.size ≤ (us.foldl (recordsWith now) m).size := by
  induction us generalizing m with
  | nil => exact le_rfl
  | cons u rest ih =>
    refine le_trans ?_ (ih (recordsWith now m u))
    cases hget : m.get? u.contentHash with
    | none => exact Nat.le_of_lt (size_recordsWith_of_get?_eq_none hget ▸ Nat.lt_succ_self _)
    | some x => rw [recordsWith_of_get?_eq_some hget]

end Sizes

/-! #### Where a request fails -/

section Failing

variable {σ : Type} [RecordStore σ] {now : Int} {r r₁ r' : Registry σ} {e : RegistryError}

/-- From a registry `r`, the units `before` have come in, and the store of the registry `r'` refuses
the unit `u` that is next and whose name is not in use. -/
structure StopsAt (now : Int) (before : List CodeUnit) (u : CodeUnit) (cause : StoreError)
    (r r' : Registry σ) : Prop where
  settings_eq : r'.settings = r.settings
  skips_eq : r'.skips = r.skips
  records_eq : r'.records = before.foldl (recordsWith now) r.records
  missing : r'.get? u.contentHash = none
  refused : RecordStore.insert r'.store (.ofUnit now u) = .error cause

/-- A unit that fails to come in changes nothing: the store has refused it. -/
lemma exists_stopsAt_of_registerUnit_eq_error {u : CodeUnit}
    (heq : r.registerUnit now u = (.error e, r')) :
    r' = r ∧ ∃ cause, e = .store cause ∧ StopsAt now [] u cause r r := by
  cases unitComes heq with
  | refused hget hrefused => exact ⟨rfl, _, rfl, rfl, rfl, rfl, hget, hrefused⟩

/-- One unit of a text that fails to come in changes nothing. -/
lemma eq_of_register_eq_error {source : String} {name file : Option String}
    (heq : r.register now source name file = (.error e, r')) : r' = r := by
  unfold register at heq
  split at heq
  · cases heq
  · dsimp only at heq
    split at heq
    · cases heq
    · rename_i u _
      split at heq
      · cases heq
      · obtain ⟨hanswer, rfl⟩ := Prod.mk.inj heq
        cases hunit : r.registerUnit now u with
        | mk answer r₁ =>
          rw [hunit] at hanswer
          cases answer with
          | ok x => cases hanswer
          | error e' => exact (exists_stopsAt_of_registerUnit_eq_error hunit).1

/-- Records of a file that fail to go are all there. -/
lemma eq_of_removeFile_eq_error {file : String} (heq : r.removeFile file = (.error e, r')) :
    r' = r := by
  cases fileGoes heq with
  | refused _ => rfl

/-- A clearing that fails changes nothing. -/
lemma eq_of_clear_eq_error (heq : r.clear = (.error e, r')) : r' = r := by
  unfold clear at heq
  split at heq
  · exact (Prod.mk.inj heq).2.symm
  · cases heq

/-- A unit has come in before others. -/
lemma StopsAt.cons {v u : CodeUnit} {x : Record} {before : List CodeUnit} {cause : StoreError}
    (hunit : r.registerUnit now v = (.ok x, r₁)) (h : StopsAt now before u cause r₁ r') :
    StopsAt now (v :: before) u cause r r' := by
  obtain ⟨hsettings, hskips, hrecords⟩ := records_of_registerUnit_eq_ok hunit
  refine ⟨h.settings_eq.trans hsettings, h.skips_eq.trans hskips, ?_, h.missing, h.refused⟩
  rw [h.records_eq, hrecords, List.foldl_cons]

/-- Units that fail to come in stop at one of the accepted ones. -/
lemma exists_stopsAt_of_registerUnits_eq_error {us : List CodeUnit} {done : Registration}
    (heq : registerUnits now r us done = (.error e, r')) :
    ∃ before u later cause, us.filter r.settings.accepts = before ++ u :: later ∧
      e = .store cause ∧ StopsAt now before u cause r r' := by
  induction us generalizing r done with
  | nil => cases heq
  | cons v rest ih =>
    cases haccepts : r.settings.accepts v with
    | false =>
      obtain ⟨done₁, hrest⟩ := exists_registerUnits_eq_rest now haccepts rest done
      rw [List.filter_cons_of_neg (by simp [haccepts])]
      exact ih (hrest.symm.trans heq)
    | true =>
      rw [List.filter_cons_of_pos haccepts]
      rw [registerUnits_of_accepts haccepts] at heq
      split at heq
      · rename_i hunit
        obtain ⟨he, rfl⟩ := Prod.mk.inj heq
        obtain ⟨rfl, cause, hcause, hstops⟩ := exists_stopsAt_of_registerUnit_eq_error hunit
        exact ⟨[], v, rest.filter _, cause, rfl, (Except.error.inj he).symm.trans hcause, hstops⟩
      · rename_i hunit
        obtain ⟨hsettings, -, -⟩ := records_of_registerUnit_eq_ok hunit
        obtain ⟨before, u, later, cause, hsplit, he, hstops⟩ := ih heq
        rw [hsettings] at hsplit
        exact ⟨v :: before, u, later, cause, by rw [hsplit]; rfl, he, hstops.cons hunit⟩

/-- From a registry `r`, the records of a file have gone. -/
structure Emptied (file : String) (r r' : Registry σ) : Prop where
  settings_eq : r'.settings = r.settings
  skips_eq : r'.skips = r.skips
  records_eq : r'.records = r.recordsBeside file

/-- The records of a file go, and nothing else. -/
lemma emptied_of_removeFile_eq_ok {file : String} {removed : Nat}
    (heq : r.removeFile file = (.ok removed, r')) : Emptied file r r' := by
  cases fileGoes heq with
  | gone _ => exact ⟨rfl, rfl, rfl⟩

/-- A file that fails to come in cannot be read, or its records fail to go, or one of its units is
refused after they have gone. -/
lemma cases_of_registerFile_eq_error {path : FilePath} {reader : SourceReader}
    (heq : r.registerFile now path reader = (.error e, r')) :
    (r' = r ∧ ∃ reason, reader.read path = .error (.failed reason) ∧ e = .reading reason) ∨
    (r' = r ∧ (r.removeFile path.text).1 = .error e) ∨
    ∃ source units before u later cause r₁, reader.read path = .ok source ∧
      CodeUnit.extract source (some path.text) = .ok units ∧
      units.filter r.settings.accepts = before ++ u :: later ∧ e = .store cause ∧
      Emptied path.text r r₁ ∧ StopsAt now before u cause r₁ r' := by
  cases fileComes heq with
  | unread hread => exact .inl ⟨rfl, _, hread, rfl⟩
  | stuck hremove =>
    exact .inr (.inl ⟨eq_of_removeFile_eq_error hremove, congrArg Prod.fst hremove⟩)
  | read hread hremove htext =>
    have hemptied := emptied_of_removeFile_eq_ok hremove
    cases textComes htext with
    | brokenOff hextract hunits =>
      obtain ⟨before, u, later, cause, hsplit, hcause, hstops⟩ :=
        exists_stopsAt_of_registerUnits_eq_error hunits
      rw [hemptied.settings_eq] at hsplit
      exact .inr (.inr ⟨_, _, before, u, later, cause, _, hread, hextract, hsplit, hcause, hemptied,
        hstops⟩)

end Failing

/-! #### Files that break off -/

section BreakingOff

variable {σ : Type} [RecordStore σ] [LawfulStore σ]

/-- A file with some units, of which `j` have made a new record in the registry `r` after the
records of the file had gone, breaks off with the registry `r'`: its store refuses the next new
record. -/
structure BreaksOff (now : Int) (file : String) (units : List CodeUnit) (j : Nat)
    (cause : StoreError) (r r' : Registry σ) : Prop where
  settings_eq : r'.settings = r.settings
  /-- What was passed over is not counted. -/
  skips_eq : r'.skips = r.skips
  /-- The records that are not of the file are as they were. -/
  beside_eq : r'.recordsBeside file = r.recordsBeside file
  /-- The index and the store have the same records. -/
  agrees : r'.Agrees
  /-- There are as many records more than those as there were new ones. -/
  size_eq : r'.size = (r.recordsBeside file).size + j
  /-- The other records are those of the accepted units before the one that is refused. -/
  exists_refused : ∃ before u later, units.filter r.settings.accepts = before ++ u :: later ∧
    r'.get? u.contentHash = none ∧ RecordStore.insert r'.store (.ofUnit now u) = .error cause ∧
    ∀ id, r'.get? id = ((r.recordsBeside file).get? id).or
      ((before.find? (·.contentHash = id)).map (.ofUnit now))

/-- A file whose records have gone breaks off where its units stop. -/
lemma StopsAt.breaksOff {now : Int} {file : String} {units before later : List CodeUnit}
    {u : CodeUnit} {cause : StoreError} {r r₁ r' : Registry σ}
    (h : StopsAt now before u cause r₁ r') (hemptied : Emptied file r r₁) (hagrees : r'.Agrees)
    (hfile : ∀ v ∈ units, v.file = some file)
    (hsplit : units.filter r.settings.accepts = before ++ u :: later) :
    ∃ j, BreaksOff now file units j cause r r' := by
  have hrecords : r'.records = before.foldl (recordsWith now) (r.recordsBeside file) := by
    rw [h.records_eq, hemptied.records_eq]
  have hbefore : ∀ v ∈ before, v.file = some file := by
    intro v hv
    have hmem : v ∈ units.filter r.settings.accepts := hsplit ▸ List.mem_append_left _ hv
    exact hfile v (List.mem_of_mem_filter hmem)
  obtain ⟨j, hj⟩ := Nat.exists_eq_add_of_le
    (size_le_foldl_recordsWith now before (r.recordsBeside file))
  refine ⟨j, h.settings_eq.trans hemptied.settings_eq, h.skips_eq.trans hemptied.skips_eq,
    recordsBeside_of_records_eq hbefore hrecords, hagrees, ?_, before, u, later, hsplit, h.missing,
    h.refused, fun id => ?_⟩
  · rw [size, hrecords, hj]
  · rw [get?, hrecords, get?_foldl_recordsWith]

/-- What was planned for the calls of the store does not matter for where a file breaks off. -/
lemma BreaksOff.of_facing {now : Int} {file : String} {units : List CodeUnit} {j : Nat}
    {cause : StoreError} {r r' : Registry (Unreliable σ)} {failures : List (Option StoreError)}
    (h : BreaksOff now file units j cause (r.facing failures) r') :
    BreaksOff now file units j cause r r' :=
  ⟨h.settings_eq, h.skips_eq, h.beside_eq, h.agrees, h.size_eq, h.exists_refused⟩

end BreakingOff

/-! #### Plans for files -/

section Plans

variable {σ : Type} [RecordStore σ] {now : Int} {path : FilePath} {reader : SourceReader}
  {r : Registry (Unreliable σ)} {cause : StoreError}

/-- A file that fails to come in under a plan has changed nothing, or breaks off. -/
lemma cases_of_registerFile_facing [LawfulStore σ] (h : Reachable r)
    (failures : List (Option StoreError)) {e : RegistryError} {r' : Registry (Unreliable σ)}
    (heq : (r.facing failures).registerFile now path reader = (.error e, r')) :
    (r' = r.facing failures ∧ ∃ reason, reader.read path = .error (.failed reason) ∧
      e = .reading reason) ∨
    (r' = r.facing failures ∧ ((r.facing failures).removeFile path.text).1 = .error e) ∨
    ∃ source units j cause, reader.read path = .ok source ∧
      CodeUnit.extract source (some path.text) = .ok units ∧ e = .store cause ∧
      BreaksOff now path.text units j cause r r' := by
  have hagrees := agrees_of_registerFile_eq (h.agrees.facing failures) heq
  rcases cases_of_registerFile_eq_error heq with hread | hremove |
    ⟨source, units, before, u, later, cause, r₁, hread, hextract, hsplit, he, hemptied, hstops⟩
  · exact .inl hread
  · exact .inr (.inl hremove)
  · have hfile : ∀ v ∈ units, v.file = some path.text := fun v hv =>
      CodeUnit.file_eq_of_mem_extract hextract hv
    obtain ⟨j, hbreaks⟩ := hstops.breaksOff hemptied hagrees hfile hsplit
    exact .inr (.inr ⟨source, units, j, cause, hread, hextract, he, hbreaks.of_facing⟩)

variable [SteadyStore σ] {rest : List (Option StoreError)}

/-- Under a plan that lets the next call succeed, a steady store takes a record in. -/
lemma exists_registerUnit_of_plan {u : CodeUnit} (hnew : r.records.get? u.contentHash = none)
    (hplan : r.store.failures = none :: rest) (now : Int) :
    ∃ r₁, r.registerUnit now u = (.ok (.ofUnit now u), r₁) ∧ r₁.store.failures = rest := by
  obtain ⟨fresh, t, hinsert⟩ := SteadyStore.insert_ok r.store.store (.ofUnit now u)
  have hcall : RecordStore.insert r.store (.ofUnit now u) = .ok (fresh, r.store.next t) := by
    refine (Unreliable.answer_of_head (by rw [hplan]; rfl) _).trans ?_
    rw [hinsert]
    rfl
  unfold registerUnit
  simp only [hnew, hcall]
  exact ⟨_, rfl, congrArg List.tail hplan⟩

omit [SteadyStore σ] in
/-- A unit whose name is in use comes in again without a call. -/
lemma registerUnit_of_get?_eq_some {u : CodeUnit} {x : Record}
    (hget : r.records.get? u.contentHash = some x) : r.registerUnit now u = (.ok x, r) := by
  unfold registerUnit
  rw [hget]

omit [SteadyStore σ] in
/-- Under a plan that lets the next call fail, a unit of a new name is refused. -/
lemma registerUnit_of_plan {u : CodeUnit} (hnew : r.records.get? u.contentHash = none)
    (hplan : r.store.failures = some cause :: rest) :
    r.registerUnit now u = (.error (.store cause), r) := by
  have hrefused : RecordStore.insert r.store (.ofUnit now u) = .error cause := by
    change r.store.answer _ = _
    rw [Unreliable.answer, hplan]
    rfl
  unfold registerUnit
  simp only [hnew, hrefused]

/-- Units come in until the plan lets the store refuse one of a new name. -/
lemma exists_registerUnits_of_plan {us : List CodeUnit} {j : Nat}
    (hplan : r.store.failures = List.replicate j none ++ some cause :: rest)
    (hmany : r.size + j <
      ((us.filter r.settings.accepts).foldl (recordsWith now) r.records).size)
    (done : Registration) :
    ∃ r', registerUnits now r us done = (.error (.store cause), r') ∧ r'.size = r.size + j := by
  -- Each new record that comes in uses one call of the plan up and leaves one record fewer to come.
  induction us generalizing r j done with
  | nil => exact absurd hmany (Nat.not_lt.2 (Nat.le_add_right _ _))
  | cons u us ih =>
    cases haccepts : r.settings.accepts u with
    | false =>
      obtain ⟨done₁, hrest⟩ := exists_registerUnits_eq_rest now haccepts us done
      rw [List.filter_cons_of_neg (by simp [haccepts])] at hmany
      rw [hrest]
      exact ih hplan hmany done₁
    | true =>
      rw [List.filter_cons_of_pos haccepts, List.foldl_cons] at hmany
      rw [registerUnits_of_accepts haccepts]
      cases hget : r.records.get? u.contentHash with
      | some x =>
        rw [recordsWith_of_get?_eq_some hget] at hmany
        simp only [registerUnit_of_get?_eq_some hget]
        exact ih hplan hmany _
      | none =>
        cases j with
        | zero =>
          simp only [registerUnit_of_plan hget hplan]
          exact ⟨r, rfl, rfl⟩
        | succ j =>
          obtain ⟨r₁, hunit, hplan₁⟩ := exists_registerUnit_of_plan hget hplan now
          obtain ⟨hsettings, -, hrecords⟩ := records_of_registerUnit_eq_ok hunit
          have hsize : r₁.size = r.size + 1 := by
            rw [size, hrecords, size_recordsWith_of_get?_eq_none hget, size]
          rw [← hrecords, ← hsettings, Nat.add_comm j, ← Nat.add_assoc, ← hsize] at hmany
          obtain ⟨r', heq, hsize'⟩ := ih hplan₁ hmany
            { done with registered := done.registered ++ [.ofUnit now u] }
          simp only [hunit]
          exact ⟨r', heq, by rw [hsize', hsize, Nat.add_assoc, Nat.add_comm 1]⟩

/-- Under a plan that lets the next call succeed, the records of a file go. -/
lemma exists_removeFile_of_plan (hplan : r.store.failures = none :: rest) (file : String) :
    ∃ removed r₁, r.removeFile file = (.ok removed, r₁) ∧ r₁.store.failures = rest := by
  obtain ⟨removed, t, hremove⟩ := SteadyStore.removeFile_ok r.store.store file
  have hcall : RecordStore.removeFile r.store file = .ok (removed, r.store.next t) := by
    refine (Unreliable.answer_of_head (by rw [hplan]; rfl) _).trans ?_
    rw [hremove]
    rfl
  unfold removeFile
  simp only [hcall]
  exact ⟨_, _, rfl, congrArg List.tail hplan⟩

/-- A file breaks off at each of its new records, if the plan lets the store refuse it. -/
lemma exists_breaksOff_of_plan [LawfulStore σ] (h : Reachable r) (now : Int) {source : String}
    {units : List CodeUnit} (hread : reader.read path = .ok source)
    (hextract : CodeUnit.extract source (some path.text) = .ok units) {j : Nat}
    (hmany : (r.recordsBeside path.text).size + j <
      ((units.filter r.settings.accepts).foldl (recordsWith now) (r.recordsBeside path.text)).size)
    (cause : StoreError) (rest : List (Option StoreError)) :
    ∃ r', (r.facing (none :: (List.replicate j none ++ some cause :: rest))).registerFile now path
        reader = (.error (.store cause), r') ∧ BreaksOff now path.text units j cause r r' := by
  obtain ⟨removed, r₁, hremove, hplan⟩ := exists_removeFile_of_plan
    (r := r.facing (none :: (List.replicate j none ++ some cause :: rest))) rfl path.text
  have hemptied := emptied_of_removeFile_eq_ok hremove
  have hrecords : r₁.records = r.recordsBeside path.text := hemptied.records_eq
  have hsettings : r₁.settings = r.settings := hemptied.settings_eq
  rw [← hrecords, ← hsettings] at hmany
  obtain ⟨r', hunits, hsize⟩ := exists_registerUnits_of_plan hplan hmany .none
  have heq : (r.facing (none :: (List.replicate j none ++ some cause :: rest))).registerFile now
      path reader = (.error (.store cause), r') := by
    unfold registerFile registerText
    simp only [hread, hremove, hextract, hunits]
  refine ⟨r', heq, ?_⟩
  rcases cases_of_registerFile_facing h _ heq with ⟨-, reason, hfailed, -⟩ | ⟨-, hfailed⟩ |
    ⟨source', units', i, cause', hread', hextract', hcause, hbreaks⟩
  · rw [hread] at hfailed
    cases hfailed
  · rw [hremove] at hfailed
    cases hfailed
  · -- It is the same text, and the number of new records is in the size.
    obtain rfl := Except.ok.inj (hread.symm.trans hread')
    obtain rfl := Except.ok.inj (hextract.symm.trans hextract')
    obtain rfl := RegistryError.store.inj hcause
    have hsame := hbreaks.size_eq.symm.trans (hsize.trans (congrArg (·.size + j) hrecords))
    obtain rfl : i = j := Nat.add_left_cancel hsame
    exact hbreaks

end Plans

/-! #### Once more -/

section Retrying

variable {σ : Type} [RecordStore σ] [LawfulStore σ] [SteadyStore σ] [EntryStore σ]

/-- Into registries that differ in the records of a file at most, the file comes in alike. -/
lemma exists_registerFile_alike {r s : Registry (Unreliable σ)} (hr : r.Agrees) (hs : s.Agrees)
    {path : FilePath} {reader : SourceReader}
    (hread : ∀ reason, reader.read path ≠ .error (.failed reason))
    (hsettings : s.settings = r.settings)
    (hbeside : s.recordsBeside path.text = r.recordsBeside path.text)
    (now now' : Int) :
    ∃ done r₁ done' s₁, (r.facing []).registerFile now path reader = (.ok done, r₁) ∧
      (s.facing []).registerFile now' path reader = (.ok done', s₁) ∧
      done'.outline = done.outline ∧
      s₁.records.mapValues Record.undated = r₁.records.mapValues Record.undated := by
  obtain ⟨done, r₁, heq, houtline⟩ := exists_registerFile_outline (hr.facing []) rfl now hread
  obtain ⟨done', s₁, heq', houtline'⟩ := exists_registerFile_outline (hs.facing []) rfl now' hread
  have hfirst := refilled_of_registerFile_eq_ok (hr.facing []) heq
  have hsecond := refilled_of_registerFile_eq_ok (hs.facing []) heq'
  have hsettings' : (s.facing []).settings = (r.facing []).settings := hsettings
  have hbeside' : (s.facing []).recordsBeside path.text = (r.facing []).recordsBeside path.text :=
    hbeside
  rw [hsettings'] at houtline' hsecond
  refine ⟨done, r₁, done', s₁, heq, heq', houtline'.trans houtline.symm, ?_⟩
  have hundated : ∀ u, (Record.ofUnit now' u).undated = (Record.ofUnit now u).undated :=
    fun _ => rfl
  rw [hfirst.records_eq, hsecond.records_eq, hbeside']
  exact TextMap.mapValues_foldl_insertNew CodeUnit.contentHash hundated _ rfl

/-- A file that the store has failed to take in comes in once more as it would have come in at
first. -/
lemma exists_registerFile_retried {r r' : Registry (Unreliable σ)} (h : Reachable r)
    {failures : List (Option StoreError)} {now : Int} {path : FilePath} {reader : SourceReader}
    {cause : StoreError}
    (heq : (r.facing failures).registerFile now path reader = (.error (.store cause), r'))
    (now₁ now₂ : Int) :
    ∃ done₁ r₁ done₂ r₂, (r.facing []).registerFile now₁ path reader = (.ok done₁, r₁) ∧
      (r'.facing []).registerFile now₂ path reader = (.ok done₂, r₂) ∧
      done₂.outline = done₁.outline ∧
      r₂.records.mapValues Record.undated = r₁.records.mapValues Record.undated := by
  have hread : ∀ reason, reader.read path ≠ .error (.failed reason) := by
    intro reason hfailed
    rw [registerFile, hfailed] at heq
    cases heq
  have hagrees := agrees_of_registerFile_eq (h.agrees.facing failures) heq
  rcases cases_of_registerFile_facing h failures heq with ⟨-, reason, hfailed, -⟩ | ⟨rfl, -⟩ |
    ⟨source, units, j, cause', -, -, -, hbreaks⟩
  · exact absurd hfailed (hread reason)
  · exact exists_registerFile_alike h.agrees hagrees hread rfl rfl now₁ now₂
  · exact exists_registerFile_alike h.agrees hagrees hread hbreaks.settings_eq hbreaks.beside_eq
      now₁ now₂

end Retrying

/-- **Failed requests**: whichever calls of the store fail, a request to a reachable registry that
fails leaves records, index, store and counts as they were, with one exception. A file whose records
have gone may break off at a record of a new name that the store refuses. Then the records that are
not of the file and the counts are as they were, and the other records are those of the accepted
units before the one that was refused. A file breaks off like this at each of its new records, if
the store refuses that one. Once the store works, the file comes in as if it had not failed: with
the same names and counts, and with the same records but for their times. -/
theorem failed_requests {σ : Type} [RecordStore σ] [LawfulStore σ] [SteadyStore σ] [EntryStore σ]
    {r : Registry (Unreliable σ)} (h : Reachable r) (failures : List (Option StoreError)) :
    (∀ now u e r', (r.facing failures).registerUnit now u = (.error e, r') →
      r' = r.facing failures) ∧
    (∀ now source name file e r',
      (r.facing failures).register now source name file = (.error e, r') →
        r' = r.facing failures) ∧
    (∀ file e r', (r.facing failures).removeFile file = (.error e, r') →
      r' = r.facing failures) ∧
    (∀ e r', (r.facing failures).clear = (.error e, r') → r' = r.facing failures) ∧
    (∀ now path reader e r',
      (r.facing failures).registerFile now path reader = (.error e, r') →
        (r' = r.facing failures ∧ ∃ reason, reader.read path = .error (.failed reason) ∧
          e = .reading reason) ∨
        (r' = r.facing failures ∧ ((r.facing failures).removeFile path.text).1 = .error e) ∨
        ∃ source units j cause, reader.read path = .ok source ∧
          CodeUnit.extract source (some path.text) = .ok units ∧ e = .store cause ∧
          BreaksOff now path.text units j cause r r') ∧
    (∀ now path reader source units j, reader.read path = .ok source →
      CodeUnit.extract source (some path.text) = .ok units →
      (r.recordsBeside path.text).size + j < ((r.facing []).registerFile now path reader).2.size →
        ∀ cause rest, ∃ r',
          (r.facing (none :: (List.replicate j none ++ some cause :: rest))).registerFile now path
            reader = (.error (.store cause), r') ∧
          BreaksOff now path.text units j cause r r') ∧
    ∀ now path reader cause r',
      (r.facing failures).registerFile now path reader = (.error (.store cause), r') →
        ∀ now₁ now₂, ∃ done₁ r₁ done₂ r₂,
          (r.facing []).registerFile now₁ path reader = (.ok done₁, r₁) ∧
          (r'.facing []).registerFile now₂ path reader = (.ok done₂, r₂) ∧
          done₂.outline = done₁.outline ∧
          r₂.records.mapValues Record.undated = r₁.records.mapValues Record.undated := by
  refine ⟨fun now u e r' heq => ?_, fun now source name file e r' heq => ?_,
    fun file e r' heq => ?_, fun e r' heq => ?_, fun now path reader e r' heq => ?_,
    fun now path reader source units j hread hextract hmany cause rest => ?_,
    fun now path reader cause r' heq => ?_⟩
  · exact (exists_stopsAt_of_registerUnit_eq_error heq).1
  · exact eq_of_register_eq_error heq
  · exact eq_of_removeFile_eq_error heq
  · exact eq_of_clear_eq_error heq
  · exact cases_of_registerFile_facing h failures heq
  · refine exists_breaksOff_of_plan h now hread hextract ?_ cause rest
    obtain ⟨done, r₁, heq, -⟩ := exists_registerFile_eq_ok r now hread hextract
    have hrefilled := refilled_of_registerFile_eq_ok (h.agrees.facing []) heq
    have haccepted : (r.facing []).settings.acceptedFrom reader path =
        units.filter r.settings.accepts := by
      simp only [Settings.acceptedFrom, hread, hextract]
      rfl
    rw [heq, size, hrefilled.records_eq, haccepted] at hmany
    exact hmany
  · exact exists_registerFile_retried h heq

/-- A file without text comes in again, and the store refuses its unit after its record has gone:
the record stays away, until the file comes in once more. -/
theorem failed_requests_withEmptyFile :
    let reader : SourceReader := ⟨fun _ => .ok "", fun _ => true⟩
    let r := withEmptyFile MemoryStore.empty
    r.size = 1 ∧ ∃ r' units done r₂,
      (r.facing [none, some .database]).registerFile 1 "a.py" reader =
        (.error (.store .database), r') ∧
      BreaksOff 1 "a.py" units 0 .database r r' ∧ r'.size = 0 ∧
      (r'.facing []).registerFile 2 "a.py" reader = (.ok done, r₂) ∧ r₂.size = 1 := by
  intro reader r
  have hreachable : Reachable r :=
    .handled [] (.registerFile 0 "a.py" reader) (.new rfl)
  have hsize : r.size = 1 := by decide +kernel
  have hbeside : (r.recordsBeside "a.py").size = 0 := by decide +kernel
  have hwhole : ((r.facing []).registerFile 1 "a.py" reader).2.size = 1 := by decide +kernel
  have hprogram : (CodeUnit.extract "" (some "a.py")).toOption.isSome = true := by decide +kernel
  obtain ⟨-, -, -, -, -, hbreaks, -⟩ := failed_requests hreachable []
  obtain ⟨-, -, -, -, -, -, hretry⟩ := failed_requests hreachable [none, some .database]
  cases hextract : CodeUnit.extract "" (some "a.py") with
  | error e => rw [hextract] at hprogram; cases hprogram
  | ok units =>
    obtain ⟨r', heq, hoff⟩ := hbreaks 1 "a.py" reader "" units 0 rfl hextract
      (by rw [FilePath.text_ofText, hbeside, hwhole]; decide) .database []
    obtain ⟨done₁, r₁, done₂, r₂, hfirst, hagain, -, hrecords⟩ :=
      hretry 1 "a.py" reader .database r' heq 1 2
    have hsizes := congrArg TextMap.size hrecords
    rw [TextMap.size_mapValues, TextMap.size_mapValues] at hsizes
    rw [hfirst] at hwhole
    refine ⟨hsize, r', units, done₂, r₂, heq, hoff, ?_, hagain, hsizes.trans hwhole⟩
    rw [hoff.size_eq, FilePath.text_ofText, hbeside]

end Registry

end Lookalike
