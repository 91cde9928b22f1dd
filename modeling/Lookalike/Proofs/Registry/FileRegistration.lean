import Mathlib.Data.Option.Basic
import Lookalike.Proofs.Registry.Agreement
import Lookalike.Proofs.Store.Faithful
import Lookalike.Proofs.Text.FilePath

/-! ### Files coming in

A file that comes in takes the place of its own records and leaves those of other files alone. Which
of its units come in is up to the settings; what they become is up to the records that are there
when they come, since the first unit of a name stays. Everything here is about a store that does not
fail. -/

namespace Lookalike

open Python

/-- Whether a name is that of a test, among functions or among classes. -/
def isTestName : UnitKind → String → Bool
  | .module, _ => false
  | .function, name => name.startsWith "test_" || name.endsWith "_test"
  | .class, name => name.startsWith "Test"

namespace Settings

/-- A unit is left out: it is no module, and it has too few lines or is a test that is not
wanted. -/
def Excludes (s : Settings) (u : CodeUnit) : Prop :=
  u.kind ≠ .module ∧
    (u.lineCount < s.minLines ∨ s.includeTests = false ∧ isTestName u.kind u.name = true)

instance (s : Settings) (u : CodeUnit) : Decidable (s.Excludes u) :=
  inferInstanceAs (Decidable (_ ∧ _))

/-- Whether a unit is taken in: it has no more lines than allowed and is not left out. -/
def accepts (s : Settings) (u : CodeUnit) : Bool :=
  u.lineCount ≤ s.maxUnitLines ∧ ¬ s.Excludes u

variable (s : Settings) (u : CodeUnit)

/-- The units that are left out are found by their kinds. -/
lemma filtersOut_eq : s.filtersOut u = decide (s.Excludes u) := by
  rw [Bool.eq_iff_iff, decide_eq_true_iff]
  unfold filtersOut leavesOut Excludes
  cases u.kind <;> simp [isTestName]

/-- A unit that is found to be too long has more lines than allowed. -/
lemma not_isOversized_eq : (!s.isOversized u) = decide (u.lineCount ≤ s.maxUnitLines) := by
  rw [isOversized, Bool.eq_iff_iff]
  simp

/-- A unit is taken in that is neither found to be too long nor found to be left out. -/
lemma accepts_eq : s.accepts u = (!s.isOversized u && !s.filtersOut u) := by
  rw [not_isOversized_eq, filtersOut_eq, accepts, Bool.decide_and, decide_not]

/-- A unit is counted as left out that is not found to be too long. -/
lemma not_isOversized_and_filtersOut_eq :
    (!s.isOversized u && s.filtersOut u) =
      decide (u.lineCount ≤ s.maxUnitLines ∧ s.Excludes u) := by
  rw [not_isOversized_eq, filtersOut_eq, Bool.decide_and]

end Settings

namespace Registry

/-! #### Records of units -/

/-- Records with one of a unit, unless there is one of its name. -/
def recordsWith (now : Int) (m : TextMap Record) (u : CodeUnit) : TextMap Record :=
  if m.contains u.contentHash then m else m.insert u.contentHash (.ofUnit now u)

section Units

variable {now : Int} {m : TextMap Record}

/-- At a name stands the record that stood there, or else that of a unit of the name. -/
lemma get?_recordsWith (u : CodeUnit) (id : String) :
    (recordsWith now m u).get? id =
      (m.get? id).or (if u.contentHash = id then some (.ofUnit now u) else none) := by
  rw [recordsWith, TextMap.contains_eq_isSome_get?]
  by_cases hid : u.contentHash = id
  · subst hid
    cases hget : m.get? u.contentHash with
    | none => simp [TextMap.get?_insert]
    | some x => simp [hget]
  · rw [if_neg hid, Option.or_none]
    split
    · rfl
    · rw [TextMap.get?_insert, if_neg hid]

/-- After some units, at a name stands the record that stood there, or else that of the first unit
of the name. -/
lemma get?_foldl_recordsWith (us : List CodeUnit) (id : String) :
    (us.foldl (recordsWith now) m).get? id =
      (m.get? id).or ((us.find? (·.contentHash = id)).map (.ofUnit now)) := by
  induction us generalizing m with
  | nil => simp
  | cons u rest ih =>
    rw [List.foldl_cons, ih, get?_recordsWith, Option.or_assoc]
    by_cases hid : u.contentHash = id <;> simp [hid]

/-- A record that is there stays. -/
lemma get?_foldl_recordsWith_of_eq_some {id : String} {x : Record} (h : m.get? id = some x)
    (us : List CodeUnit) : (us.foldl (recordsWith now) m).get? id = some x := by
  rw [get?_foldl_recordsWith, h, Option.some_or]

/-- The records that are not of a file are the same after a unit of the file. -/
lemma filter_recordsWith {u : CodeUnit} {file : String} (hu : u.file = some file) :
    (recordsWith now m u).filter (fun _ x => !x.isFrom file) =
      m.filter fun _ x => !x.isFrom file := by
  rw [recordsWith, TextMap.contains_eq_isSome_get?]
  cases hget : m.get? u.contentHash with
  | some x => rfl
  | none =>
    have hfrom : (Record.ofUnit now u).isFrom file = true := decide_eq_true hu
    refine TextMap.filter_insert hget ?_
    rw [hfrom, Bool.not_true]

/-- The records that are not of a file are the same after units of the file. -/
lemma filter_foldl_recordsWith {us : List CodeUnit} {file : String}
    (hus : ∀ u ∈ us, u.file = some file) :
    (us.foldl (recordsWith now) m).filter (fun _ x => !x.isFrom file) =
      m.filter fun _ x => !x.isFrom file := by
  induction us generalizing m with
  | nil => rfl
  | cons u rest ih =>
    obtain ⟨hu, hrest⟩ := List.forall_mem_cons.1 hus
    rw [List.foldl_cons, ih hrest, filter_recordsWith hu]

end Units

/-! #### Units coming in -/

section ComingIn

variable {σ : Type} {now : Int} {r r' r'' : Registry (Unreliable σ)}

/-- From a registry `r` over a store without failures ahead, the units `us` have come in one after
another, and stand in the registry `r'` as the records `xs`. -/
structure CameIn (now : Int) (us : List CodeUnit) (r : Registry (Unreliable σ)) (xs : List Record)
    (r' : Registry (Unreliable σ)) : Prop where
  calm : r'.store.failures = []
  settings_eq : r'.settings = r.settings
  skips_eq : r'.skips = r.skips
  records_eq : r'.records = us.foldl (recordsWith now) r.records
  registered : xs.map some = us.map fun u => r'.records.get? u.contentHash

/-- No units have come in. -/
lemma CameIn.refl (now : Int) (h : r.store.failures = []) : CameIn now [] r [] r :=
  ⟨h, rfl, rfl, rfl, rfl⟩

/-- Units come in after others. -/
lemma CameIn.trans {us vs : List CodeUnit} {xs ys : List Record} (h : CameIn now us r xs r')
    (h' : CameIn now vs r' ys r'') : CameIn now (us ++ vs) r (xs ++ ys) r'' := by
  refine ⟨h'.calm, h'.settings_eq.trans h.settings_eq, h'.skips_eq.trans h.skips_eq, ?_, ?_⟩
  · rw [h'.records_eq, h.records_eq, List.foldl_append]
  · rw [List.map_append, List.map_append, h'.registered, h.registered]
    congr 1
    refine List.map_congr_left fun u hu => ?_
    -- What stands at the name of an earlier unit is not changed by later ones.
    have hmem : r'.records.get? u.contentHash ∈ xs.map some :=
      h.registered ▸ List.mem_map_of_mem hu
    obtain ⟨x, -, hx⟩ := List.mem_map.1 hmem
    rw [h'.records_eq, ← hx, get?_foldl_recordsWith_of_eq_some hx.symm]

variable [RecordStore σ] [SteadyStore σ]

/-- A unit comes in. -/
lemma exists_registerUnit_eq_ok (hcalm : r.store.failures = []) (now : Int) (u : CodeUnit) :
    ∃ x r', r.registerUnit now u = (.ok x, r') ∧ CameIn now [u] r [x] r' := by
  have hcontains := TextMap.contains_eq_isSome_get? r.records u.contentHash
  unfold registerUnit
  cases hget : r.records.get? u.contentHash with
  | some x =>
    rw [hget] at hcontains
    refine ⟨x, r, rfl, hcalm, rfl, rfl, ?_, ?_⟩
    · simp [recordsWith, hcontains]
    · simp [hget]
  | none =>
    rw [hget] at hcontains
    obtain ⟨fresh, t, hinsert⟩ := Unreliable.exists_insert_eq_ok r.store.store (.ofUnit now u)
    rw [← hcalm] at hinsert
    refine ⟨.ofUnit now u, load { r with store := ⟨t, []⟩ } (.ofUnit now u), ?_, rfl, rfl, rfl, ?_,
      ?_⟩
    · simp only
      rw [hinsert]
      simp only [hcalm]
    · simp [recordsWith, hcontains, load, Record.ofUnit]
    · simp [load, Record.ofUnit, TextMap.get?_insert]

/-- Of some units those come in that are accepted, and the others are counted. -/
lemma exists_registerUnits_eq_ok (hcalm : r.store.failures = []) (now : Int) (us : List CodeUnit)
    (done : Registration) :
    ∃ xs r', CameIn now (us.filter r.settings.accepts) r xs r' ∧
      registerUnits now r us done =
        (.ok { done with
          registered := done.registered ++ xs
          oversized := done.oversized + us.countP r.settings.isOversized
          filtered := done.filtered +
            us.countP fun u => !r.settings.isOversized u && r.settings.filtersOut u }, r') := by
  induction us generalizing r done with
  | nil => exact ⟨[], r, .refl now hcalm, by simp [registerUnits]⟩
  | cons u rest ih =>
    unfold registerUnits
    by_cases hlong : r.settings.isOversized u = true
    · obtain ⟨xs, r', hcame, heq⟩ := ih hcalm { done with oversized := done.oversized + 1 }
      refine ⟨xs, r', ?_, ?_⟩
      · rwa [List.filter_cons_of_neg (by simp [Settings.accepts_eq, hlong])]
      · simp [hlong, heq, Nat.add_assoc, Nat.add_comm 1]
    · by_cases hout : r.settings.filtersOut u = true
      · obtain ⟨xs, r', hcame, heq⟩ := ih hcalm { done with filtered := done.filtered + 1 }
        refine ⟨xs, r', ?_, ?_⟩
        · rwa [List.filter_cons_of_neg (by simp [Settings.accepts_eq, hout])]
        · simp [hlong, hout, heq, Nat.add_assoc, Nat.add_comm 1]
      · obtain ⟨x, r₁, hunit, hfirst⟩ := exists_registerUnit_eq_ok hcalm now u
        obtain ⟨xs, r', hcame, heq⟩ :=
          ih hfirst.calm { done with registered := done.registered ++ [x] }
        rw [hfirst.settings_eq] at hcame heq
        refine ⟨x :: xs, r', ?_, ?_⟩
        · rw [List.filter_cons_of_pos (by simp [Settings.accepts_eq, hlong, hout])]
          exact hfirst.trans hcame
        · simp [hlong, hout, hunit, heq]

/-- Without a failure ahead, the records of a file go. -/
lemma exists_removeFile_eq_ok (hcalm : r.store.failures = []) (file : String) :
    ∃ removed store, store.failures = [] ∧
      r.removeFile file = (.ok removed, r.dropFile file store) := by
  obtain ⟨removed, t, hremove⟩ := Unreliable.exists_removeFile_eq_ok r.store.store file
  rw [← hcalm] at hremove
  unfold removeFile
  rw [hremove]
  exact ⟨_, ⟨t, r.store.failures⟩, hcalm, rfl⟩

end ComingIn

/-! #### The whole file -/

section WholeFile

variable {σ : Type}

/-- The records of a registry that are not of a file. -/
def recordsBeside (r : Registry σ) (file : String) : TextMap Record :=
  r.records.filter fun _ x => !x.isFrom file

/-- What a file with some units does to a registry `r`: the answer to the request is `done`, and
`r'` the registry after it. -/
structure TakesIn (now : Int) (file : String) (units : List CodeUnit) (r : Registry σ)
    (done : Registration) (r' : Registry σ) : Prop where
  /-- The records that are not of the file are as they were. -/
  beside_eq : r'.recordsBeside file = r.recordsBeside file
  /-- The names in use are those of such records and of the accepted units. -/
  isSome_iff (id : String) :
    (r'.get? id).isSome ↔ ((r.recordsBeside file).get? id).isSome ∨
      ∃ u ∈ units.filter r.settings.accepts, u.contentHash = id
  /-- Any other record is that of the first accepted unit of its name. -/
  get?_eq (id : String) : (r.recordsBeside file).get? id = none →
    r'.get? id = ((units.filter r.settings.accepts).find? (·.contentHash = id)).map (.ofUnit now)
  /-- For each accepted unit the answer has the record that stands under its name. -/
  registered : done.registered.map some =
    (units.filter r.settings.accepts).map fun u => r'.get? u.contentHash
  /-- Units with too many lines are counted, whether or not they would be left out too. -/
  oversized : done.oversized = units.countP fun u => r.settings.maxUnitLines < u.lineCount
  /-- Other units that are left out are counted. -/
  filtered : done.filtered =
    units.countP fun u => u.lineCount ≤ r.settings.maxUnitLines ∧ r.settings.Excludes u
  /-- Each unit is accepted or counted. -/
  length_eq : (units.filter r.settings.accepts).length + done.oversized + done.filtered =
    units.length
  /-- The text was not passed over. -/
  unparsable : done.unparsable = 0
  /-- The counts are added up. -/
  skips_eq : r'.skips =
    { r.skips with
      oversized := r.skips.oversized + done.oversized
      filtered := r.skips.filtered + done.filtered }

/-- What a file without a program does to a registry `r`: its records go, it is counted, and `r'` is
the registry after it. -/
structure PassesOver (file : String) (r : Registry σ) (done : Registration) (r' : Registry σ) :
    Prop where
  records_eq : r'.records = r.recordsBeside file
  done_eq : done = { Registration.none with unparsable := 1 }
  skips_eq : r'.skips = { r.skips with unparsable := r.skips.unparsable + 1 }

/-- Each unit is accepted, too long, or left out. -/
lemma length_filter_accepts (s : Settings) (us : List CodeUnit) :
    (us.filter s.accepts).length + us.countP s.isOversized +
      us.countP (fun u => !s.isOversized u && s.filtersOut u) = us.length := by
  induction us with
  | nil => rfl
  | cons u rest ih =>
    rw [List.length_cons, ← ih, List.filter_cons]
    cases hlong : s.isOversized u <;> cases hout : s.filtersOut u <;>
      simp [Settings.accepts_eq, hlong, hout] <;> omega

/-- Without the records of a file no more of them go. -/
lemma recordsBeside_dropFile (r : Registry σ) (file : String) (store : σ) :
    (r.dropFile file store).recordsBeside file = r.recordsBeside file := by
  change (r.records.filter fun _ x => !x.isFrom file).filter (fun _ x => !x.isFrom file) = _
  rw [TextMap.filter_filter]
  exact TextMap.filter_congr fun e _ => Bool.and_self _

variable {r : Registry (Unreliable σ)} [RecordStore σ]

/-- A text without a program is passed over. -/
lemma registerText_of_extract_eq_error {e : ParseError} (now : Int) {file source : String}
    (hextract : CodeUnit.extract source (some file) = .error e) :
    r.registerText now file source =
      (.ok { Registration.none with unparsable := 1 }, r.skipUnparsable) := by
  rw [registerText, hextract]

variable [SteadyStore σ]

/-- Without a failure ahead, a text is taken in for a file without records. -/
lemma exists_registerText_eq_ok (hcalm : r.store.failures = []) (now : Int) {file source : String}
    {units : List CodeUnit} (hextract : CodeUnit.extract source (some file) = .ok units)
    (hbeside : r.recordsBeside file = r.records) :
    ∃ done r', r.registerText now file source = (.ok done, r') ∧
      TakesIn now file units r done r' := by
  obtain ⟨xs, r', hcame, heq⟩ := exists_registerUnits_eq_ok hcalm now units .none
  unfold registerText
  simp only [hextract, heq]
  refine ⟨_, _, rfl, ?_⟩
  have hfile : ∀ u ∈ units.filter r.settings.accepts, u.file = some file := fun u hu =>
    CodeUnit.file_eq_of_mem_extract hextract (List.mem_of_mem_filter hu)
  have hget (id : String) : r'.get? id = ((r.recordsBeside file).get? id).or
      (((units.filter r.settings.accepts).find? (·.contentHash = id)).map (.ofUnit now)) := by
    rw [Registry.get?, hcame.records_eq, get?_foldl_recordsWith, hbeside]
  have hbeside' : r'.recordsBeside file = r.recordsBeside file := by
    rw [recordsBeside, hcame.records_eq, filter_foldl_recordsWith hfile]
    rfl
  refine ⟨hbeside', fun id => ?_, fun id hid => ?_, hcame.registered, ?_, ?_, ?_, rfl, ?_⟩
  · change (r'.get? id).isSome ↔ _
    rw [hget, Option.isSome_or, Bool.or_eq_true, Option.isSome_map, List.find?_isSome]
    simp
  · change r'.get? id = _
    rw [hget, hid, Option.none_or]
  · exact Nat.zero_add _
  · refine (Nat.zero_add _).trans (congrArg (units.countP ·) (funext fun u => ?_))
    exact r.settings.not_isOversized_and_filtersOut_eq u
  · simpa [Registration.none] using length_filter_accepts r.settings units
  · simp [Registration.none, hcame.skips_eq]

/-- The text of a file is taken in. -/
lemma exists_registerFile_eq_ok (r : Registry (Unreliable σ)) (now : Int) {path : FilePath}
    {source : String} {reader : SourceReader} (hread : reader.read path = .ok source)
    {units : List CodeUnit} (hextract : CodeUnit.extract source (some path.text) = .ok units) :
    ∃ done r', (r.facing []).registerFile now path reader = (.ok done, r') ∧
      TakesIn now path.text units r done r' := by
  obtain ⟨removed, store, hcalm, hremove⟩ :=
    exists_removeFile_eq_ok (r := r.facing []) rfl path.text
  have hbeside := recordsBeside_dropFile (r.facing []) path.text store
  obtain ⟨done, r', htext, htakes⟩ := exists_registerText_eq_ok hcalm now hextract hbeside
  unfold registerFile
  simp only [hread, hremove, htext]
  exact ⟨done, r', rfl, { htakes with
    beside_eq := htakes.beside_eq.trans hbeside
    isSome_iff := fun id => hbeside ▸ htakes.isSome_iff id
    get?_eq := fun id => hbeside ▸ htakes.get?_eq id }⟩

/-- A file without a program is passed over. -/
lemma exists_registerFile_passesOver (r : Registry (Unreliable σ)) (now : Int) {path : FilePath}
    {reader : SourceReader}
    (h : reader.read path = .error .undecodable ∨ ∃ source e, reader.read path = .ok source ∧
      CodeUnit.extract source (some path.text) = .error e) :
    ∃ done r', (r.facing []).registerFile now path reader = (.ok done, r') ∧
      PassesOver path.text r done r' := by
  obtain ⟨removed, store, hcalm, hremove⟩ :=
    exists_removeFile_eq_ok (r := r.facing []) rfl path.text
  unfold registerFile
  obtain hread | ⟨source, e, hread, hextract⟩ := h
  · simp only [hread, hremove]
    exact ⟨_, _, rfl, ⟨rfl, rfl, rfl⟩⟩
  · simp only [hread, hremove, registerText_of_extract_eq_error now hextract]
    exact ⟨_, _, rfl, ⟨rfl, rfl, rfl⟩⟩

end WholeFile

/-- **Registration of files**: into any reachable registry, over a store that does not fail, a file
comes in as follows. If its text is a program, its units take the place of the records of the file.
If its bytes are no text or its text is no program, its records go and the file is counted. If it
cannot be read for another reason, the request fails with this reason and changes nothing, whatever
the store is going to do. -/
theorem registerFile_takes_in {σ : Type} [RecordStore σ] [LawfulStore σ] [SteadyStore σ]
    {r : Registry (Unreliable σ)} (h : Reachable r) (now : Int) (path : FilePath)
    (reader : SourceReader) :
    (∀ source units, reader.read path = .ok source →
      CodeUnit.extract source (some path.text) = .ok units →
        ∃ done r', (r.facing []).registerFile now path reader = (.ok done, r') ∧
          TakesIn now path.text units r done r' ∧ r'.Agrees) ∧
    ((reader.read path = .error .undecodable ∨ ∃ source e, reader.read path = .ok source ∧
      CodeUnit.extract source (some path.text) = .error e) →
        ∃ done r', (r.facing []).registerFile now path reader = (.ok done, r') ∧
          PassesOver path.text r done r' ∧ r'.Agrees) ∧
    ∀ reason, reader.read path = .error (.failed reason) → ∀ failures,
      (r.facing failures).registerFile now path reader =
        (.error (.reading reason), r.facing failures) := by
  have hagrees : ((r.facing []).registerFile now path reader).2.Agrees :=
    (Reachable.handled [] (.registerFile now path reader) h).agrees
  refine ⟨fun source units hread hextract => ?_, fun hpassed => ?_, fun reason hread failures => ?_⟩
  · obtain ⟨done, r', heq, htakes⟩ := exists_registerFile_eq_ok r now hread hextract
    rw [heq] at hagrees
    exact ⟨done, r', heq, htakes, hagrees⟩
  · obtain ⟨done, r', heq, hover⟩ := exists_registerFile_passesOver r now hpassed
    rw [heq] at hagrees
    exact ⟨done, r', heq, hover, hagrees⟩
  · rw [registerFile, hread]

/-- Settings under which units of one line come in. -/
def oneLineSettings : Settings :=
  { Settings.default with maxUnitLines := 1 }

/-- A store with a record of each of two files. -/
def storeOfTwoFiles : MemoryStore :=
  ⟨⟨[("x", { Record.ofUnit 0 { plainUnit with file := some "a.py" } with id := "x" }),
      ("y", { Record.ofUnit 0 { plainUnit with file := some "b.py" } with id := "y" })],
    ascending_iff_map_fst.2 (by decide)⟩, by simp [Keyed]⟩

/-- The text of a function and of a test. -/
def functionAndTest : String :=
  "def f(): pass\ndef test_g(): pass\n"

/-- Of the units of the text the function is accepted, the module has too many lines, and the test
is left out. -/
lemma exists_extract_functionAndTest :
    ∃ units, CodeUnit.extract functionAndTest (some "a.py") = .ok units ∧
      (units.filter oneLineSettings.accepts).length = 1 ∧
      (∀ u ∈ units.filter oneLineSettings.accepts, u.contentHash ≠ "x") ∧
      (units.countP fun u => oneLineSettings.maxUnitLines < u.lineCount) = 1 ∧
      (units.countP fun u =>
        u.lineCount ≤ oneLineSettings.maxUnitLines ∧ oneLineSettings.Excludes u) = 1 := by
  have hunits : (CodeUnit.extract functionAndTest (some "a.py")).toOption.map (fun units =>
      (units.filter oneLineSettings.accepts).length = 1 ∧
      (∀ u ∈ units.filter oneLineSettings.accepts, u.contentHash ≠ "x") ∧
      (units.countP fun u => oneLineSettings.maxUnitLines < u.lineCount) = 1 ∧
      (units.countP fun u =>
        u.lineCount ≤ oneLineSettings.maxUnitLines ∧ oneLineSettings.Excludes u) = 1 : _ → Bool) =
        some true := by decide +kernel
  cases hextract : CodeUnit.extract functionAndTest (some "a.py") with
  | error e => rw [hextract] at hunits; cases hunits
  | ok units =>
    rw [hextract] at hunits
    exact ⟨units, rfl, of_decide_eq_true (Option.some.inj hunits)⟩

/-- A function and a test take the place of the record of their file in a registry that holds a
record of another file too; a file whose bytes are no text, and one that is missing, do not. -/
theorem registerFile_takes_in_functionAndTest :
    (∃ done r', ((openedOver storeOfTwoFiles oneLineSettings).facing []).registerFile 0 "a.py"
        ⟨fun _ => .ok functionAndTest, fun _ => true⟩ = (.ok done, r') ∧
      r'.get? "x" = none ∧ (r'.get? "y").isSome ∧
      done.registered.length = 1 ∧ done.oversized = 1 ∧ done.filtered = 1) ∧
    (∃ done r', ((openedOver storeOfTwoFiles oneLineSettings).facing []).registerFile 0 "a.py"
        ⟨fun _ => .error .undecodable, fun _ => true⟩ = (.ok done, r') ∧ r'.size = 1 ∧
      r'.skips.unparsable = 1) ∧
    (((openedOver storeOfTwoFiles oneLineSettings).facing []).registerFile 0 "a.py"
        ⟨fun _ => .error (.failed "missing"), fun _ => false⟩).1 = .error (.reading "missing") := by
  have hreachable := reachable_openedOver storeOfTwoFiles oneLineSettings
  have hsettings := settings_openedOver storeOfTwoFiles oneLineSettings
  have hbeside : (openedOver storeOfTwoFiles oneLineSettings).recordsBeside "a.py" =
      storeOfTwoFiles.records.filter fun _ x => !x.isFrom "a.py" := by
    rw [recordsBeside, records_openedOver]
  refine ⟨?_, ?_, ?_⟩
  · obtain ⟨units, hextract, haccepted, hother, hlong, hleft⟩ := exists_extract_functionAndTest
    obtain ⟨done, r', heq, htakes, -⟩ := (registerFile_takes_in hreachable 0 "a.py"
      ⟨fun _ => .ok functionAndTest, fun _ => true⟩).1 functionAndTest units rfl
        (by rw [FilePath.text_ofText]; exact hextract)
    have hoversized := htakes.oversized
    have hfiltered := htakes.filtered
    have hregistered := congrArg List.length htakes.registered
    rw [hsettings] at hoversized hfiltered hregistered
    rw [List.length_map, List.length_map] at hregistered
    refine ⟨done, r', heq, ?_, ?_, hregistered.trans haccepted, hoversized.trans hlong,
      hfiltered.trans hleft⟩
    · rw [← Option.not_isSome_iff_eq_none, htakes.isSome_iff, hsettings, FilePath.text_ofText,
        hbeside]
      rintro (hold | ⟨u, hu, hid⟩)
      · cases hold
      · exact hother u hu hid
    · rw [htakes.isSome_iff, FilePath.text_ofText, hbeside]
      exact .inl rfl
  · obtain ⟨done, r', heq, hover, -⟩ := (registerFile_takes_in hreachable 0 "a.py"
      ⟨fun _ => .error .undecodable, fun _ => true⟩).2.1 (.inl rfl)
    refine ⟨done, r', heq, ?_, ?_⟩
    · rw [size, hover.records_eq, FilePath.text_ofText, hbeside]
      rfl
    · rw [hover.skips_eq, skips_openedOver]
      rfl
  · rw [(registerFile_takes_in hreachable 0 "a.py"
      ⟨fun _ => .error (.failed "missing"), fun _ => false⟩).2.2 "missing" rfl []]

end Registry

end Lookalike
