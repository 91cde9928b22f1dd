import Mathlib.Data.List.Perm.Basic
import Lookalike.Proofs.Registry.FileRegistration
import Lookalike.Registry.Batch

/-! ### The order of the files in a batch

Files may share units, and the file that comes first owns what it shares with others. In a batch of
different files that starts without records this decides which file a record is of, but never which
names are in use: no file of the batch has records before it comes in, so that none are dropped, and
what each file adds to the names and to the tally depends on the file alone.

Records know their files by the texts of paths. Files are different here if these texts are: of two
paths with one text, the one that comes later drops the records of the other. -/

namespace Lookalike

open Python

/-- The units of a file that are taken in, if the file can be read and its text is a program. -/
def Settings.acceptedFrom (s : Settings) (reader : SourceReader) (path : FilePath) :
    List CodeUnit :=
  match reader.read path with
  | .error _ => []
  | .ok source =>
    match CodeUnit.extract source (some path.text) with
    | .error _ => []
    | .ok units => units.filter s.accepts

namespace Tally

/-- Two tallies added up. -/
def plus (t u : Tally) : Tally :=
  ⟨t.begun + u.begun, t.registered + u.registered, t.oversized + u.oversized,
    t.filtered + u.filtered, t.unparsable + u.unparsable, t.unreadable + u.unreadable⟩

/-- What a file adds to a tally: its units by what becomes of them, or why there are none. -/
def ofFile (s : Settings) (reader : SourceReader) (path : FilePath) : Tally :=
  match reader.read path with
  | .error (.failed _) => { zero with begun := 1, unreadable := 1 }
  | .error .undecodable => { zero with begun := 1, unparsable := 1 }
  | .ok source =>
    match CodeUnit.extract source (some path.text) with
    | .error _ => { zero with begun := 1, unparsable := 1 }
    | .ok units =>
      { zero with
        begun := 1
        registered := (units.filter s.accepts).length
        oversized := units.countP fun u => s.maxUnitLines < u.lineCount
        filtered := units.countP fun u => u.lineCount ≤ s.maxUnitLines ∧ s.Excludes u }

/-- What some files add up to. -/
def ofFiles (s : Settings) (reader : SourceReader) (paths : List FilePath) : Tally :=
  (paths.map (ofFile s reader)).foldl plus zero

/-- To add up tallies, one may be put before another. -/
lemma plus_right_comm (t u v : Tally) : (t.plus u).plus v = (t.plus v).plus u := by
  simp only [plus, Nat.add_right_comm]

/-- What some files add up to does not depend on their order. -/
lemma ofFiles_eq_of_perm (s : Settings) (reader : SourceReader) {paths paths' : List FilePath}
    (h : paths.Perm paths') : ofFiles s reader paths = ofFiles s reader paths' :=
  have : RightCommutative plus := ⟨plus_right_comm⟩
  (h.map (ofFile s reader)).foldl_eq zero

end Tally

namespace Registry

variable {σ : Type}

/-! #### One file -/

/-- No record of a registry is of any of some files. -/
def IsWithout (r : Registry σ) (files : List String) : Prop :=
  ∀ x ∈ r.records.values, ∀ file ∈ files, x.isFrom file = false

/-- Without records of a file, all records are beside it. -/
lemma IsWithout.recordsBeside_eq {r : Registry σ} {file : String} {files : List String}
    (h : r.IsWithout files) (hfile : file ∈ files) : r.recordsBeside file = r.records := by
  refine TextMap.filter_eq_self fun e he => ?_
  rw [h e.2 (List.mem_map_of_mem he) file hfile]
  rfl

/-- A file that leaves the records beside its own alone brings no records of other files. -/
lemma IsWithout.of_beside_eq {r r' : Registry σ} {file : String} {files : List String}
    (h : r.IsWithout files) (hfile : file ∉ files)
    (hbeside : r'.recordsBeside file = r.recordsBeside file) : r'.IsWithout files := by
  intro x hx other hother
  refine Bool.eq_false_iff.2 fun hfrom => ?_
  have hne : x.isFrom file = false := by
    refine Bool.eq_false_iff.2 fun hfrom' => hfile ?_
    have heq : some other = some file :=
      (of_decide_eq_true hfrom).symm.trans (of_decide_eq_true hfrom')
    exact Option.some.inj heq ▸ hother
  have hvalues : ∀ s : Registry σ, (s.recordsBeside file).values =
      s.records.values.filter fun x => !x.isFrom file := fun s => TextMap.values_filter s.records _
  have hx' : x ∈ (r'.recordsBeside file).values := by
    rw [hvalues]
    exact List.mem_filter.2 ⟨hx, by rw [hne]; rfl⟩
  rw [hbeside, hvalues] at hx'
  rw [h x (List.mem_of_mem_filter hx') other hother] at hfrom
  cases hfrom

/-! #### File after file -/

section Batch

variable {now : Int} {reader : SourceReader} {path : FilePath} {paths : List FilePath}
  {r r' r'' : Registry (Unreliable σ)}

/-- From a registry `r` over a store without failures ahead, some files have come in or were passed
over, and `r'` is the registry after them. -/
structure Joined (reader : SourceReader) (paths : List FilePath)
    (r r' : Registry (Unreliable σ)) : Prop where
  calm : r'.store.failures = []
  settings_eq : r'.settings = r.settings
  isSome_iff (id : String) : (r'.get? id).isSome ↔ (r.get? id).isSome ∨
    ∃ path ∈ paths, ∃ u ∈ r.settings.acceptedFrom reader path, u.contentHash = id

/-- Files come in after others. -/
lemma Joined.cons (h : Joined reader [path] r r') (h' : Joined reader paths r' r'') :
    Joined reader (path :: paths) r r'' := by
  refine ⟨h'.calm, h'.settings_eq.trans h.settings_eq, fun id => ?_⟩
  rw [h'.isSome_iff, h.isSome_iff, h.settings_eq, or_assoc]
  simp

/-- A registry over a store without failures ahead faces no failures. -/
lemma facing_nil_of_calm (h : r.store.failures = []) : r.facing [] = r := by
  rw [facing, ← h]

variable [RecordStore σ]

/-- Requests keep a store without failures ahead, and the settings. -/
lemma kept_calm (s : Settings) :
    Kept fun r : Registry (Unreliable σ) => r.store.failures = [] ∧ r.settings = s where
  pass _ h := h
  load := by
    rintro r x fresh store ⟨hcalm, hsettings⟩ - hinsert
    obtain ⟨_, -, hnext⟩ := Unreliable.exists_of_answer_map_eq_ok hinsert
    obtain ⟨-, rfl⟩ := Prod.mk.inj hnext
    exact ⟨by simp [load, Unreliable.next, hcalm], hsettings⟩
  dropFile := by
    rintro r file removed store ⟨hcalm, hsettings⟩ hremove
    obtain ⟨_, -, hnext⟩ := Unreliable.exists_of_answer_map_eq_ok hremove
    obtain ⟨-, rfl⟩ := Prod.mk.inj hnext
    exact ⟨by simp [dropFile, Unreliable.next, hcalm], hsettings⟩
  clear := by
    rintro r store ⟨hcalm, hsettings⟩ hclear
    obtain ⟨_, -, rfl⟩ := Unreliable.exists_of_answer_map_eq_ok hclear
    exact ⟨by simp [new, Unreliable.next, hcalm], hsettings⟩

/-- A file that comes in leaves a store without failures ahead, and the settings. -/
lemma calm_of_registerFile_eq (hcalm : r.store.failures = [])
    {answer : Except RegistryError Registration}
    (heq : r.registerFile now path reader = (answer, r')) :
    r'.store.failures = [] ∧ r'.settings = r.settings := by
  have hkept : (r.registerFile now path reader).2.store.failures = [] ∧
      (r.registerFile now path reader).2.settings = r.settings :=
    ((kept_calm r.settings).keptFor fun _ => True).registerFile ⟨hcalm, rfl⟩ now
      fun _ _ _ _ _ _ => trivial
  rwa [heq] at hkept

variable [SteadyStore σ]

/-- A file without a program and without records is passed over, and nothing else happens. -/
lemma exists_joined_of_passedOver (hcalm : r.store.failures = []) (now : Int)
    (hbeside : r.recordsBeside path.text = r.records)
    (hno : reader.read path = .error .undecodable ∨ ∃ source e, reader.read path = .ok source ∧
      CodeUnit.extract source (some path.text) = .error e) :
    ∃ r', r.registerFile now path reader = (.ok { Registration.none with unparsable := 1 }, r') ∧
      Joined reader [path] r r' ∧ r'.recordsBeside path.text = r.recordsBeside path.text := by
  obtain ⟨done, r', heq, hover⟩ := exists_registerFile_passesOver r now hno
  rw [facing_nil_of_calm hcalm, hover.done_eq] at heq
  obtain ⟨hcalm', hsettings⟩ := calm_of_registerFile_eq hcalm heq
  have hrecords : r'.records = r.records := hover.records_eq.trans hbeside
  have hnone : r.settings.acceptedFrom reader path = [] := by
    obtain hread | ⟨source, e, hread, hextract⟩ := hno
    · simp [Settings.acceptedFrom, hread]
    · simp [Settings.acceptedFrom, hread, hextract]
  refine ⟨r', heq, ⟨hcalm', hsettings, fun id => ?_⟩, ?_⟩
  · simp [hnone, get?, hrecords]
  · rw [recordsBeside, hrecords, recordsBeside]

/-- A file without records comes in, and its accepted units with it. -/
lemma exists_joined_of_extract_eq_ok (hcalm : r.store.failures = []) (now : Int)
    (hbeside : r.recordsBeside path.text = r.records) {source : String} {units : List CodeUnit}
    (hread : reader.read path = .ok source)
    (hextract : CodeUnit.extract source (some path.text) = .ok units) :
    ∃ done r', r.registerFile now path reader = (.ok done, r') ∧
      TakesIn now path.text units r done r' ∧ Joined reader [path] r r' := by
  obtain ⟨done, r', heq, htakes⟩ := exists_registerFile_eq_ok r now hread hextract
  rw [facing_nil_of_calm hcalm] at heq
  obtain ⟨hcalm', hsettings⟩ := calm_of_registerFile_eq hcalm heq
  refine ⟨done, r', heq, htakes, hcalm', hsettings, fun id => ?_⟩
  rw [htakes.isSome_iff, hbeside]
  simp [Settings.acceptedFrom, hread, hextract, get?]

/-- A file without records comes into a batch, or is passed over: it adds to the names and to the
tally, and leaves the records of other files alone. -/
lemma exists_registerFilesFrom_cons (hcalm : r.store.failures = []) (now : Int)
    (reader : SourceReader) (hbeside : r.recordsBeside path.text = r.records) :
    ∃ r', (∀ tally paths, registerFilesFrom now reader tally (path :: paths) r =
        registerFilesFrom now reader (tally.plus (.ofFile r.settings reader path)) paths r') ∧
      Joined reader [path] r r' ∧ r'.recordsBeside path.text = r.recordsBeside path.text := by
  cases hread : reader.read path with
  | error e =>
    cases e with
    | failed reason =>
      -- A file that cannot be read counts in the tally alone.
      have heq : r.registerFile now path reader = (.error (.reading reason), r) := by
        rw [registerFile, hread]
      refine ⟨r, fun tally paths => ?_, ⟨hcalm, rfl, fun id => ?_⟩, rfl⟩
      · rw [registerFilesFrom, heq]
        simp [Tally.ofFile, hread, Tally.plus, Tally.zero, Tally.start, Tally.addUnreadable]
      · simp [Settings.acceptedFrom, hread]
    | undecodable =>
      obtain ⟨r', heq, hjoined, hsame⟩ := exists_joined_of_passedOver hcalm now hbeside (.inl hread)
      refine ⟨r', fun tally paths => ?_, hjoined, hsame⟩
      rw [registerFilesFrom, heq]
      simp [Tally.ofFile, hread, Tally.plus, Tally.zero, Tally.start, Tally.add, Registration.none]
  | ok source =>
    cases hextract : CodeUnit.extract source (some path.text) with
    | error e =>
      obtain ⟨r', heq, hjoined, hsame⟩ := exists_joined_of_passedOver hcalm now hbeside
        (.inr ⟨source, e, hread, hextract⟩)
      refine ⟨r', fun tally paths => ?_, hjoined, hsame⟩
      rw [registerFilesFrom, heq]
      simp [Tally.ofFile, hread, hextract, Tally.plus, Tally.zero, Tally.start, Tally.add,
        Registration.none]
    | ok units =>
      obtain ⟨done, r', heq, htakes, hjoined⟩ :=
        exists_joined_of_extract_eq_ok hcalm now hbeside hread hextract
      have hlength : done.registered.length = (units.filter r.settings.accepts).length := by
        rw [← List.length_map, htakes.registered, List.length_map]
      refine ⟨r', fun tally paths => ?_, hjoined, htakes.beside_eq⟩
      rw [registerFilesFrom, heq]
      simp [Tally.ofFile, hread, hextract, Tally.plus, Tally.zero, Tally.start, Tally.add,
        hlength, htakes.oversized, htakes.filtered, htakes.unparsable]

/-- Different files without records come in one after another: the batch does not end early, and
each file adds to the names and to the tally. -/
lemma exists_registerFilesFrom_eq (hcalm : r.store.failures = []) (now : Int)
    (reader : SourceReader) (hpaths : (paths.map FilePath.text).Nodup)
    (hwithout : r.IsWithout (paths.map FilePath.text)) (tally : Tally) :
    ∃ r', registerFilesFrom now reader tally paths r =
        (⟨(paths.map (Tally.ofFile r.settings reader)).foldl Tally.plus tally, none⟩, r') ∧
      Joined reader paths r r' := by
  induction paths generalizing r tally with
  | nil => exact ⟨r, rfl, ⟨hcalm, rfl, fun id => by simp⟩⟩
  | cons path rest ih =>
    obtain ⟨hpath, hrest⟩ := List.nodup_cons.1 hpaths
    have hbeside := hwithout.recordsBeside_eq List.mem_cons_self
    obtain ⟨r₁, hstep, hjoined, hsame⟩ := exists_registerFilesFrom_cons hcalm now reader hbeside
    have hwithout₁ : r₁.IsWithout (rest.map FilePath.text) := by
      refine IsWithout.of_beside_eq (fun x hx other hother => ?_) hpath hsame
      exact hwithout x hx other (List.mem_cons_of_mem _ hother)
    obtain ⟨r', heq, hjoined'⟩ := ih hjoined.calm hrest hwithout₁
      (tally.plus (.ofFile r.settings reader path))
    refine ⟨r', ?_, hjoined.cons hjoined'⟩
    rw [hstep, heq, hjoined.settings_eq, List.map_cons, List.foldl_cons]

end Batch

/-- **Batches without an order**: into a registry without records, over a store that does not fail,
the files at some paths come in one after another, whatever can be read of them, if no two of the
paths have the same text. The batch does not end early. Its tally is what the files add up to, each
by itself, and the names in use afterwards are those of the accepted units of the files. So another
order of the paths, at another time, ends with the same tally and the same names, although the files
of the records may differ. -/
theorem registerFiles_order_independent {σ : Type} [RecordStore σ] [SteadyStore σ]
    {r : Registry (Unreliable σ)} (hempty : r.records = .empty) (reader : SourceReader)
    {paths paths' : List FilePath} (hpaths : (paths.map FilePath.text).Nodup)
    (hperm : paths.Perm paths') (now now' : Int) :
    ∃ r₁ r₂,
      (r.facing []).registerFiles now paths reader =
        (⟨.ofFiles r.settings reader paths, none⟩, r₁) ∧
      (r.facing []).registerFiles now' paths' reader =
        (⟨.ofFiles r.settings reader paths, none⟩, r₂) ∧
      r₁.records.keys = r₂.records.keys ∧
      ∀ id, id ∈ r₁.records.keys ↔
        ∃ path ∈ paths, ∃ u ∈ r.settings.acceptedFrom reader path, u.contentHash = id := by
  have hwithout : ∀ files, (r.facing []).IsWithout files := by
    intro files x hx
    rw [facing, hempty] at hx
    cases hx
  have hget : ∀ id, (r.facing []).get? id = none := by
    intro id
    rw [get?, facing, hempty]
    rfl
  have hpaths' : (paths'.map FilePath.text).Nodup := (hperm.map FilePath.text).nodup_iff.1 hpaths
  obtain ⟨r₁, heq₁, hjoined₁⟩ := exists_registerFilesFrom_eq (r := r.facing []) rfl now reader
    hpaths (hwithout _) .zero
  obtain ⟨r₂, heq₂, hjoined₂⟩ := exists_registerFilesFrom_eq (r := r.facing []) rfl now' reader
    hpaths' (hwithout _) .zero
  refine ⟨r₁, r₂, heq₁, ?_, ?_, fun id => ?_⟩
  · rw [Tally.ofFiles_eq_of_perm r.settings reader hperm]
    exact heq₂
  · refine TextMap.keys_eq_of_isSome_iff fun id => ?_
    refine (hjoined₁.isSome_iff id).trans ((hjoined₂.isSome_iff id).trans ?_).symm
    simp only [hperm.mem_iff]
  · refine TextMap.mem_keys_iff.trans ((hjoined₁.isSome_iff id).trans ?_)
    rw [hget]
    exact or_iff_right Bool.false_ne_true

/-- Three paths, of which two have bytes that are no text. Their texts are different. -/
def somePaths : List FilePath :=
  ["a.py", ⟨[0xFF]⟩, ⟨[0xFF, 0xFF]⟩]

/-- A reader of files without text, of which one cannot be read. -/
def emptyFiles : SourceReader :=
  ⟨fun path => if path = ⟨[0xFF, 0xFF]⟩ then .error (.failed "denied") else .ok "", fun _ => true⟩

/-- Two files with one text and one that cannot be read, in two orders: each of the two counts, and
their record is there once. -/
theorem registerFiles_order_independent_somePaths :
    ∃ r₁ r₂ : Registry (Unreliable MemoryStore),
      ((new ⟨.empty, []⟩ .default).facing []).registerFiles 0 somePaths emptyFiles =
        (⟨⟨3, 2, 0, 0, 0, 1⟩, none⟩, r₁) ∧
      ((new ⟨.empty, []⟩ .default).facing []).registerFiles 1 somePaths.reverse emptyFiles =
        (⟨⟨3, 2, 0, 0, 0, 1⟩, none⟩, r₂) ∧
      r₁.records.keys = r₂.records.keys ∧ ∀ id ∈ r₁.records.keys, id = Sha256.ofText "" := by
  have htally : Tally.ofFiles .default emptyFiles somePaths = ⟨3, 2, 0, 0, 0, 1⟩ := by
    decide +kernel
  have htexts : ∀ path ∈ somePaths,
      ∀ u ∈ Settings.default.acceptedFrom emptyFiles path, u.source = "" := by
    decide +kernel
  have hpaths : (somePaths.map FilePath.text).Nodup := by decide
  obtain ⟨r₁, r₂, heq₁, heq₂, hkeys, hnames⟩ := registerFiles_order_independent
    (r := (new ⟨.empty, []⟩ .default : Registry (Unreliable MemoryStore))) rfl emptyFiles hpaths
    (List.reverse_perm _).symm 0 1
  refine ⟨r₁, r₂, htally ▸ heq₁, htally ▸ heq₂, hkeys, fun id hid => ?_⟩
  obtain ⟨path, hpath, u, hu, rfl⟩ := (hnames id).1 hid
  rw [CodeUnit.contentHash, htexts path hpath u hu]

/-- Two paths that differ in a byte that is no text. -/
def likePaths : List FilePath :=
  [⟨[0x64, 0xFE]⟩, ⟨[0x64, 0xFF]⟩]

/-- A reader of files without text but for one, whose bytes are no text. -/
def oneUndecodable : SourceReader :=
  ⟨fun path => if path = ⟨[0x64, 0xFF]⟩ then .error .undecodable else .ok "", fun _ => true⟩

/-- Two different paths have one text. In one order the file without a program comes later and drops
the record of the other one; in the other order the record stays. -/
theorem registerFiles_order_dependent_likePaths :
    likePaths.Nodup ∧ ¬ (likePaths.map FilePath.text).Nodup ∧
      ((new (⟨.empty, []⟩ : Unreliable MemoryStore) .default).registerFiles 0 likePaths
        oneUndecodable).2.size = 0 ∧
      ((new (⟨.empty, []⟩ : Unreliable MemoryStore) .default).registerFiles 0 likePaths.reverse
        oneUndecodable).2.size = 1 := by
  refine ⟨by decide, by decide, by decide +kernel, by decide +kernel⟩

end Registry

end Lookalike
