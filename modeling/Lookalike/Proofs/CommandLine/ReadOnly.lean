import Mathlib
import Lookalike.CommandLine.Run
import Lookalike.Proofs.FileTree.Making
import Lookalike.Proofs.Registry.Reopening

/-! ### Commands that only read

A run opens the database before it carries out its command, and drops the records of files that are
not there any more. A command that only reads leaves it at that. Run once more, it finds the
database as it was left, with nothing to drop, and has the same answer. -/

namespace Lookalike

open Node

/-! #### Opening what was opened -/

namespace Registry

variable {σ : Type} [RecordStore σ] [LawfulStore σ] [FaithfulStore σ] {s : σ}
  {settings : Settings} {reader : SourceReader} {r : Registry σ}

/-- After an opening a faithful store gives the records that are not stale. -/
lemma all_store_of_openStore_eq_ok {xs : List Record} (hall : RecordStore.all s = .ok xs)
    (h : openStore s settings reader = .ok r) :
    RecordStore.all r.store = .ok (xs.filter (!isStale reader ·)) := by
  obtain ⟨ys, left, hys, hdrop, rfl⟩ := exists_of_openStore_eq_ok h
  obtain rfl := Except.ok.inj (hall.symm.trans hys)
  refine (all_eq_of_dropFiles_eq_ok hall hdrop).trans (congrArg Except.ok ?_)
  refine List.filter_congr fun x hx => ?_
  rw [any_isFrom_staleFiles hx]

/-- What was opened is opened again as the same registry. -/
lemma openStore_again (h : openStore s settings reader = .ok r) :
    openStore r.store settings reader = .ok r := by
  obtain ⟨xs, left, hall, -, rfl⟩ := exists_of_openStore_eq_ok h
  have hkept := all_store_of_openStore_eq_ok hall h
  have hnone : (xs.filter (!isStale reader ·)).filter (isStale reader) = [] := by
    rw [List.filter_filter, List.filter_eq_nil_iff]
    intro x _
    cases isStale reader x <;> decide
  have hsame : (xs.filter (!isStale reader ·)).filter (!isStale reader ·) =
      xs.filter (!isStale reader ·) := by
    rw [List.filter_filter]
    exact List.filter_congr fun x _ => Bool.and_self _
  unfold openStore
  simp only [bind, Except.bind, hkept, hnone, hsame]
  rw [foldl_load, foldl_load]
  rfl

omit [LawfulStore σ] [FaithfulStore σ] in
/-- A steady store that gives its records can be opened. -/
lemma exists_openStore_of_all_eq_ok [SteadyStore σ] {xs : List Record}
    (hall : RecordStore.all s = .ok xs) (settings : Settings) (reader : SourceReader) :
    ∃ r, openStore s settings reader = .ok r := by
  obtain ⟨t, hdrop⟩ := exists_dropFiles_eq_ok
    (TextSet.ofList ((xs.filter (isStale reader)).filterMap (·.file))).items s
  have hleft := dropFiles_store_eq_ok hdrop
  unfold openStore
  simp only [bind, Except.bind, hall, hleft]
  exact ⟨_, rfl⟩

end Registry

namespace CommandLine

/-! #### The database -/

section Database

variable {tree t t' : FileTree} {path : String} {table table' : Table} {found : Option Place}

/-- A database is not kept in a file, or stands at the place of its path, where nothing or a file
with the table stood. -/
lemma cases_of_openDatabase (h : openDatabase tree path = (t', some (table, found))) :
    (path = memoryPath ∧ t' = tree ∧ table = .empty ∧ found = none) ∨
    ∃ t place, path ≠ memoryPath ∧ tree.prepare path = (t, some place) ∧ found = some place ∧
      t' = t.put place (.file (.table table)) ∧
      (t.root.at? place = none ∧ table = .empty ∨
        ∃ content, t.root.at? place = some (.file content) ∧ content.table? = some table) := by
  unfold openDatabase at h
  split at h
  · rename_i hmemory
    obtain ⟨rfl, hsome⟩ := Prod.mk.inj h
    obtain ⟨rfl, rfl⟩ := Prod.mk.inj (Option.some.inj hsome)
    exact .inl ⟨hmemory, rfl, rfl, rfl⟩
  · rename_i hmemory
    split at h
    · cases (Prod.mk.inj h).2
    · rename_i t place hprepare
      split at h
      · rename_i hnone
        obtain ⟨rfl, hsome⟩ := Prod.mk.inj h
        obtain ⟨rfl, rfl⟩ := Prod.mk.inj (Option.some.inj hsome)
        exact .inr ⟨t, place, hmemory, hprepare, rfl, rfl, .inl ⟨hnone, rfl⟩⟩
      · rename_i content hfile
        split at h
        · rename_i held hheld
          obtain ⟨rfl, hsome⟩ := Prod.mk.inj h
          obtain ⟨rfl, rfl⟩ := Prod.mk.inj (Option.some.inj hsome)
          exact .inr ⟨t, place, hmemory, hprepare, rfl, rfl, .inr ⟨content, hfile, hheld⟩⟩
        · cases (Prod.mk.inj h).2
      · cases (Prod.mk.inj h).2

/-- A tree grows when a database in it is opened and another table is left there. -/
lemma growsTo_saveDatabase (h : openDatabase tree path = (t', some (table, found)))
    (table' : Table) : tree.GrowsTo (saveDatabase t' table' found) := by
  rcases cases_of_openDatabase h with ⟨-, rfl, -, rfl⟩ | ⟨t, place, -, hprepare, rfl, rfl, hplace⟩
  · exact .refl _
  · have hprepared := FileTree.growsTo_prepare tree path
    rw [hprepare] at hprepared
    change tree.GrowsTo ((t.put place _).put place _)
    rw [FileTree.put_put]
    refine hprepared.trans (FileTree.growsTo_put_file ?_ _)
    rcases hplace with ⟨hnone, -⟩ | ⟨content, hfile, -⟩
    · exact .inl hnone
    · exact .inr ⟨content, hfile⟩

/-- A table that was left where the path of a database leads is found there again, and nothing is
changed. -/
lemma exists_openDatabase_left {place : Place} (hmemory : path ≠ memoryPath)
    (hprepare : tree.prepare path = (t, some place))
    (hplace : t.root.at? place = none ∨ ∃ content, t.root.at? place = some (.file content))
    (hblocked : IsBlocked t.root place → table' = .empty) :
    ∃ s, openDatabase (t.put place (.file (.table table'))) path =
        (s, some (table', some place)) ∧
      (t.put place (.file (.table table'))).AgreesBy face s ∧
      saveDatabase s table' (some place) = s := by
  have hgrows := FileTree.growsTo_put_file hplace (.table table')
  obtain ⟨s, hagain, hagree⟩ := FileTree.exists_prepare_again hprepare hgrows
  have hface : ∀ n : Node, n.face.face = n.face := fun n => by cases n <;> rfl
  refine ⟨s.put place (.file (.table table')), ?_, hagree.trans ?_, FileTree.put_put _ _ _ _⟩
  · rcases at?_put_self t.root place (.file (.table table')) with hself | hway
    · have hfile := eq_some_file_of_face (hagree.agree place) hself
      simp only [openDatabase, if_neg hmemory, hagain, hfile, Content.table?]
    · have hnone := (hway.of_grows (hgrows.trans hagree.veil_of_face.growsTo).grows).at?_eq_none
      rw [hblocked hway]
      simp only [openDatabase, if_neg hmemory, hblocked hway ▸ hagain, hnone]
  · rcases at?_put_self t.root place (.file (.table table')) with hself | hway
    · have hfile := eq_some_file_of_face (hagree.agree place) hself
      exact ⟨rfl, agreeBy_put hface hfile (isLeaf_file _) (isLeaf_file _) rfl⟩
    · have hway' := hway.of_grows (hgrows.trans hagree.veil_of_face.growsTo).grows
      exact ⟨rfl, hway'.agreeBy_put _⟩

/-- A database that was left at its place is opened there again, and nothing is changed. -/
lemma exists_openDatabase_again (h : openDatabase tree path = (t', some (table, found)))
    (hempty : table = .empty → table' = .empty) :
    t'.AgreesBy veil (saveDatabase t' table' found) ∧
      ∃ s, openDatabase (saveDatabase t' table' found) path = (s, some (table', found)) ∧
        (saveDatabase t' table' found).AgreesBy face s ∧ saveDatabase s table' found = s := by
  rcases cases_of_openDatabase h with
    ⟨rfl, rfl, htable, rfl⟩ | ⟨t, place, hmemory, hprepare, rfl, rfl, hplace⟩
  · rw [hempty htable]
    exact ⟨.refl _ _, t', by rw [saveDatabase, openDatabase, if_pos rfl], .refl _ _, rfl⟩
  · have hnew : t.root.at? place = none ∨ ∃ content, t.root.at? place = some (.file content) :=
      hplace.imp And.left fun ⟨content, hfile, _⟩ => ⟨content, hfile⟩
    have hblocked : IsBlocked t.root place → table' = .empty := by
      intro hway
      rcases hplace with ⟨-, htable⟩ | ⟨content, hfile, -⟩
      · exact hempty htable
      · rw [hway.at?_eq_none] at hfile
        cases hfile
    constructor
    · refine ⟨rfl, ?_⟩
      rcases at?_put_self t.root place (.file (.table table)) with hself | hway
      · exact agreeBy_put veil_face hself (isLeaf_file _) (isLeaf_file _) rfl
      · have hway' := hway.of_grows (FileTree.growsTo_put_file hnew (.table table)).grows
        exact (hway'.agreeBy_put _).veil_of_face
    · change ∃ s, openDatabase ((t.put place _).put place _) path = _ ∧
        ((t.put place _).put place _).AgreesBy face s ∧ _
      rw [FileTree.put_put]
      exact exists_openDatabase_left hmemory hprepare hnew hblocked

end Database

/-! #### Commands -/

/-- Whether a command only reads, and asks no judge. -/
def Command.isReadOnly : Command → Bool
  | .register _ => false
  | .similar _ _ _ => true
  | .duplicates _ _ model _ => model.isNone
  | .graph _ _ => true
  | .relations _ => true
  | .statistics => true
  | .clear => false

/-- A command that only reads leaves the registry, and its answer is up to the registry and the
texts of files. -/
lemma Command.perform_of_isReadOnly {σ : Type} [RecordStore σ] {c : Command}
    (hc : c.isReadOnly = true) (around around' : Surroundings) {tree tree' : FileTree}
    (hread : tree'.read = tree.read) (json : Bool) (database : String) (r : Registry σ) :
    (c.perform around tree json database r).2 = r ∧
      c.perform around' tree' json database r = c.perform around tree json database r := by
  cases c with
  | register paths => cases hc
  | clear => cases hc
  | graph threshold mode => exact ⟨rfl, rfl⟩
  | relations goal => exact ⟨rfl, rfl⟩
  | statistics => exact ⟨rfl, rfl⟩
  | similar file name threshold =>
    refine ⟨rfl, congrArg (·, r) ?_⟩
    unfold CommandLine.similar
    rw [hread]
  | duplicates threshold mode model limit =>
    refine ⟨rfl, congrArg (·, r) ?_⟩
    obtain rfl := Option.isNone_iff_eq_none.1 hc
    unfold CommandLine.duplicates
    cases (r.duplicates threshold mode .idle).1 <;> rfl

/-! #### Runs -/

/-- The records in the database at a path, if it can be opened and all of its rows make records. -/
def recordsAt (tree : FileTree) (path : String) : Option (List Record) :=
  (openDatabase tree path).2.bind fun (table, _) => (RecordStore.all table).toOption

section Runs

variable {around : Surroundings} {i : Invocation} {tree tree' : FileTree} {o : Outcome}

/-- The records at a path are those of the table in the database. -/
lemma recordsAt_eq_some_iff {path : String} {xs : List Record} :
    recordsAt tree path = some xs ↔ ∃ t table found,
      openDatabase tree path = (t, some (table, found)) ∧ RecordStore.all table = .ok xs := by
  rw [recordsAt]
  constructor
  · intro h
    obtain ⟨⟨table, found⟩, hopened, hall⟩ := Option.bind_eq_some_iff.1 h
    refine ⟨(openDatabase tree path).1, table, found, Prod.ext rfl hopened, ?_⟩
    change (RecordStore.all table).toOption = some xs at hall
    cases hxs : RecordStore.all table with
    | error e => rw [hxs] at hall; cases hall
    | ok ys =>
      rw [hxs] at hall
      exact congrArg Except.ok (Option.some.inj hall)
  · rintro ⟨t, table, found, hopened, hall⟩
    rw [hopened]
    simp only [Option.bind_some, hall, Except.toOption]

/-- A run over a database that is opened carries out its command, and leaves the store of the
registry behind. -/
lemma invoke_of_openStore_eq_ok {path : String} {t : FileTree} {table : Table}
    {found : Option Place} {r : Registry Table}
    (hpath : i.databasePath (around.lookup "HOME") = path)
    (hopen : openDatabase tree path = (t, some (table, found)))
    (hstore : Registry.openStore table (.ofEnvironment around.lookup) t.reader = .ok r) :
    invoke around i tree =
      ((i.command.perform around t i.json path r).1,
        saveDatabase t (i.command.perform around t i.json path r).2.store found) := by
  unfold invoke
  simp only [hpath, hopen, hstore]

/-- Where nothing has to be made for a database that a run opens, the files of its records are there
after the run if they were there before. -/
lemma filter_has_of_prepare_eq {path : String} {t : FileTree} {table table' : Table}
    {found : Option Place} (h : openDatabase tree path = (t, some (table, found)))
    (hprepare : (tree.prepare path).1 = tree) {xs : List Record}
    (hall : RecordStore.all table = .ok xs) :
    (xs.filter fun x => x.file.all (saveDatabase t table' found).has) =
      xs.filter fun x => x.file.all tree.has := by
  have hnone : table = .empty → xs = [] := by
    rintro rfl
    exact (Except.ok.inj hall).symm
  rcases cases_of_openDatabase h with
    ⟨-, -, htable, -⟩ | ⟨t₁, place, -, hprepared, rfl, rfl, ⟨-, htable⟩ | ⟨content, hfile, -⟩⟩
  · rw [hnone htable]
    rfl
  · rw [hnone htable]
    rfl
  · rw [hprepared] at hprepare
    obtain rfl : t₁ = tree := hprepare
    have hagree : t₁.AgreesBy outline (saveDatabase (t₁.put place (.file (.table table))) table'
        (some place)) := by
      rw [saveDatabase, FileTree.put_put]
      exact FileTree.agreesBy_outline_put_file hfile _
    rw [FileTree.has_eq_of_growsTo hagree.growsTo_of_outline hagree.symm.growsTo_of_outline]

/-- An empty table is opened as it is. -/
lemma store_eq_empty_of_openStore {settings : Settings} {reader : SourceReader}
    {r : Registry Table} (h : Registry.openStore .empty settings reader = .ok r) :
    r.store = .empty := by
  have hnew : Registry.openStore .empty settings reader =
      .ok (Registry.new Table.empty settings) := rfl
  obtain rfl := Except.ok.inj (hnew.symm.trans h)
  rfl

end Runs

/-- **Commands that only read**: whatever the environment and the files are, if the rows of the
database make records, then a run of a command that only reads leaves in the database these records,
as they were, without those whose file is not there. What paths lead to is there after the run if it
was there before; and if no directory has to be made on the way to the database, the records that
stay are those whose file was there before. Another run with the same environment and the files that
the first one has left, at any time, has the same outcome, in which only the time that was taken is
left open, and changes nothing in the files. -/
theorem readOnly_run {around : Surroundings} {args : List String} {i : Invocation} {path : String}
    {tree tree' : FileTree} {o : Outcome} {xs : List Record} (hargs : readArguments args = .ok i)
    (hpath : i.databasePath (around.lookup "HOME") = path) (hcommand : i.command.isReadOnly = true)
    (hrows : recordsAt tree path = some xs) (hrun : run around args tree = (o, tree')) :
    recordsAt tree' path = some (xs.filter fun x => x.file.all tree'.has) ∧
      (∀ file, tree.has file = true → tree'.has file = true) ∧
      ((tree.prepare path).1 = tree →
        recordsAt tree' path = some (xs.filter fun x => x.file.all tree.has)) ∧
      ∀ now judge, ∃ tree'', run ⟨around.lookup, now, judge⟩ args tree' = (o, tree'') ∧
        tree'.AgreesBy face tree'' ∧ recordsAt tree'' path = recordsAt tree' path := by
  -- The run opens the database, which drops what is stale, and saves it as the command leaves it:
  -- unchanged.
  obtain ⟨t, table, found, hopen, hall⟩ := recordsAt_eq_some_iff.1 hrows
  obtain ⟨r, hstore⟩ := Registry.exists_openStore_of_all_eq_ok hall
    (.ofEnvironment around.lookup) t.reader
  have hkept : (i.command.perform around t i.json path r).2 = r :=
    (Command.perform_of_isReadOnly hcommand around around rfl i.json path r).1
  have hinvoke := invoke_of_openStore_eq_ok hpath hopen hstore
  rw [hkept] at hinvoke
  rw [run, hargs] at hrun
  obtain ⟨rfl, rfl⟩ := Prod.mk.inj (hinvoke.symm.trans hrun)
  have hempty : table = .empty → r.store = .empty := by
    rintro rfl
    exact store_eq_empty_of_openStore hstore
  have hleft := Registry.all_store_of_openStore_eq_ok hall hstore
  -- Opened a second time, the database has the table that was saved, among the same files.
  obtain ⟨hveil, s, hagain, hagree, hsaved⟩ := exists_openDatabase_again hopen hempty
  have hreader : s.reader = t.reader := (hveil.trans hagree.veil_of_face).reader_eq.symm
  have hhas : (saveDatabase t r.store found).has = t.has :=
    FileTree.has_eq_of_growsTo hveil.symm.growsTo hveil.growsTo
  have hrecords : recordsAt (saveDatabase t r.store found) path =
      some (xs.filter fun x => x.file.all (saveDatabase t r.store found).has) := by
    rw [recordsAt_eq_some_iff.2 ⟨s, r.store, found, hagain, hleft⟩, hhas]
    refine congrArg some (List.filter_congr fun x _ => ?_)
    rw [Registry.not_isStale]
    exact congrArg (fun has => x.file.all has) (funext t.has_reader)
  refine ⟨hrecords, fun file hfile => ?_, fun hprepare => ?_, fun now judge => ⟨s, ?_, hagree, ?_⟩⟩
  · exact (growsTo_saveDatabase hopen r.store).has_eq_true hfile
  · rw [hrecords, filter_has_of_prepare_eq hopen hprepare hall]
  · have hopened : Registry.openStore r.store (.ofEnvironment around.lookup) s.reader = .ok r := by
      rw [hreader]
      exact Registry.openStore_again hstore
    have hread : s.read = t.read := funext (hveil.trans hagree.veil_of_face).symm.read_eq
    have hsame := (Command.perform_of_isReadOnly hcommand around ⟨around.lookup, now, judge⟩ hread
      i.json path r).2
    have hsecond : invoke ⟨around.lookup, now, judge⟩ i _ = _ :=
      invoke_of_openStore_eq_ok hpath hagain hopened
    rw [hsame, hkept, hsaved] at hsecond
    rw [run, hargs]
    exact hsecond
  · -- Opened a third time, the database has the same table.
    obtain ⟨-, s', hthird, -, -⟩ := exists_openDatabase_again hagain fun h => h
    rw [hsaved] at hthird
    rw [recordsAt_eq_some_iff.2 ⟨s', r.store, found, hthird, hleft⟩,
      recordsAt_eq_some_iff.2 ⟨s, r.store, found, hagain, hleft⟩]

/-- A record of a function in a file, under a given name. -/
def recordFrom (id file : String) : Record :=
  { Record.ofUnit 0 { Registry.plainUnit with file := some file } with id := id }

/-- A table with the records of two files. -/
def twoFiles : Table :=
  ⟨[("1", .ofRecord (recordFrom "1" "a")), ("2", .ofRecord (recordFrom "2" "b"))],
    ascending_iff_map_fst.2 (by decide)⟩

/-- A tree with one of the two files, and the table in a database beside it. -/
def besideOneFile : FileTree :=
  ⟨.directory [("a", .file (.bytes .empty)), ("d", .file (.table twoFiles))], []⟩

/-- The database is at its place. -/
lemma prepare_besideOneFile : besideOneFile.prepare "d" = (besideOneFile, some ["d"]) := by
  have hsteps : PathName.steps "d" = [.named "d"] := by cbv
  simp [FileTree.prepare, FileTree.enterAll, hsteps, besideOneFile, follow, at?, child?]

/-- One of the two files is there. -/
lemma has_besideOneFile : besideOneFile.has "a" = true ∧ besideOneFile.has "b" = false := by
  have hsegments : PathName.segments "a" = ["a"] ∧ PathName.segments "b" = ["b"] := by
    constructor <;> cbv
  simp [FileTree.has, FileTree.find?, origin, hsegments, besideOneFile, follow, at?, child?]

/-- The database has a record of each of the two files. -/
lemma exists_recordsAt_besideOneFile : ∃ xs, recordsAt besideOneFile "d" = some xs ∧
    xs.map (·.file) = [some "a", some "b"] := by
  have hopen : (openDatabase besideOneFile "d").2 = some (twoFiles, some ["d"]) := by
    have hfile : besideOneFile.root.at? ["d"] = some (.file (.table twoFiles)) := by
      simp [besideOneFile, at?, child?]
    simp [openDatabase, memoryPath, prepare_besideOneFile, hfile, Content.table?]
  have hall : RecordStore.all twoFiles =
      .ok [(recordFrom "1" "a").remade, (recordFrom "2" "b").remade] := by
    have hone : 1 < UInt32.size := by decide
    have hnarrow : ∀ id file, (recordFrom id file).unit.IsNarrow := fun _ _ => ⟨hone, hone, hone⟩
    refine Table.records?_eq_ok_iff.2 (.cons ?_ (.cons ?_ .nil))
    · exact Row.toRecord?_ofRecord (hnarrow "1" "a")
    · exact Row.toRecord?_ofRecord (hnarrow "2" "b")
  exact ⟨_, recordsAt_eq_some_iff.2 ⟨_, twoFiles, some ["d"], Prod.ext rfl hopen, hall⟩, rfl⟩

/-- Surroundings in which nothing is set. -/
def bareSurroundings : Surroundings :=
  ⟨fun _ => none, 0, fun _ _ _ _ => none⟩

/-- Statistics are asked for twice: the record of the file that is missing goes the first time, and
nothing changes the second time. -/
theorem readOnly_run_besideOneFile :
    ∃ o tree' tree'', run bareSurroundings ["--db", "d", "stats"] besideOneFile = (o, tree') ∧
      (recordsAt tree' "d").map (·.map (·.file)) = some [some "a"] ∧
      run bareSurroundings ["--db", "d", "stats"] tree' = (o, tree'') ∧
      recordsAt tree'' "d" = recordsAt tree' "d" := by
  have hargs : readArguments ["--db", "d", "stats"] = .ok ⟨some "d", false, .statistics⟩ := by cbv
  obtain ⟨xs, hrows, hxs⟩ := exists_recordsAt_besideOneFile
  obtain ⟨o, tree', hrun⟩ : ∃ o tree', run bareSurroundings ["--db", "d", "stats"] besideOneFile =
      (o, tree') := ⟨_, _, Prod.mk.eta.symm⟩
  obtain ⟨-, -, hthere, hagain⟩ := readOnly_run hargs (Option.getD_some ..) rfl hrows hrun
  obtain ⟨tree'', hsecond, -, hsame⟩ := hagain 0 bareSurroundings.judge
  refine ⟨o, tree', tree'', hrun, ?_, hsecond, hsame⟩
  have hfilter : (xs.filter fun x => x.file.all besideOneFile.has).map (·.file) =
      (xs.map (·.file)).filter (·.all besideOneFile.has) := by
    rw [List.filter_map]
    rfl
  rw [hthere (congrArg Prod.fst prepare_besideOneFile), Option.map_some, hfilter, hxs]
  simp [has_besideOneFile]

end CommandLine

end Lookalike
