import Lookalike.CommandLine.Run
import Lookalike.Proofs.FileTree.Plain
import Lookalike.Proofs.Ordered.Sorting

/-! ### Collecting Python files

In a tree without links the search for Python files takes each directory once and leaves out those
that are passed over with all that stands below them. It finds the Python files of the other
directories, and no others. Whatever the order in which a directory lists what stands in it, the
search sorts it by names; the files come out in the order of their places, so that none comes out
twice. -/

namespace Lookalike

open PathName

/-! #### Names -/

/-- The names of directories that are passed over: a full stop and something after it, or one of two
names. -/
def IsSkipped (name : String) : Prop :=
  (∃ rest, rest ≠ "" ∧ name = "." ++ rest) ∨ name = "__pycache__" ∨ name = "venv"

/-- A name that does not open with a full stop is passed over only if it is one of two names. -/
lemma not_isSkipped {name : String} (hdot : name.toList.head? ≠ some '.')
    (hcompiled : name ≠ "__pycache__") (henvironment : name ≠ "venv") : ¬ IsSkipped name := by
  rintro (⟨rest, -, rfl⟩ | hname | hname)
  · rw [String.toList_append] at hdot
    exact hdot rfl
  · exact hcompiled hname
  · exact henvironment hname

/-- Directories are passed over by their names. -/
lemma isPassedOver_iff (name : String) : isPassedOver name = true ↔ IsSkipped name := by
  have hhidden : name.startsWith "." = true ∧ 1 < name.length ↔
      ∃ rest, rest ≠ "" ∧ name = "." ++ rest := by
    rw [String.startsWith_string_iff]
    constructor
    · rintro ⟨⟨rest, hrest⟩, hlength⟩
      have hname : name = "." ++ String.ofList rest := by
        simp [← String.toList_inj, ← hrest]
      refine ⟨String.ofList rest, ?_, hname⟩
      intro hempty
      rw [hname, hempty] at hlength
      exact absurd hlength (by decide)
    · rintro ⟨rest, hne, rfl⟩
      rw [String.toList_append, String.length_append]
      have hpos : 0 < rest.length := by
        rw [← String.length_toList]
        exact List.length_pos_of_ne_nil (by simpa using hne)
      exact ⟨List.prefix_append _ _, Nat.lt_add_of_pos_right hpos⟩
  simp only [isPassedOver, Bool.or_eq_true, Bool.and_eq_true, decide_eq_true_eq, hhidden, IsSkipped,
    or_assoc]

/-- A place with the extension of Python files, before which something stands in its last name. -/
def Place.IsPython (p : Place) : Prop :=
  ∃ dir stem, stem ≠ "" ∧ p = dir ++ [stem ++ ".py"]

/-- Python files are found by their names. -/
lemma any_isPythonName_iff {p : Place} (h : ∀ name ∈ p, IsFileName name) :
    p.getLast?.any isPythonName = true ↔ p.IsPython := by
  have hext : '.' ∉ pythonExtension.toList := by decide
  rw [Option.any_eq_true]
  constructor
  · rintro ⟨name, hlast, hname⟩
    obtain ⟨dir, rfl⟩ := List.getLast?_eq_some_iff.1 hlast
    have hfile := h name (by simp)
    obtain ⟨stem, hstem, rfl⟩ := (hfile.extension?_eq_some_iff hext).1 (of_decide_eq_true hname)
    exact ⟨dir, stem, hstem, by rw [String.append_assoc]; rfl⟩
  · rintro ⟨dir, stem, hstem, rfl⟩
    have hfile := h (stem ++ ".py") (by simp)
    refine ⟨stem ++ ".py", List.getLast?_concat, decide_eq_true ?_⟩
    exact (hfile.extension?_eq_some_iff hext).2 ⟨stem, hstem, by rw [String.append_assoc]; rfl⟩

/-- Every directory from one place down to the one in which another place stands is searched. -/
def Place.IsSearched (p x : Place) : Prop :=
  ∀ dir, p <+: dir → dir <+: x → dir ≠ x → ∀ name ∈ dir.getLast?, ¬ IsSkipped name

/-- No directory is on the way from a place to itself. -/
lemma Place.isSearched_self (p : Place) : p.IsSearched p :=
  fun _ hfrom hto hne => absurd (hto.eq_of_length (hto.length_le.antisymm hfrom.length_le)) hne

/-- A directory on the way is searched, and those after it. -/
lemma Place.isSearched_append_cons (p : Place) (name : String) (rest : Place) :
    p.IsSearched (p ++ name :: rest) ↔
      (∀ name ∈ p.getLast?, ¬ IsSkipped name) ∧
        (p ++ [name]).IsSearched (p ++ [name] ++ rest) := by
  have hstep : p ++ name :: rest = p ++ [name] ++ rest := List.append_cons ..
  constructor
  · intro h
    refine ⟨h p List.prefix_rfl (List.prefix_append _ _) (by simp), fun dir hfrom hto hne => ?_⟩
    rw [← hstep] at hto hne
    exact h dir ((List.prefix_append _ _).trans hfrom) hto hne
  · rintro ⟨hhere, hrest⟩ dir ⟨names, rfl⟩ hto hne
    cases names with
    | nil => rwa [List.append_nil]
    | cons other names =>
      obtain ⟨rfl, -⟩ := List.cons_prefix_cons.1 ((List.prefix_append_right_inj p).1 hto)
      rw [hstep] at hto hne
      exact hrest _ ⟨names, (List.append_cons ..).symm⟩ hto hne

namespace Node

variable {root node : Node} {links : Nat} {place way : Place}

/-- Without links the files among some entries are those of one entry after another. -/
lemma pythonFilesAmong_eq_flatMap {entries : List (String × Node)}
    (h : ∀ e ∈ entries, IsPlain e.2) :
    root.pythonFilesAmong links place way entries =
      entries.flatMap fun e => root.pythonFiles links (place ++ [e.1]) (way ++ [e.1]) e.2 := by
  induction entries with
  | nil => rw [pythonFilesAmong, List.flatMap_nil]
  | cons e rest ih =>
    obtain ⟨name, node⟩ := e
    obtain ⟨hnode, hrest⟩ := List.forall_mem_cons.1 h
    rw [List.flatMap_cons, ← ih hrest]
    cases hnode with
    | file content => rw [pythonFilesAmong]; simp
    | directory _ _ _ => rw [pythonFilesAmong]; simp

/-- What is listed of a directory is what stands in it. -/
lemma mem_listed {entries : List (String × Node)} {e : String × Node} :
    e ∈ listed entries ↔ e ∈ entries :=
  List.mem_mergeSort

/-- Entries with different names are listed by ascending names. -/
lemma ascending_listed {entries : List (String × Node)} (h : (entries.map (·.1)).Nodup) :
    Ascending (listed entries) := by
  have hsorted : (listed entries).Pairwise fun x y => (compare x.1 y.1).isLE = true :=
    List.pairwise_mergeSort (Sorting.isLE_trans (compareOn fun e : String × Node => e.1))
      (Sorting.isLE_total (compareOn fun e : String × Node => e.1)) entries
  have hnames : ((listed entries).map (·.1)).Nodup :=
    ((List.mergeSort_perm entries _).map (·.1)).nodup_iff.2 h
  refine (hsorted.and (List.pairwise_map.1 hnames)).imp fun {x y} hxy => ?_
  exact Std.lt_of_le_of_ne (Sorting.isLE_compare_iff.1 hxy.1) hxy.2

/-- What is found in a directory is found below one of its entries, if the directory is searched. -/
lemma mem_pythonFiles_directory {entries : List (String × Node)} (h : ∀ e ∈ entries, IsPlain e.2)
    {x : Place} :
    x ∈ root.pythonFiles links place way (.directory entries) ↔
      (∀ name ∈ way.getLast?, ¬ IsSkipped name) ∧
        ∃ e ∈ entries, x ∈ root.pythonFiles links (place ++ [e.1]) (way ++ [e.1]) e.2 := by
  have hlast : (∀ name ∈ way.getLast?, ¬ IsSkipped name) ↔
      ¬ way.getLast?.any isPassedOver = true := by
    simp [Option.any_eq_false, ← isPassedOver_iff]
  rw [pythonFiles, pythonFilesAmong_eq_flatMap fun e he => h e (mem_listed.1 he), hlast]
  cases way.getLast?.any isPassedOver with
  | true => simp
  | false => simp [mem_listed]

/-- A Python file stands at a place below a node that is reached on a way, and every directory from
there on is searched. -/
def IsFound (way : Place) (node : Node) (x : Place) : Prop :=
  ∃ rest content, x = way ++ rest ∧ node.at? rest = some (.file content) ∧ x.IsPython ∧
    way.IsSearched x

/-- Below a file nothing stands but itself. -/
lemma isFound_file {content : Content} {x : Place} :
    IsFound way (.file content) x ↔ x = way ∧ way.IsPython := by
  constructor
  · rintro ⟨rest, held, rfl, hrest, hpython, -⟩
    cases rest with
    | nil => exact ⟨List.append_nil way, by rwa [List.append_nil] at hpython⟩
    | cons name rest => cases hrest
  · rintro ⟨rfl, hpython⟩
    exact ⟨[], content, (List.append_nil x).symm, rfl, hpython, x.isSearched_self⟩

/-- What stands below a directory stands below one of its entries. -/
lemma isFound_directory {entries : List (String × Node)} (h : (entries.map (·.1)).Nodup)
    {x : Place} :
    IsFound way (.directory entries) x ↔
      (∀ name ∈ way.getLast?, ¬ IsSkipped name) ∧
        ∃ e ∈ entries, IsFound (way ++ [e.1]) e.2 x := by
  constructor
  · rintro ⟨rest, content, rfl, hrest, hpython, hsearched⟩
    cases rest with
    | nil => cases hrest
    | cons name rest =>
      obtain ⟨inner, hchild, hrest⟩ := Option.bind_eq_some_iff.1 hrest
      obtain ⟨hhere, hsearched⟩ := (way.isSearched_append_cons name rest).1 hsearched
      rw [List.append_cons] at hpython ⊢
      exact ⟨hhere, (name, inner), (child?_eq_some_iff h).1 hchild, rest, content, rfl, hrest,
        hpython, hsearched⟩
  · rintro ⟨hhere, e, he, rest, content, rfl, hrest, hpython, hsearched⟩
    refine ⟨e.1 :: rest, content, (List.append_cons ..).symm, ?_, hpython, ?_⟩
    · rw [at?, (child?_eq_some_iff h).2 he, Option.bind_some, hrest]
    · rw [← List.append_cons, Place.isSearched_append_cons]
      exact ⟨hhere, hsearched⟩

/-- The search below a node without links finds the Python files of all directories that are
searched. -/
lemma IsPlain.mem_pythonFiles (h : IsPlain node) (hway : ∀ name ∈ way, IsFileName name)
    {x : Place} : x ∈ root.pythonFiles links place way node ↔ IsFound way node x := by
  induction h generalizing place way with
  | file content =>
    rw [isFound_file, ← any_isPythonName_iff hway, pythonFiles]
    cases way.getLast?.any isPythonName with
    | true => simp
    | false => simp
  | directory distinct named below ih =>
    rw [mem_pythonFiles_directory below, isFound_directory distinct]
    refine and_congr_right fun _ => exists_congr fun e => and_congr_right fun he => ?_
    exact ih e he (List.forall_mem_append.2 ⟨hway, by simpa using named e he⟩)

/-- The files that are found below a node without links come in the order of their places. -/
lemma IsPlain.pairwise_pythonFiles (h : IsPlain node) (hway : ∀ name ∈ way, IsFileName name) :
    (root.pythonFiles links place way node).Pairwise (· < ·) := by
  induction h generalizing place way with
  | file content =>
    rw [pythonFiles]
    split
    · exact List.pairwise_singleton _ _
    · exact .nil
  | @directory entries distinct named below ih =>
    rw [pythonFiles, pythonFilesAmong_eq_flatMap fun e he => below e (mem_listed.1 he)]
    split
    · exact .nil
    · have hname (e : String × Node) (he : e ∈ entries) :
          ∀ name ∈ way ++ [e.1], IsFileName name :=
        List.forall_mem_append.2 ⟨hway, by simpa using named e he⟩
      refine List.pairwise_flatMap.2
        ⟨fun e he => ih e (mem_listed.1 he) (hname e (mem_listed.1 he)), ?_⟩
      -- The entries are taken by ascending names, and what is found below them goes on from these.
      refine (ascending_listed distinct).imp_of_mem fun {e e'} he he' hlt x hx y hy => ?_
      rw [mem_listed] at he he'
      obtain ⟨rest, -, rfl, -⟩ := ((below e he).mem_pythonFiles (hname e he)).1 hx
      obtain ⟨rest', -, rfl, -⟩ := ((below e' he').mem_pythonFiles (hname e' he')).1 hy
      rw [List.append_assoc, List.append_assoc]
      exact List.append_left_lt (List.cons_lt_cons_iff.2 (.inl hlt))

end Node

namespace CommandLine

open Node

/-- **Python files are collected, each once**: from the path of any place in a tree without links
what is collected are exactly the files at or below this place that have the extension of Python
files, and above which every directory from this place on is searched. Their paths ascend, step by
step, so that none is repeated. Of a file itself nothing but the extension counts. -/
theorem collect_finds_pythonFiles {t : FileTree} {p : Place} {node : Node}
    (htree : t.root.IsPlain) (hroot : t.root.isDirectory = true)
    (hnode : t.root.at? p = some node) :
    ∃ found, t.root.pythonFiles maxLinks p p node = found ∧
      collect t [p.text] = some (found.map Place.text) ∧
      (∀ x, x ∈ found ↔ (∃ content, t.root.at? x = some (.file content)) ∧ p <+: x ∧
        x.IsPython ∧ p.IsSearched x) ∧
      found.Pairwise (· < ·) ∧
      (found.map Place.text).Pairwise (fun a b => compareSteps (steps a) (steps b) = .lt) ∧
      (found.map Place.text).Nodup ∧
      ∀ content, node = .file content →
        (p.IsPython → found = [p]) ∧ (¬ p.IsPython → found = []) := by
  have hplain := htree.of_at? hnode
  have hway := htree.isFileName_of_at? hnode
  have hmem (x : Place) : x ∈ t.root.pythonFiles maxLinks p p node ↔
      (∃ content, t.root.at? x = some (.file content)) ∧ p <+: x ∧ x.IsPython ∧
        p.IsSearched x := by
    rw [hplain.mem_pythonFiles hway]
    constructor
    · rintro ⟨rest, content, rfl, hrest, hpython, hsearched⟩
      refine ⟨⟨content, ?_⟩, List.prefix_append _ _, hpython, hsearched⟩
      rw [at?_append, hnode, Option.bind_some, hrest]
    · rintro ⟨⟨content, hx⟩, ⟨rest, rfl⟩, hpython, hsearched⟩
      rw [at?_append, hnode, Option.bind_some] at hx
      exact ⟨rest, content, rfl, hx, hpython, hsearched⟩
  have hplaces : (t.root.pythonFiles maxLinks p p node).Pairwise (· < ·) :=
    hplain.pairwise_pythonFiles hway
  have hpaths : ((t.root.pythonFiles maxLinks p p node).map Place.text).Pairwise
      fun a b => compareSteps (steps a) (steps b) = .lt := by
    refine List.pairwise_map.2 (hplaces.imp_of_mem fun {x y} hx hy hlt => ?_)
    obtain ⟨⟨_, hx⟩, -⟩ := (hmem x).1 hx
    obtain ⟨⟨_, hy⟩, -⟩ := (hmem y).1 hy
    exact Place.compareSteps_text (htree.isFileName_of_at? hx) (htree.isFileName_of_at? hy) hlt
  refine ⟨_, rfl, ?_, hmem, hplaces, hpaths, ?_, ?_⟩
  · simp [collect, FileTree.find?_text htree hroot hnode]
  · refine hpaths.imp fun {a b} hlt heq => ?_
    rw [heq, compareSteps_self] at hlt
    cases hlt
  · rintro content rfl
    rw [pythonFiles]
    have hpython := any_isPythonName_iff hway
    exact ⟨fun h => if_pos (hpython.2 h), fun h => if_neg (mt hpython.1 h)⟩

/-- A file without text. -/
def emptyFile : Node :=
  .file (.ofText "")

/-- A directory whose entries are in no order. Some of them have the extension of Python files, and
some are directories that are passed over. -/
def oddDirectory : Node :=
  .directory [("venv", .directory [("y.py", emptyFile)]),
    ("dir.py", .directory [("b.py", emptyFile)]), (".py", emptyFile),
    (".git", .directory [("x.py", emptyFile)]), ("notes.txt", emptyFile), (".a.py", emptyFile)]

/-- The tree in which the odd directory stands. -/
def oddRoot : Node :=
  .directory [("work", oddDirectory)]

/-- A file alone in a directory makes a tree without links. -/
lemma isPlain_singleton {name : String} (h : IsFileName name) :
    IsPlain (.directory [(name, emptyFile)]) :=
  .directory (List.nodup_singleton name) (List.forall_mem_singleton.2 h)
    (List.forall_mem_singleton.2 (.file _))

/-- The tree of the odd directory has no links. -/
lemma isPlain_oddRoot : IsPlain oddRoot := by
  refine .directory (List.nodup_singleton _) (by decide) (List.forall_mem_singleton.2 ?_)
  refine .directory (by decide) (by decide) ?_
  simp only [List.forall_mem_cons, List.not_mem_nil, false_imp_iff, implies_true, and_true]
  exact ⟨isPlain_singleton (by decide), isPlain_singleton (by decide), .file _,
    isPlain_singleton (by decide), .file _, .file _⟩

/-- In the odd directory those files are collected that have something before the extension, also in
a name that opens with a full stop or below a directory with the name of a Python file; those below
directories that are passed over are not. They are collected in order, although the directory lists
them in another one. -/
theorem collect_finds_pythonFiles_oddDirectory :
    ∃ found : List Place,
      collect ⟨oddRoot, []⟩ ["/work"] = some (found.map Place.text) ∧
      ["work", ".a.py"] ∈ found ∧ ["work", "dir.py", "b.py"] ∈ found ∧
      ["work", ".py"] ∉ found ∧ ["work", "venv", "y.py"] ∉ found ∧ found.Pairwise (· < ·) := by
  have hwork : ∃ node, oddRoot.at? ["work"] = some node := ⟨_, rfl⟩
  obtain ⟨node, hnode⟩ := hwork
  obtain ⟨found, -, hcollect, hmem, hascending, -, -, -⟩ :=
    collect_finds_pythonFiles (t := ⟨oddRoot, []⟩) isPlain_oddRoot rfl hnode
  have hfirst : ∀ name ∈ List.getLast? ["work"], ¬ IsSkipped name := by
    rintro name ⟨⟩
    exact not_isSkipped (by decide) (by decide) (by decide)
  have hsecond : ∀ name ∈ List.getLast? ["work", "dir.py"], ¬ IsSkipped name := by
    rintro name ⟨⟩
    exact not_isSkipped (by decide) (by decide) (by decide)
  have hhidden : Place.IsSearched ["work"] ["work", ".a.py"] :=
    (Place.isSearched_append_cons ["work"] ".a.py" []).2 ⟨hfirst, Place.isSearched_self _⟩
  have hdeep : Place.IsSearched ["work"] ["work", "dir.py", "b.py"] :=
    (Place.isSearched_append_cons ["work"] "dir.py" ["b.py"]).2 ⟨hfirst,
      (Place.isSearched_append_cons ["work", "dir.py"] "b.py" []).2
        ⟨hsecond, Place.isSearched_self _⟩⟩
  refine ⟨found, hcollect, (hmem _).2 ?_, (hmem _).2 ?_, fun h => ?_, fun h => ?_, hascending⟩
  · exact ⟨⟨_, rfl⟩, ⟨[".a.py"], rfl⟩, ⟨["work"], ".a", by decide, rfl⟩, hhidden⟩
  · exact ⟨⟨_, rfl⟩, ⟨["dir.py", "b.py"], rfl⟩, ⟨["work", "dir.py"], "b", by decide, rfl⟩, hdeep⟩
  · obtain ⟨-, -, ⟨dir, stem, hstem, heq⟩, -⟩ := (hmem _).1 h
    have hlast : some ".py" = some (stem ++ ".py") := by
      simpa using congrArg List.getLast? heq
    have hlength := congrArg String.length (Option.some.inj hlast)
    rw [String.length_append, eq_comm, Nat.add_eq_right, String.length_eq_zero_iff] at hlength
    exact hstem hlength
  · obtain ⟨-, -, -, hsearched⟩ := (hmem _).1 h
    exact hsearched ["work", "venv"] ⟨["venv"], rfl⟩ ⟨["y.py"], rfl⟩ (by decide) "venv" rfl
      (.inr (.inr rfl))

end CommandLine

end Lookalike
