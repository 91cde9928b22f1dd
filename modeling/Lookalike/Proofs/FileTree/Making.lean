import Lookalike.Proofs.FileTree.Growth
import Lookalike.Proofs.Text.FilePath

/-! ### Making directories again

What leads to the database is made where nothing stands. To make it a second time, in a tree that
has only grown since, finds everything in its place: the same place comes out, and nothing is
changed. -/

namespace Lookalike

namespace FileTree

open Node

/-! #### Growth and agreement of trees -/

/-- A tree grows, and is seen from the same directory. -/
structure GrowsTo (t t' : FileTree) : Prop where
  here_eq : t'.here = t.here
  grows : Grows t.root t'.root

/-- Trees that are seen from the same directory agree by what is told of the nodes. -/
structure AgreesBy {γ : Type} (tell : Node → γ) (t t' : FileTree) : Prop where
  here_eq : t'.here = t.here
  agree : AgreeBy tell t.root t'.root

section

variable {t t' t'' : FileTree} {γ : Type} {tell : Node → γ}

/-- A tree grows when nothing changes. -/
lemma GrowsTo.refl (t : FileTree) : GrowsTo t t :=
  ⟨rfl, .refl _⟩

/-- A tree grows further. -/
lemma GrowsTo.trans (h : GrowsTo t t') (h' : GrowsTo t' t'') : GrowsTo t t'' :=
  ⟨h'.here_eq.trans h.here_eq, h.grows.trans h'.grows⟩

/-- A tree agrees with itself. -/
lemma AgreesBy.refl (tell : Node → γ) (t : FileTree) : AgreesBy tell t t :=
  ⟨rfl, .refl _ _⟩

/-- Agreement is mutual. -/
lemma AgreesBy.symm (h : AgreesBy tell t t') : AgreesBy tell t' t :=
  ⟨h.here_eq.symm, h.agree.symm⟩

/-- Agreement is passed on. -/
lemma AgreesBy.trans (h : AgreesBy tell t t') (h' : AgreesBy tell t' t'') : AgreesBy tell t t'' :=
  ⟨h'.here_eq.trans h.here_eq, h.agree.trans h'.agree⟩

/-- Trees that agree on all nodes agree on them without the rows of tables. -/
lemma AgreesBy.veil_of_face (h : AgreesBy face t t') : AgreesBy veil t t' :=
  ⟨h.here_eq, h.agree.veil_of_face⟩

/-- Trees that agree on the outlines grow into each other. -/
lemma AgreesBy.growsTo_of_outline (h : AgreesBy outline t t') : GrowsTo t t' :=
  ⟨h.here_eq, h.agree.grows⟩

/-- Trees that agree but for the rows of tables grow into each other. -/
lemma AgreesBy.growsTo (h : AgreesBy veil t t') : GrowsTo t t' :=
  ⟨h.here_eq, h.agree.outline_of_veil.grows⟩

/-- What a path leads to is there after growth. -/
lemma GrowsTo.has_eq_true (h : GrowsTo t t') {path : String} (hpath : t.has path = true) :
    t'.has path = true := by
  obtain ⟨⟨place, node⟩, hfind⟩ := Option.isSome_iff_exists.1 hpath
  simp only [find?, Option.bind_eq_bind, Option.bind_eq_some_iff] at hfind
  obtain ⟨⟨place', links⟩, hfollow, node', hnode, -⟩ := hfind
  obtain ⟨n, hn, -⟩ := h.grows.exists_of_some hnode
  refine Option.isSome_iff_exists.2 ⟨(place', n), ?_⟩
  simp only [find?, Option.bind_eq_bind, Option.bind_eq_some_iff]
  rw [h.here_eq]
  exact ⟨(place', links), h.grows.follow_eq_some hfollow, n, hn, rfl⟩

/-- Paths lead to the same nodes in trees that grow into each other. -/
lemma has_eq_of_growsTo (h : GrowsTo t t') (h' : GrowsTo t' t) : t.has = t'.has :=
  funext fun _ => Bool.eq_iff_iff.2 ⟨h.has_eq_true, h'.has_eq_true⟩

/-- A file is read by the text of the node to which its path leads. -/
lemma read_eq_text (t : FileTree) (path : String) :
    t.read path = ((t.find? path).map fun found => found.2.text).getD
      (.error (.failed "no such file or directory")) := by
  unfold read
  cases t.find? path with
  | none => rfl
  | some found =>
    obtain ⟨place, n⟩ := found
    cases n <;> rfl

/-- The texts of files are the same in trees that agree but for the rows of tables. -/
lemma AgreesBy.read_eq (h : AgreesBy veil t t') (path : String) : t.read path = t'.read path := by
  have hfollow := follow_eq_of_grows h.growsTo.grows h.symm.growsTo.grows
  rw [read_eq_text, read_eq_text]
  simp only [find?, Option.bind_eq_bind]
  rw [h.here_eq, hfollow]
  cases t'.root.follow maxLinks (origin t.here path) (PathName.segments path) with
  | none => rfl
  | some found =>
    have htext : (t.root.at? found.1).map text = (t'.root.at? found.1).map text :=
      h.agree.of_comp text_veil found.1
    simp only [Option.bind_some, Option.map_bind]
    cases hn : t.root.at? found.1 with
    | none =>
      rw [hn, Option.map_none, eq_comm, Option.map_eq_none_iff] at htext
      rw [htext]
    | some n =>
      rw [hn, Option.map_some] at htext
      obtain ⟨n', hn', htext'⟩ := Option.map_eq_some_iff.1 htext.symm
      rw [hn']
      exact congrArg (fun text => (some text).getD _) htext'.symm

/-- A reader finds at the path of a text what the text leads to. -/
lemma has_reader (t : FileTree) (path : String) : t.reader.has (.ofText path) = t.has path := by
  simp [reader]

/-- Trees that agree but for the rows of tables are read alike. -/
lemma AgreesBy.reader_eq (h : AgreesBy veil t t') : t.reader = t'.reader := by
  have hread : t.read = t'.read := funext h.read_eq
  have hhas : t.has = t'.has := has_eq_of_growsTo h.growsTo h.symm.growsTo
  rw [reader, reader, hread, hhas]

/-- What is put at a place of a tree last counts. -/
lemma put_put (t : FileTree) (place : Place) (x y : Node) :
    (t.put place x).put place y = t.put place y :=
  congrArg (FileTree.mk · t.here) (Node.put_put t.root place x y)

/-- A file in the place of a file changes no outline. -/
lemma agreesBy_outline_put_file {place : Place} {content : Content}
    (h : t.root.at? place = some (.file content)) (new : Content) :
    t.AgreesBy outline (t.put place (.file new)) :=
  ⟨rfl, agreeBy_put (fun n => by cases n <;> rfl) h (isLeaf_file _) (isLeaf_file _) rfl⟩

/-- A tree grows with a file where nothing or a file stood. -/
lemma growsTo_put_file {place : Place}
    (h : t.root.at? place = none ∨ ∃ content, t.root.at? place = some (.file content))
    (new : Content) : t.GrowsTo (t.put place (.file new)) := by
  rcases h with hnone | ⟨content, hfile⟩
  · exact ⟨rfl, grows_put_of_none hnone (isLeaf_file _) fun _ => nofun⟩
  · exact (agreesBy_outline_put_file hfile new).growsTo_of_outline

/-- A tree grows with a directory where nothing stood. -/
lemma growsTo_put_empty {place : Place} (h : t.root.at? place = none) :
    GrowsTo t (t.put place .empty) :=
  ⟨rfl, grows_put_of_none h isLeaf_empty fun _ => nofun⟩

end

/-! #### Steps into directories -/

section Steps

variable {t t' s : FileTree} {p p' : Place} {found : Option Place}

/-- A tree grows with a step into a directory. -/
lemma growsTo_of_enter {step : PathName.Step} (h : t.enter p step = (t', found)) :
    GrowsTo t t' := by
  unfold enter at h
  split at h
  · obtain ⟨rfl, -⟩ := Prod.mk.inj h
    exact .refl _
  · obtain ⟨rfl, -⟩ := Prod.mk.inj h
    exact .refl _
  · obtain ⟨rfl, -⟩ := Prod.mk.inj h
    exact .refl _
  · split at h
    · rename_i hnone
      obtain ⟨rfl, -⟩ := Prod.mk.inj h
      exact growsTo_put_empty hnone
    · split at h
      · obtain ⟨rfl, -⟩ := Prod.mk.inj h
        exact .refl _
      · obtain ⟨rfl, -⟩ := Prod.mk.inj h
        exact .refl _

/-- A tree grows with steps into directories. -/
lemma growsTo_of_enterAll {steps : List PathName.Step} (h : t.enterAll p steps = (t', found)) :
    GrowsTo t t' := by
  induction steps generalizing t p with
  | nil =>
    obtain ⟨rfl, -⟩ := Prod.mk.inj h
    exact .refl _
  | cons step rest ih =>
    unfold enterAll at h
    split at h
    · rename_i hstep
      exact (growsTo_of_enter hstep).trans (ih h)
    · rename_i hstep
      obtain ⟨rfl, -⟩ := Prod.mk.inj h
      exact growsTo_of_enter hstep

/-- What stands at a place stands in a directory. -/
lemma exists_directory_above {root n : Node} {name : String}
    (h : root.at? (p ++ [name]) = some n) : ∃ entries, root.at? p = some (.directory entries) := by
  rw [at?_append] at h
  obtain ⟨above, habove, hn⟩ := Option.bind_eq_some_iff.1 h
  cases above with
  | directory entries => exact ⟨entries, habove⟩
  | file content => cases hn
  | link target => cases hn

/-- A name leads into a directory that is there already, and nothing is made. -/
lemma enter_eq_of_directory {name : String} {n m : Node} {q : Place} {links : Nat}
    (hn : t.root.at? (p ++ [name]) = some n)
    (hfollow : t.root.follow maxLinks p [name] = some (q, links))
    (hm : t.root.at? q = some m) (hdir : m.isDirectory = true) :
    t.enter p (.named name) = (t, some q) := by
  simp only [enter, hn, hfollow, hm, Option.any_some, hdir, if_true]

/-- A directory that was made where nothing stood is found in a tree that has grown since. If none
could be made there, none can be made now. -/
lemma exists_enter_made {name : String} (hname : PathName.IsOrdinary name)
    (hnone : t.root.at? (p ++ [name]) = none) (hs : GrowsTo (t.put (p ++ [name]) .empty) s) :
    ∃ s', s.enter p (.named name) = (s', some (p ++ [name])) ∧ AgreesBy face s s' := by
  rcases at?_put_self t.root (p ++ [name]) .empty with hmade | hblocked
  · obtain ⟨inside, hinside⟩ := hs.grows.exists_directory hmade
    obtain ⟨entries, hdir⟩ := exists_directory_above hinside
    have hfollow : s.root.follow maxLinks p [name] = some (p ++ [name], maxLinks) := by
      rw [follow_into hdir hname hinside nofun, follow]
    exact ⟨s, enter_eq_of_directory hinside hfollow hinside rfl, .refl _ _⟩
  · have hblocked' := hblocked.of_grows ((growsTo_put_empty hnone).trans hs).grows
    refine ⟨s.put (p ++ [name]) .empty, ?_, ⟨rfl, hblocked'.agreeBy_put .empty⟩⟩
    simp only [enter, hblocked'.at?_eq_none]

/-- A step into a directory leads to the same place in a tree that has grown since, and changes
nothing there. -/
lemma exists_enter_again {step : PathName.Step}
    (hstep : ∀ name, step = .named name → PathName.IsOrdinary name)
    (h : t.enter p step = (t', some p')) (hs : GrowsTo t' s) :
    ∃ s', s.enter p step = (s', some p') ∧ AgreesBy face s s' := by
  have hgrows := (growsTo_of_enter h).trans hs
  cases step with
  | root =>
    obtain ⟨-, hp⟩ := Prod.mk.inj h
    exact ⟨s, by rw [enter, hp], .refl _ _⟩
  | here =>
    obtain ⟨-, hp⟩ := Prod.mk.inj h
    exact ⟨s, by rw [enter, hp], .refl _ _⟩
  | up =>
    obtain ⟨-, hp⟩ := Prod.mk.inj h
    exact ⟨s, by rw [enter, hp], .refl _ _⟩
  | named name =>
    simp only [enter] at h
    split at h
    -- nothing stood there
    · rename_i hnone
      obtain ⟨rfl, hp⟩ := Prod.mk.inj h
      obtain rfl := Option.some.inj hp
      exact exists_enter_made (hstep name rfl) hnone hs
    -- what stood there led to a directory, and leads there still
    · rename_i n hn
      split at h
      · rename_i inner links hfollow
        obtain ⟨rfl, hp⟩ := Prod.mk.inj h
        split at hp
        · rename_i hdir
          obtain rfl := Option.some.inj hp
          obtain ⟨n', hn', -⟩ := hgrows.grows.exists_of_some hn
          obtain ⟨m, hm, hmdir⟩ := (Option.any_eq_true _ _).1 hdir
          obtain ⟨m', hm', houtline⟩ := hgrows.grows.exists_of_some hm
          have hmdir' : m'.isDirectory = true := by
            rw [← isDirectory_outline, houtline, isDirectory_outline, hmdir]
          have hfollow' := hgrows.grows.follow_eq_some hfollow
          exact ⟨s, enter_eq_of_directory hn' hfollow' hm' hmdir', .refl _ _⟩
        · cases hp
      · cases (Prod.mk.inj h).2

/-- Steps into directories lead to the same place in a tree that has grown since, and change nothing
there. -/
lemma exists_enterAll_again {steps : List PathName.Step}
    (hsteps : ∀ name, .named name ∈ steps → PathName.IsOrdinary name)
    (h : t.enterAll p steps = (t', some p')) (hs : GrowsTo t' s) :
    ∃ s', s.enterAll p steps = (s', some p') ∧ AgreesBy face s s' := by
  induction steps generalizing t p s with
  | nil =>
    obtain ⟨-, hp⟩ := Prod.mk.inj h
    exact ⟨s, by rw [enterAll, hp], .refl _ _⟩
  | cons step rest ih =>
    unfold enterAll at h
    split at h
    · rename_i t₁ inner hstep
      have hfirst : ∀ name, step = .named name → PathName.IsOrdinary name := fun name hname =>
        hsteps name (hname ▸ List.mem_cons_self)
      have hothers : ∀ name, .named name ∈ rest → PathName.IsOrdinary name := fun name hname =>
        hsteps name (List.mem_cons_of_mem _ hname)
      obtain ⟨s₁, hagain, hagree⟩ :=
        exists_enter_again hfirst hstep ((growsTo_of_enterAll h).trans hs)
      obtain ⟨s', hrest, hagree'⟩ := ih hothers h (hs.trans hagree.veil_of_face.growsTo)
      refine ⟨s', ?_, hagree.trans hagree'⟩
      unfold enterAll
      simp only [hagain, hrest]
    · cases (Prod.mk.inj h).2

/-- A tree grows when the directories of a path are made. -/
lemma growsTo_prepare (t : FileTree) (path : String) : GrowsTo t (t.prepare path).1 := by
  have hfst : (t.prepare path).1 = (t.enterAll t.here (PathName.steps path).dropLast).1 := by
    unfold prepare
    dsimp only
    split
    · rename_i hall _
      rw [hall]
    · rename_i hall _
      rw [hall]
  rw [hfst]
  exact growsTo_of_enterAll rfl

/-- The place of a file is where the last name of its path leads from the directory of the steps
before. -/
lemma steps_of_prepare_eq_some {path : String} (h : t.prepare path = (t', some p')) :
    ∃ dir name links, t.enterAll t.here (PathName.steps path).dropLast = (t', some dir) ∧
      (PathName.steps path).getLast? = some (.named name) ∧
      t'.root.follow maxLinks dir [name] = some (p', links) := by
  unfold prepare at h
  dsimp only at h
  split at h
  · rename_i t₁ dir name hall hlast
    obtain ⟨rfl, hfound⟩ := Prod.mk.inj h
    obtain ⟨⟨place, links⟩, hfollow, rfl⟩ := Option.map_eq_some_iff.1 hfound
    exact ⟨dir, name, links, hall, hlast, hfollow⟩
  · cases (Prod.mk.inj h).2

/-- The directories of a path are found in a tree that has grown since they were made, and the file
in them at the same place. -/
lemma exists_prepare_again {path : String} (h : t.prepare path = (t', some p'))
    (hs : GrowsTo t' s) : ∃ s', s.prepare path = (s', some p') ∧ AgreesBy face s s' := by
  obtain ⟨dir, name, links, hall, hlast, hfollow⟩ := steps_of_prepare_eq_some h
  have hhere : s.here = t.here := ((growsTo_of_enterAll hall).trans hs).here_eq
  obtain ⟨s', hagain, hagree⟩ := exists_enterAll_again
    (fun name hname => PathName.isOrdinary_of_mem_steps (List.dropLast_subset _ hname)) hall hs
  have hgrows := hs.trans hagree.veil_of_face.growsTo
  refine ⟨s', ?_, hagree⟩
  unfold prepare
  simp only [hhere, hagain, hlast, hgrows.grows.follow_eq_some hfollow, Option.map_some]

end Steps

end FileTree

end Lookalike
