import Lookalike.Proofs.FileTree.Making

/-! ### Trees without links

In a tree of files and directories alone a place is reached on one way only: the names in it are
the steps of its text after the root, and this path leads to it. The order of such paths, step by
step, is the order of the places. -/

namespace Lookalike

open PathName

namespace Node

/-- A tree of files and directories. What stands in a directory is listed in any order by different
names, each of which makes one step of a path. -/
inductive IsPlain : Node → Prop
  | file (content : Content) : IsPlain (.file content)
  | directory {entries : List (String × Node)} (distinct : (entries.map (·.1)).Nodup)
      (named : ∀ e ∈ entries, IsFileName e.1) (below : ∀ e ∈ entries, IsPlain e.2) :
      IsPlain (.directory entries)

/-- What a directory lists is what is found under its name. -/
lemma child?_eq_some_iff {entries : List (String × Node)} (h : (entries.map (·.1)).Nodup)
    {name : String} {n : Node} : child? entries name = some n ↔ (name, n) ∈ entries := by
  constructor
  · intro hchild
    obtain ⟨e, he, rfl⟩ := Option.map_eq_some_iff.1 hchild
    obtain rfl : e.1 = name := by simpa using List.find?_some he
    exact List.mem_of_find?_eq_some he
  · intro hmem
    induction entries with
    | nil => cases hmem
    | cons e rest ih =>
      obtain ⟨hfirst, hrest⟩ := List.nodup_cons.1 h
      rcases List.mem_cons.1 hmem with rfl | hmem
      · simp [child?]
      · have hne : e.1 ≠ name := by
          rintro rfl
          exact hfirst (List.mem_map.2 ⟨_, hmem, rfl⟩)
        rw [child?, List.find?_cons_of_neg (by simpa using hne)]
        exact ih hrest hmem

section

variable {root n : Node} {p : Place}

/-- What stands in a tree without links has none. -/
lemma IsPlain.of_at? (h : IsPlain root) (hn : root.at? p = some n) : IsPlain n := by
  induction p generalizing root with
  | nil => exact Option.some.inj hn ▸ h
  | cons name rest ih =>
    cases h with
    | file content => cases hn
    | directory distinct named below =>
      obtain ⟨inner, hchild, hn⟩ := Option.bind_eq_some_iff.1 hn
      exact ih (below _ ((child?_eq_some_iff distinct).1 hchild)) hn

/-- All names on the way to what stands in a tree without links make steps. -/
lemma IsPlain.isFileName_of_at? (h : IsPlain root) (hn : root.at? p = some n) :
    ∀ name ∈ p, IsFileName name := by
  induction p generalizing root with
  | nil => exact List.forall_mem_nil _
  | cons name rest ih =>
    cases h with
    | file content => cases hn
    | directory distinct named below =>
      obtain ⟨inner, hchild, hn⟩ := Option.bind_eq_some_iff.1 hn
      have hmem := (child?_eq_some_iff distinct).1 hchild
      exact List.forall_mem_cons.2 ⟨named _ hmem, ih (below _ hmem) hn⟩

/-- The names of a place lead to it in a tree without links. -/
lemma IsPlain.follow_eq (h : IsPlain root) {names : List String}
    (hn : root.at? (p ++ names) = some n) (links : Nat) :
    root.follow links p names = some (p ++ names, links) := by
  induction names generalizing p with
  | nil => rw [follow, List.append_nil]
  | cons name rest ih =>
    have hstep : p ++ name :: rest = p ++ [name] ++ rest := List.append_cons ..
    have hname := h.isFileName_of_at? hn name (by simp)
    rw [hstep] at hn ⊢
    obtain ⟨inner, hinner, -⟩ : ∃ inner, root.at? (p ++ [name]) = some inner ∧
        inner.at? rest = some n := by
      rw [at?_append] at hn
      exact Option.bind_eq_some_iff.1 hn
    obtain ⟨entries, hdir⟩ := FileTree.exists_directory_above hinner
    have hnolink : ∀ target, inner ≠ .link target := by
      rintro target rfl
      cases h.of_at? hinner
    rw [follow_into hdir hname.ordinary hinner hnolink]
    exact ih hn

end

end Node

/-! #### Texts of places -/

namespace Place

variable {p q : Place}

/-- The text of a place is cut into its names, after nothing before the first slash. -/
lemma segments_text (h : ∀ name ∈ p, IsFileName name) :
    segments p.text = "" :: if p = [] then [""] else p := by
  cases p with
  | nil =>
    have hroot : text [] = "/".intercalate ["", ""] := rfl
    rw [hroot, if_pos rfl]
    exact Text.splitOn_intercalate (c := '/') (by simp) (by simp)
  | cons name rest =>
    have htext : text (name :: rest) = "/".intercalate ("" :: name :: rest) := by
      rw [text, String.intercalate_cons_cons, String.empty_append]
    rw [htext, if_neg (List.cons_ne_nil _ _)]
    refine Text.splitOn_intercalate (c := '/') (List.cons_ne_nil _ _) ?_
    exact List.forall_mem_cons.2 ⟨by simp, fun w hw => (h w hw).no_slash⟩

/-- The steps of a place are its names, after the root. -/
lemma steps_text (h : ∀ name ∈ p, IsFileName name) :
    steps p.text = .root :: p.map .named := by
  have hnames := filterMap_stepOf h
  unfold steps
  rw [segments_text h]
  cases p with
  | nil => rfl
  | cons name rest => simpa using hnames

/-- The texts of places are ordered, step by step, as the places are. -/
lemma compareSteps_text (hp : ∀ name ∈ p, IsFileName name) (hq : ∀ name ∈ q, IsFileName name)
    (hlt : p < q) : compareSteps (steps p.text) (steps q.text) = .lt := by
  rw [steps_text hp, steps_text hq]
  exact compareSteps_map_named hlt

end Place

/-- The text of a place is read from the root. -/
lemma Node.origin_text (here p : Place) : Node.origin here p.text = [] := by
  have hslash : p.text.startsWith "/" = true := by
    rw [String.startsWith_string_iff, Place.text, String.toList_append]
    exact List.prefix_append _ _
  rw [Node.origin, if_pos hslash]

/-- The text of a place leads to it in a tree without links. -/
lemma FileTree.find?_text {t : FileTree} {p : Place} {n : Node} (htree : t.root.IsPlain)
    (hdir : t.root.isDirectory = true) (hn : t.root.at? p = some n) :
    t.find? p.text = some (p, n) := by
  have hstay (rest : List String) : t.root.follow maxLinks [] ("" :: rest) =
      t.root.follow maxLinks [] rest := by
    cases hroot : t.root with
    | directory entries => exact Node.follow_stay rfl (.inl rfl) _ _
    | file content => rw [hroot] at hdir; cases hdir
    | link target => rw [hroot] at hdir; cases hdir
  have hfollow : t.root.follow maxLinks [] (segments p.text) = some (p, maxLinks) := by
    rw [Place.segments_text (htree.isFileName_of_at? hn), hstay]
    split
    · rename_i hp
      rw [hstay, hp, Node.follow]
    · exact htree.follow_eq (p := []) hn maxLinks
  rw [find?, Node.origin_text, hfollow]
  simp [hn]

end Lookalike
