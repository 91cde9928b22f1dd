import Mathlib.Data.Option.Basic
import Lookalike.FileTree.Path
import Lookalike.Proofs.Ordered.TextMap
import Lookalike.Proofs.Text.PathName

/-! ### Trees that grow

Where a path leads is up to the directories and links on its way. When a tree grows, what stands
stays a file, a directory or the same link, and no link is new: a path that led somewhere leads to
the same place. -/

namespace Lookalike.Node

/-! #### What stands at a place -/

/-- What stands at a place below another one. -/
lemma at?_append (node : Node) (p q : Place) :
    node.at? (p ++ q) = (node.at? p).bind (at? · q) := by
  induction p generalizing node with
  | nil => rfl
  | cons name rest ih =>
    cases node with
    | directory entries =>
      change ((child? entries name).bind (at? · (rest ++ q))) =
        ((child? entries name).bind (at? · rest)).bind (at? · q)
      cases child? entries name with
      | none => rfl
      | some inner => exact ih inner
    | file content => rfl
    | link target => rfl

/-- What a directory lists stands below it. -/
lemma child?_eq_at? {root : Node} {place : Place} {entries : List (String × Node)}
    (h : root.at? place = some (.directory entries)) (name : String) :
    child? entries name = root.at? (place ++ [name]) := by
  rw [at?_append, h, Option.bind_some]
  exact (Option.bind_fun_some (child? entries name)).symm

/-- The kind of a node, and where it leads if it is a link. -/
def outline : Node → Node
  | .file _ => .file .unreadable
  | .directory _ => .empty
  | .link target => .link target

/-- The outline of a node tells whether it is a directory. -/
lemma isDirectory_outline (n : Node) : n.outline.isDirectory = n.isDirectory := by
  cases n <;> rfl

/-- A node with the outline of a directory is one. -/
lemma exists_directory_of_outline {n : Node} (h : n.outline = .empty) :
    ∃ entries, n = .directory entries := by
  cases n with
  | directory entries => exact ⟨entries, rfl⟩
  | file content => cases h
  | link target => cases h

/-- A node with the outline of a link is the link. -/
lemma eq_link_of_outline {n : Node} {target : String} (h : n.outline = .link target) :
    n = .link target := by
  cases n with
  | link target' => exact h
  | file content => cases h
  | directory entries => cases h

/-- One segment of a way from a directory. -/
lemma follow_cons {root : Node} {place : Place} {entries : List (String × Node)}
    (h : root.at? place = some (.directory entries)) (links : Nat) (segment : String)
    (rest : List String) :
    root.follow links place (segment :: rest) =
      if segment = "" ∨ segment = "." then root.follow links place rest
      else if segment = ".." then root.follow links place.dropLast rest
      else
        match root.at? (place ++ [segment]) with
        | none => if rest.isEmpty then some (place ++ [segment], links) else none
        | some (.link target) =>
          match links with
          | 0 => none
          | left + 1 =>
            root.follow left (origin place target) (PathName.segments target ++ rest)
        | some _ => root.follow links (place ++ [segment]) rest := by
  rewrite [follow, h, ← child?_eq_at? h]
  rfl

section

variable {root : Node} {place : Place} {entries : List (String × Node)}
  (hdir : root.at? place = some (.directory entries)) {segment : String}

include hdir

/-- A segment that says to stay is passed over. -/
lemma follow_stay (hstays : segment = "" ∨ segment = ".") (links : Nat) (rest : List String) :
    root.follow links place (segment :: rest) = root.follow links place rest := by
  rw [follow_cons hdir, if_pos hstays]

/-- Two dots lead to the directory above. -/
lemma follow_up (links : Nat) (rest : List String) :
    root.follow links place (".." :: rest) = root.follow links place.dropLast rest := by
  rw [follow_cons hdir, if_neg (by decide), if_pos rfl]

variable (hname : PathName.IsOrdinary segment)

include hname

/-- A name of nothing is the last one of a way. -/
lemma follow_nothing (hnone : root.at? (place ++ [segment]) = none) (links : Nat)
    (rest : List String) :
    root.follow links place (segment :: rest) =
      if rest.isEmpty then some (place ++ [segment], links) else none := by
  rw [follow_cons hdir, if_neg hname.1, if_neg hname.2, hnone]

/-- The name of a link leads on from where the link leads, if there is a link left. -/
lemma follow_link {target : String}
    (hlink : root.at? (place ++ [segment]) = some (.link target)) (links : Nat)
    (rest : List String) :
    root.follow links place (segment :: rest) =
      match links with
      | 0 => none
      | left + 1 => root.follow left (origin place target) (PathName.segments target ++ rest) := by
  rw [follow_cons hdir, if_neg hname.1, if_neg hname.2, hlink]

/-- A name of something else leads there. -/
lemma follow_into {n : Node} (hn : root.at? (place ++ [segment]) = some n)
    (hnolink : ∀ target, n ≠ .link target) (links : Nat) (rest : List String) :
    root.follow links place (segment :: rest) = root.follow links (place ++ [segment]) rest := by
  rw [follow_cons hdir, if_neg hname.1, if_neg hname.2, hn]
  cases n with
  | link target => exact absurd rfl (hnolink target)
  | file content => rfl
  | directory entries => rfl

end

/-! #### Growth -/

/-- A tree grows: what stands keeps its outline, and every link was there. -/
structure Grows (root root' : Node) : Prop where
  outline_eq {p : Place} {n : Node} :
    root.at? p = some n → (root'.at? p).map outline = some n.outline
  link_of {p : Place} {target : String} :
    root'.at? p = some (.link target) → root.at? p = some (.link target)

namespace Grows

variable {root root' root'' : Node} {p : Place}

/-- A tree grows when nothing changes. -/
lemma refl (root : Node) : Grows root root :=
  ⟨fun h => by rw [h, Option.map_some], id⟩

/-- A tree grows further. -/
lemma trans (h : Grows root root') (h' : Grows root' root'') : Grows root root'' := by
  refine ⟨fun {p n} hn => ?_, fun hlink => h.link_of (h'.link_of hlink)⟩
  obtain ⟨n', hn', houtline⟩ := Option.map_eq_some_iff.1 (h.outline_eq hn)
  rw [h'.outline_eq hn', houtline]

/-- What stands has a node with its outline after growth. -/
lemma exists_of_some (h : Grows root root') {n : Node} (hn : root.at? p = some n) :
    ∃ n', root'.at? p = some n' ∧ n'.outline = n.outline :=
  Option.map_eq_some_iff.1 (h.outline_eq hn)

/-- A directory stays a directory. -/
lemma exists_directory (h : Grows root root') {entries : List (String × Node)}
    (hn : root.at? p = some (.directory entries)) :
    ∃ entries', root'.at? p = some (.directory entries') := by
  obtain ⟨n', hn', houtline⟩ := h.exists_of_some hn
  obtain ⟨entries', rfl⟩ := exists_directory_of_outline houtline
  exact ⟨entries', hn'⟩

/-- What stands and is no link is no link after growth. -/
lemma not_link (h : Grows root root') (hn : ∀ target, root.at? p ≠ some (.link target))
    (target : String) : root'.at? p ≠ some (.link target) :=
  fun hlink => hn target (h.link_of hlink)

/-- A path that leads somewhere leads there after growth. -/
lemma follow_eq_some (h : Grows root root') {links : Nat} {place : Place} {segments : List String}
    {found : Place × Nat} (hfound : root.follow links place segments = some found) :
    root'.follow links place segments = some found := by
  induction links, place, segments using follow.induct root with
  | case1 links place => rwa [follow] at hfound ⊢
  | case2 links place segment rest entries hdir hstays ih =>
    obtain ⟨entries', hdir'⟩ := h.exists_directory hdir
    rw [follow_stay hdir hstays] at hfound
    rw [follow_stay hdir' hstays]
    exact ih hfound
  | case3 links place rest entries hdir hmoves ih =>
    obtain ⟨entries', hdir'⟩ := h.exists_directory hdir
    rw [follow_up hdir] at hfound
    rw [follow_up hdir']
    exact ih hfound
  | case4 links place segment rest entries hdir hmoves hup hchild hlast =>
    -- At the end of the way something may stand now, which is no link.
    obtain ⟨entries', hdir'⟩ := h.exists_directory hdir
    rw [child?_eq_at? hdir] at hchild
    rw [follow_nothing hdir ⟨hmoves, hup⟩ hchild, if_pos hlast] at hfound
    obtain rfl : rest = [] := List.isEmpty_iff.1 hlast
    cases hn : root'.at? (place ++ [segment]) with
    | none => rwa [follow_nothing hdir' ⟨hmoves, hup⟩ hn]
    | some n =>
      have hnolink : ∀ target, n ≠ .link target := fun target hlink =>
        h.not_link (by simp [hchild]) target (hlink ▸ hn)
      rwa [follow_into hdir' ⟨hmoves, hup⟩ hn hnolink, follow]
  | case5 links place segment rest entries hdir hmoves hup hchild hlast =>
    rw [child?_eq_at? hdir] at hchild
    rw [follow_nothing hdir ⟨hmoves, hup⟩ hchild, if_neg hlast] at hfound
    cases hfound
  | case6 place segment rest entries hdir hmoves hup target hchild =>
    rw [child?_eq_at? hdir] at hchild
    rw [follow_link hdir ⟨hmoves, hup⟩ hchild] at hfound
    cases hfound
  | case7 place segment rest entries hdir hmoves hup target hchild left ih =>
    obtain ⟨entries', hdir'⟩ := h.exists_directory hdir
    rw [child?_eq_at? hdir] at hchild
    obtain ⟨n', hchild', houtline⟩ := h.exists_of_some hchild
    obtain rfl := eq_link_of_outline houtline
    rw [follow_link hdir ⟨hmoves, hup⟩ hchild] at hfound
    rw [follow_link hdir' ⟨hmoves, hup⟩ hchild']
    exact ih hfound
  | case8 links place segment rest entries hdir hmoves hup n hnolink hchild ih =>
    obtain ⟨entries', hdir'⟩ := h.exists_directory hdir
    rw [child?_eq_at? hdir] at hchild
    obtain ⟨n', hchild', -⟩ := h.exists_of_some hchild
    have hnolink' : ∀ target, n' ≠ .link target := fun target hlink =>
      h.not_link (by simpa [hchild] using hnolink) target (hlink ▸ hchild')
    rw [follow_into hdir ⟨hmoves, hup⟩ hchild hnolink] at hfound
    rw [follow_into hdir' ⟨hmoves, hup⟩ hchild' hnolink']
    exact ih hfound
  | case9 links place segment rest hdir =>
    rw [follow] at hfound
    split at hfound
    · rename_i hdir'
      exact absurd hdir' (hdir _)
    · cases hfound

end Grows

/-- A path leads to the same place, or nowhere, in two trees of which each grows into the other. -/
lemma follow_eq_of_grows {root root' : Node} (h : Grows root root') (h' : Grows root' root)
    (links : Nat) (place : Place) (segments : List String) :
    root.follow links place segments = root'.follow links place segments := by
  cases hfound : root.follow links place segments with
  | some found => rw [h.follow_eq_some hfound]
  | none =>
    cases hfound' : root'.follow links place segments with
    | none => rfl
    | some found => rw [h'.follow_eq_some hfound'] at hfound; cases hfound

/-! #### Agreement -/

/-- A node without what stands below it. -/
def face : Node → Node
  | .directory _ => .empty
  | node => node

/-- A node without what stands below it and without the rows of a table. -/
def veil : Node → Node
  | .directory _ => .empty
  | .file (.table _) => .file (.table .empty)
  | node => node

/-- The text of a node, if it is a file with a text. -/
def text : Node → Except ReadError String
  | .file content => content.read
  | _ => .error (.failed "is a directory")

/-- A table is no text, whatever its rows are. -/
lemma text_veil (n : Node) : n.veil.text = n.text := by
  cases n with
  | file content => cases content <;> rfl
  | directory entries => rfl
  | link target => rfl

/-- Nodes with one face have one outline. -/
lemma outline_eq_of_face {n n' : Node} (h : n.face = n'.face) : n.outline = n'.outline := by
  have houtline : ∀ n : Node, n.face.outline = n.outline := fun n => by cases n <;> rfl
  rw [← houtline, h, houtline]

/-- The rows of a table do not stand below it. -/
lemma veil_face (n : Node) : n.face.veil = n.veil := by
  cases n <;> rfl

/-- A file that stands in a tree stands in a tree that agrees with it. -/
lemma eq_some_file_of_face {m m' : Option Node} (h : m.map face = m'.map face) {content : Content}
    (hm : m = some (.file content)) : m' = some (.file content) := by
  rw [hm, Option.map_some] at h
  obtain ⟨n, rfl, hface⟩ := Option.map_eq_some_iff.1 h.symm
  cases n with
  | file content' => exact congrArg some hface
  | directory entries => cases hface
  | link target => cases hface

/-- Two trees agree by what is told of the nodes at all places. -/
def AgreeBy {γ : Type} (tell : Node → γ) (root root' : Node) : Prop :=
  ∀ p, (root.at? p).map tell = (root'.at? p).map tell

namespace AgreeBy

variable {γ δ : Type} {tell : Node → γ} {root root' root'' : Node}

/-- A tree agrees with itself. -/
lemma refl (tell : Node → γ) (root : Node) : AgreeBy tell root root :=
  fun _ => rfl

/-- Agreement is mutual. -/
lemma symm (h : AgreeBy tell root root') : AgreeBy tell root' root :=
  fun p => (h p).symm

/-- Agreement is passed on. -/
lemma trans (h : AgreeBy tell root root') (h' : AgreeBy tell root' root'') :
    AgreeBy tell root root'' :=
  fun p => (h p).trans (h' p)

/-- Trees that agree by what is told agree by what follows from it. -/
lemma of_comp {seen : Node → Node} {tell : Node → δ} (htell : ∀ n, tell (seen n) = tell n)
    (h : AgreeBy seen root root') : AgreeBy tell root root' := by
  intro p
  have hp := congrArg (Option.map tell) (h p)
  rw [Option.map_map, Option.map_map] at hp
  have hcomp : tell ∘ seen = tell := funext htell
  rwa [hcomp] at hp

/-- Trees that agree on all nodes agree on them without the rows of tables. -/
lemma veil_of_face (h : AgreeBy face root root') : AgreeBy veil root root' :=
  h.of_comp veil_face

/-- Trees that agree but for the rows of tables agree on the outlines. -/
lemma outline_of_veil (h : AgreeBy veil root root') : AgreeBy outline root root' :=
  h.of_comp fun n => by
    cases n with
    | file content => cases content <;> rfl
    | directory entries => rfl
    | link target => rfl

/-- Trees that agree on the outlines grow into each other. -/
lemma grows (h : AgreeBy outline root root') : Grows root root' := by
  refine ⟨fun {p n} hn => ?_, fun {p target} hlink => ?_⟩
  · rw [← h p, hn, Option.map_some]
  · have hp := h p
    rw [hlink, Option.map_some, Option.map_eq_some_iff] at hp
    obtain ⟨n, hn, hline⟩ := hp
    rw [hn, eq_link_of_outline hline]

end AgreeBy

/-! #### Another node at a place -/

/-- Nothing stands below a node. -/
def IsLeaf (node : Node) : Prop :=
  ∀ name rest, node.at? (name :: rest) = none

/-- Nothing stands below a file. -/
lemma isLeaf_file (content : Content) : IsLeaf (.file content) :=
  fun _ _ => rfl

/-- Nothing stands below an empty directory. -/
lemma isLeaf_empty : IsLeaf .empty :=
  fun _ _ => rfl

/-- On the way to a place there is something that is no directory. -/
def IsBlocked (root : Node) (q : Place) : Prop :=
  ∃ p name rest n, q = p ++ name :: rest ∧ root.at? p = some n ∧ n.isDirectory = false

section Putting

variable {root root' : Node} {p q : Place} {x : Node}

/-- What a directory lists after another node has come into it. -/
lemma child?_putEntry (name other : String) (entries : List (String × Node)) :
    child? (putEntry name x entries) other =
      if name = other then some x else child? entries other :=
  find?_putEntry name other x entries

/-- Nothing stands where the way is blocked. -/
lemma IsBlocked.at?_eq_none (h : IsBlocked root q) : root.at? q = none := by
  obtain ⟨p, name, rest, n, rfl, hn, hdir⟩ := h
  rw [at?_append, hn, Option.bind_some]
  cases n with
  | directory entries => cases hdir
  | file content => rfl
  | link target => rfl

/-- A blocked way is blocked after growth. -/
lemma IsBlocked.of_grows (h : IsBlocked root q) (hg : Grows root root') : IsBlocked root' q := by
  obtain ⟨p, name, rest, n, rfl, hn, hdir⟩ := h
  obtain ⟨n', hn', houtline⟩ := hg.exists_of_some hn
  refine ⟨p, name, rest, n', rfl, hn', ?_⟩
  rw [← isDirectory_outline, houtline, isDirectory_outline, hdir]

/-- A way that is blocked below a directory is blocked. -/
lemma IsBlocked.cons {entries : List (String × Node)} {name : String} {n : Node}
    (hchild : child? entries name = some n) (h : IsBlocked n q) :
    IsBlocked (.directory entries) (name :: q) := by
  obtain ⟨p, other, rest, n', rfl, hn', hdir⟩ := h
  refine ⟨name :: p, other, rest, n', rfl, ?_, hdir⟩
  rw [at?, hchild]
  exact hn'

/-- A node put into an empty directory stands at its place. -/
lemma at?_put_empty (q : Place) (x : Node) : (empty.put q x).at? q = some x := by
  induction q with
  | nil => rfl
  | cons name rest ih =>
    change ((child? (putEntry name (put empty rest x) []) name).bind (at? · rest)) = some x
    rw [child?_putEntry, if_pos rfl]
    exact ih

/-- A node stands where it was put, unless the way is blocked. -/
lemma at?_put_self (root : Node) (q : Place) (x : Node) :
    (root.put q x).at? q = some x ∨ IsBlocked root q := by
  induction q generalizing root with
  | nil => exact .inl rfl
  | cons name rest ih =>
    cases root with
    | file content => exact .inr ⟨[], name, rest, _, rfl, rfl, rfl⟩
    | link target => exact .inr ⟨[], name, rest, _, rfl, rfl, rfl⟩
    | directory entries =>
      have hput : (put (.directory entries) (name :: rest) x).at? (name :: rest) =
          (put ((child? entries name).getD empty) rest x).at? rest := by
        rw [put, at?, child?_putEntry, if_pos rfl]
        rfl
      rw [hput]
      cases hchild : child? entries name with
      | none => exact .inl (at?_put_empty rest x)
      | some n =>
        rcases ih n with hself | hblocked
        · exact .inl hself
        · exact .inr (hblocked.cons hchild)

/-- A node that is put at a place changes nothing elsewhere, but that directories may be made on the
way where nothing stood. -/
lemma at?_put_of_ne (hx : IsLeaf x) (hq : ∀ name rest, root.at? (q ++ name :: rest) = none)
    (hp : p ≠ q) :
    ((root.put q x).at? p).map face = (root.at? p).map face ∨
      root.at? q = none ∧ root.at? p = none ∧ ((root.put q x).at? p).map face = some empty := by
  induction q generalizing root p with
  | nil =>
    cases p with
    | nil => exact absurd rfl hp
    | cons name rest =>
      rw [put, hx name rest]
      exact .inl (congrArg (Option.map face) (hq name rest).symm)
  | cons name rest ih =>
    cases root with
    | file content => exact .inl rfl
    | link target => exact .inl rfl
    | directory entries =>
      cases p with
      | nil => exact .inl rfl
      | cons other rest' =>
        rw [put, at?, child?_putEntry, at?, at?]
        by_cases hname : name = other
        · subst hname
          have hrest : rest' ≠ rest := fun h => hp (by rw [h])
          rw [if_pos rfl, Option.bind_some]
          cases hchild : child? entries name with
          | some n =>
            rw [Option.getD_some, Option.bind_some, Option.bind_some]
            refine ih (fun other rest' => ?_) hrest
            have hbelow := hq other rest'
            rw [List.cons_append, at?, hchild] at hbelow
            exact hbelow
          | none =>
            -- Everything on the way from here on is new.
            rw [Option.getD_none, Option.bind_none, Option.bind_none]
            have hempty : ∀ other rest', empty.at? (rest ++ other :: rest') = none := by
              intro other rest'
              cases rest <;> rfl
            rcases ih hempty hrest with hsame | ⟨-, -, hnew⟩
            · cases rest' with
              | nil => exact .inr ⟨rfl, rfl, hsame⟩
              | cons other rest' => exact .inl hsame
            · exact .inr ⟨rfl, rfl, hnew⟩
        · rw [if_neg hname]
          exact .inl rfl

/-- Where the way is blocked, nothing is changed. -/
lemma IsBlocked.agreeBy_put (h : IsBlocked root q) (x : Node) :
    AgreeBy face root (root.put q x) := by
  obtain ⟨p, name, rest, n, rfl, hn, hdir⟩ := h
  induction p generalizing root with
  | nil =>
    obtain rfl := Option.some.inj hn
    cases root with
    | directory entries => cases hdir
    | file content => exact .refl face _
    | link target => exact .refl face _
  | cons other rest' ih =>
    cases root with
    | file content => exact .refl face _
    | link target => exact .refl face _
    | directory entries =>
      intro p
      cases p with
      | nil => rfl
      | cons name' p =>
        rw [List.cons_append, put, at?, at?, child?_putEntry]
        by_cases hname : other = name'
        · subst hname
          rw [at?] at hn
          obtain ⟨inner, hchild, hn⟩ := Option.bind_eq_some_iff.1 hn
          rw [if_pos rfl, hchild, Option.getD_some, Option.bind_some, Option.bind_some]
          exact ih hn p
        · rw [if_neg hname]

/-- Below a place where nothing stands nothing stands. -/
lemma at?_below_of_none (h : root.at? q = none) (name : String) (rest : Place) :
    root.at? (q ++ name :: rest) = none := by
  rw [at?_append, h, Option.bind_none]

/-- Below a place where a leaf stands nothing stands. -/
lemma at?_below_of_isLeaf {n : Node} (h : root.at? q = some n) (hn : IsLeaf n) (name : String)
    (rest : Place) : root.at? (q ++ name :: rest) = none := by
  rw [at?_append, h, Option.bind_some, hn]

/-- A tree grows when a leaf that is no link comes to a place where nothing stood. -/
lemma grows_put_of_none (hq : root.at? q = none) (hx : IsLeaf x)
    (hlink : ∀ target, x ≠ .link target) : Grows root (root.put q x) := by
  have hbelow := at?_below_of_none hq
  have hself := at?_put_self root q x
  refine ⟨fun {p n} hn => ?_, fun {p target} hp => ?_⟩
  · have hne : p ≠ q := fun h => by rw [h, hq] at hn; cases hn
    rcases at?_put_of_ne hx hbelow hne with hsame | ⟨-, hnone, -⟩
    · rw [hn] at hsame
      obtain ⟨n', hn', hface⟩ := Option.map_eq_some_iff.1 hsame
      rw [hn', Option.map_some, outline_eq_of_face hface]
    · rw [hn] at hnone
      cases hnone
  · by_cases hpq : p = q
    · subst hpq
      rcases hself with hself | hblocked
      · rw [hself] at hp
        exact absurd (Option.some.inj hp) (hlink target)
      · have hsame := hblocked.agreeBy_put x p
        rw [hq, hp] at hsame
        cases hsame
    · rcases at?_put_of_ne hx hbelow hpq with hsame | ⟨-, -, hnew⟩
      · rw [hp, Option.map_some] at hsame
        obtain ⟨n', hn', hface⟩ := Option.map_eq_some_iff.1 hsame.symm
        rw [hn', eq_link_of_outline (outline_eq_of_face hface)]
      · rw [hp] at hnew
        cases hnew

/-- A leaf in the place of another one changes what is told of the tree only if it tells something
else itself. -/
lemma agreeBy_put {γ : Type} {tell : Node → γ} (htell : ∀ n, tell n.face = tell n) {n : Node}
    (hq : root.at? q = some n) (hn : IsLeaf n) (hx : IsLeaf x) (hsame : tell n = tell x) :
    AgreeBy tell root (root.put q x) := by
  intro p
  by_cases hpq : p = q
  · subst hpq
    rcases at?_put_self root p x with hself | hblocked
    · rw [hq, hself, Option.map_some, Option.map_some, hsame]
    · rw [hblocked.at?_eq_none] at hq
      cases hq
  · rcases at?_put_of_ne hx (at?_below_of_isLeaf hq hn) hpq with hface | ⟨hnone, -⟩
    · have htold := congrArg (Option.map tell) hface
      rw [Option.map_map, Option.map_map] at htold
      have hcomp : tell ∘ face = tell := funext htell
      rw [hcomp] at htold
      exact htold.symm
    · rw [hq] at hnone
      cases hnone

/-- What is put at a place last counts. -/
lemma put_put (root : Node) (q : Place) (x y : Node) : (root.put q x).put q y = root.put q y := by
  induction q generalizing root with
  | nil => rfl
  | cons name rest ih =>
    cases root with
    | file content => rfl
    | link target => rfl
    | directory entries =>
      rw [put, put, child?_putEntry, if_pos rfl, Option.getD_some, ih, putEntry_putEntry, put]

end Putting

end Lookalike.Node
