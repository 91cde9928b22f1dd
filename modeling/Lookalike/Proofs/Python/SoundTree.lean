import Lookalike.Proofs.Python.BareTree
import Lookalike.Proofs.Python.Grammar.Statement

/-! ### Sound trees

A concrete tree is sound if the facts hold of it that hold of a sound phrase. The tree of a program
is sound because the program is: a phrase gets no text but that of its words and the comments and
joints between them, which have no parts and no roles, and so may stand among any parts. -/

namespace Lookalike.Python

namespace ConcreteTree

/-- A tree in which nothing is called. -/
inductive IsCallFree : ConcreteTree → Prop
  | single {t : ConcreteTree} (h : t.kind? = none) : IsCallFree t
  | node {kind : PhraseKind} {children : List (Role × ConcreteTree)} (hkind : kind ≠ .call)
      (hchildren : ∀ p ∈ children, IsCallFree p.2) : IsCallFree (.node kind children)

/-- The role and the kind of a child. -/
def outline (p : Role × ConcreteTree) : Role × Option PhraseKind :=
  (p.1, p.2.kind?)

/-- A sound tree. -/
inductive IsSound : ConcreteTree → Prop
  | single {t : ConcreteTree} (h : t.kind? = none) : IsSound t
  | node {kind : PhraseKind} {children : List (Role × ConcreteTree)} (hne : children ≠ [])
      (hhold : ∀ p ∈ children, kind.mayHold (outline p) = true)
      (hfollow : children.Pairwise fun p q => kind.mayFollow (outline p) (outline q) = true)
      (himport : kind.isImport = true → ∀ p ∈ children, p.2.IsCallFree)
      (hchildren : ∀ p ∈ children, IsSound p.2) : IsSound (.node kind children)

/-! #### The parts of a phrase with their text -/

/-- Some children are the parts of a phrase with their text, and extras between them. -/
inductive Dress : List (Role × Phrase) → List (Role × ConcreteTree) → Prop
  | nil : Dress [] []
  | extra {parts : List (Role × Phrase)} {p : Role × ConcreteTree}
      {children : List (Role × ConcreteTree)} (hp : isExtra p = true) (h : Dress parts children) :
      Dress parts (p :: children)
  | part {parts : List (Role × Phrase)} {children : List (Role × ConcreteTree)} (role : Role)
      (x : Phrase) (s : Rest) (h : Dress parts children) :
      Dress ((role, x) :: parts) ((role, (dress x s).1) :: children)

section Dress

variable {parts : List (Role × Phrase)} {children : List (Role × ConcreteTree)}

/-- Extras may stand in front of the parts of a phrase. -/
lemma Dress.append_left {extras : List (Role × ConcreteTree)} (h : Dress parts children)
    (hextras : ∀ p ∈ extras, isExtra p = true) : Dress parts (extras ++ children) := by
  induction extras with
  | nil => exact h
  | cons p extras ih =>
    obtain ⟨hp, hextras⟩ := List.forall_mem_cons.1 hextras
    exact .extra hp (ih hextras)

/-- Extras may stand behind the parts of a phrase. -/
lemma Dress.append_right {extras : List (Role × ConcreteTree)} (h : Dress parts children)
    (hextras : ∀ p ∈ extras, isExtra p = true) : Dress parts (children ++ extras) := by
  induction h with
  | nil => simpa using Dress.append_left .nil hextras
  | extra hp _ ih => exact .extra hp ih
  | part role x s _ ih => exact .part role x s ih

/-- The parts of a phrase that get their text are these parts with extras between them. -/
lemma dress_dressRest (parts : List (Role × Phrase)) (s : Rest) :
    Dress parts (dressRest parts s).1 := by
  induction parts generalizing s with
  | nil => exact .nil
  | cons p parts ih =>
    obtain ⟨role, x⟩ := p
    exact .append_left (.part role x _ (ih _)) (isExtra_of_mem_takeExtras _ _ _ _)

/-- A phrase that gets its text is a node of its kind, with its parts and extras between them. -/
lemma exists_dress_node {kind : PhraseKind} (parts : List (Role × Phrase)) (s : Rest) :
    ∃ children, (dress (.node kind parts) s).1 = .node kind children ∧ Dress parts children := by
  match parts with
  | [] => exact ⟨[], rfl, .nil⟩
  | (role, x) :: rest => exact ⟨_, rfl, .part role x s (dress_dressRest rest _)⟩

/-- The tree of a phrase is a node of its kind, with its parts and extras between them. -/
lemma exists_dress_ofPhrase {kind : PhraseKind} (parts : List (Role × Phrase))
    (xs : List Lexeme) :
    ∃ children, ofPhrase (.node kind parts) xs = .node kind children ∧ Dress parts children :=
  ⟨_, rfl, (dress_dressRest parts _).append_right (isExtra_of_mem_takeExtras _ _ _ _)⟩

/-- Parts with their text are there if the parts are. -/
lemma Dress.ne_nil (h : Dress parts children) (hne : parts ≠ []) : children ≠ [] := by
  cases h with
  | nil => exact absurd rfl hne
  | extra => exact List.cons_ne_nil _ _
  | part => exact List.cons_ne_nil _ _

/-- A child is an extra or a part with its text. -/
lemma Dress.cases_of_mem (h : Dress parts children) {p : Role × ConcreteTree} (hp : p ∈ children) :
    isExtra p = true ∨ ∃ q ∈ parts, ∃ s, p = (q.1, (dress q.2 s).1) := by
  induction h with
  | nil => cases hp
  | extra hextra _ ih =>
    obtain rfl | hp := List.mem_cons.1 hp
    · exact .inl hextra
    · exact ih hp
  | part role x s _ ih =>
    obtain rfl | hp := List.mem_cons.1 hp
    · exact .inr ⟨(role, x), List.mem_cons_self, s, rfl⟩
    · obtain hextra | ⟨q, hq, hpq⟩ := ih hp
      · exact .inl hextra
      · exact .inr ⟨q, List.mem_cons_of_mem _ hq, hpq⟩

end Dress

/-! #### Outlines -/

section Outline

variable {kind : PhraseKind} {parts : List (Role × Phrase)} {children : List (Role × ConcreteTree)}
  {p : Role × ConcreteTree}

/-- A phrase keeps its kind when it gets its text. -/
lemma kind?_dress (x : Phrase) (s : Rest) : (dress x s).1.kind? = x.kind? := by
  match x with
  | .leaf kind => rw [dress, ofLeaf]; split <;> rfl
  | .mark m => rfl
  | .node kind [] => rfl
  | .node kind ((role, x) :: rest) => rfl

/-- Of an extra only that it is a plain part is seen. -/
lemma outline_of_isExtra (h : isExtra p = true) : outline p = (.part, none) := by
  obtain ⟨x, rfl⟩ | ⟨x, rfl⟩ := eq_of_isExtra h <;> rfl

/-- A part is seen as it was when it gets its text. -/
lemma outline_dress (q : Role × Phrase) (s : Rest) :
    outline (q.1, (dress q.2 s).1) = Phrase.outline q := by
  rw [outline, kind?_dress]
  rfl

/-- A child is seen as an extra or as a part of the phrase. -/
lemma Dress.outline_of_mem (h : Dress parts children) (hp : p ∈ children) :
    outline p = (.part, none) ∨ ∃ q ∈ parts, outline p = Phrase.outline q := by
  obtain hextra | ⟨q, hq, s, rfl⟩ := h.cases_of_mem hp
  · exact .inl (outline_of_isExtra hextra)
  · exact .inr ⟨q, hq, outline_dress q s⟩

/-- A phrase that may hold its parts may hold them with their text and with the extras. -/
lemma Dress.mayHold (h : Dress parts children)
    (hhold : ∀ q ∈ parts, kind.mayHold (Phrase.outline q) = true) (hp : p ∈ children) :
    kind.mayHold (outline p) = true := by
  obtain hp | ⟨q, hq, hp⟩ := h.outline_of_mem hp
  · rw [hp]
    exact PhraseKind.mayHold_leaf _
  · rw [hp]
    exact hhold q hq

/-- Extras may stand between any parts: before them because they have no role, and behind them
because they have no parts. -/
lemma Dress.pairwise_mayFollow (h : Dress parts children)
    (hfollow : parts.Pairwise fun p q =>
      kind.mayFollow (Phrase.outline p) (Phrase.outline q) = true) :
    children.Pairwise fun p q => kind.mayFollow (outline p) (outline q) = true := by
  induction h with
  | nil => exact .nil
  | extra hextra _ ih =>
    refine .cons (fun q _ => ?_) (ih hfollow)
    rw [outline_of_isExtra hextra]
    exact PhraseKind.mayFollow_part _ _
  | part role x s hrest ih =>
    obtain ⟨hfirst, hfollow⟩ := List.pairwise_cons.1 hfollow
    refine .cons (fun p hp => ?_) (ih hfollow)
    rw [outline_dress (role, x)]
    obtain hp | ⟨q, hq, hp⟩ := hrest.outline_of_mem hp
    · rw [hp]
      exact PhraseKind.mayFollow_leaf _ _
    · rw [hp]
      exact hfirst q hq

end Outline

/-! #### Soundness -/

variable {parts : List (Role × Phrase)} {children : List (Role × ConcreteTree)}

/-- An extra is no node. -/
lemma kind?_eq_none_of_isExtra {p : Role × ConcreteTree} (h : isExtra p = true) :
    p.2.kind? = none :=
  congrArg Prod.snd (outline_of_isExtra h)

/-- Nothing is called in a phrase with its text if nothing is called in the phrase. -/
lemma isCallFree_dress {x : Phrase} (h : x.IsCallFree) : ∀ s, (dress x s).1.IsCallFree := by
  induction h with
  | leaf kind => exact fun s => .single (kind?_dress _ s)
  | mark m => exact fun s => .single (kind?_dress _ s)
  | @node kind parts hkind _ ih =>
    intro s
    obtain ⟨children, hchildren, hdress⟩ := exists_dress_node parts s
    rw [hchildren]
    refine .node hkind fun p hp => ?_
    obtain hextra | ⟨q, hq, s', rfl⟩ := hdress.cases_of_mem hp
    · exact .single (kind?_eq_none_of_isExtra hextra)
    · exact ih q hq s'

/-- A sound phrase with its text is a sound tree. -/
theorem isSound_dress {x : Phrase} (h : x.IsSound) : ∀ s, (dress x s).1.IsSound := by
  induction h with
  | leaf kind => exact fun s => .single (kind?_dress _ s)
  | mark m => exact fun s => .single (kind?_dress _ s)
  | @node kind parts hne hhold hfollow himport _ ih =>
    intro s
    obtain ⟨children, hchildren, hdress⟩ := exists_dress_node parts s
    rw [hchildren]
    refine .node (hdress.ne_nil hne) (fun p => hdress.mayHold hhold)
      (hdress.pairwise_mayFollow hfollow) (fun htrue p hp => ?_) (fun p hp => ?_)
    · obtain hextra | ⟨q, hq, s', rfl⟩ := hdress.cases_of_mem hp
      · exact .single (kind?_eq_none_of_isExtra hextra)
      · exact isCallFree_dress (himport htrue q hq) s'
    · obtain hextra | ⟨q, hq, s', rfl⟩ := hdress.cases_of_mem hp
      · exact .single (kind?_eq_none_of_isExtra hextra)
      · exact ih q hq s'

end ConcreteTree

open ConcreteTree

/-- The tree of a program: its children are sound, and it is sound itself, unless it is empty. -/
structure ConcreteTree.IsProgram (t : ConcreteTree) : Prop where
  kind_eq : t = .node .other t.parts
  parts : ∀ p ∈ t.parts, p.2.IsSound
  whole : t.parts = [] ∨ t.IsSound

/-- The concrete tree of a text is that of a program. -/
theorem isProgram_concreteTree {source : String} {t : ConcreteTree}
    (h : concreteTree source = .ok t) : t.IsProgram := by
  obtain ⟨phrase, hphrase, rfl⟩ := exists_phrase_of_concreteTree h
  obtain ⟨parts, rfl, hparts⟩ := Grammar.areSound_of_program hphrase
  obtain ⟨children, hchildren, hdress⟩ := exists_dress_ofPhrase parts (lexemes source)
  rw [Phrase.other, hchildren]
  have hsound : ∀ p ∈ children, p.2.IsSound := by
    intro p hp
    obtain hextra | ⟨q, hq, s, rfl⟩ := hdress.cases_of_mem hp
    · exact .single (kind?_eq_none_of_isExtra hextra)
    · exact isSound_dress (hparts q hq) s
  refine ⟨rfl, hsound, ?_⟩
  by_cases hne : children = []
  · exact .inl hne
  · have himport : PhraseKind.other.isImport ≠ true := Bool.false_ne_true
    exact .inr (.node hne (fun _ _ => rfl) (List.pairwise_of_forall fun _ _ => rfl)
      (fun h => absurd h himport) hsound)

end Lookalike.Python
