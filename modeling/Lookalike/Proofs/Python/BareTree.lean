import Mathlib.Tactic.Lemma
import Lookalike.Python.Program

/-! ### Trees without layout

The concrete tree of a program holds its whole text: the blanks and rows of its lexemes, its
comments and its joined lines. `ConcreteTree.bare` takes all that away. What is left depends on the
words of the program alone: two programs that are read as the same phrase from the same words have
the same bare trees, wherever their comments and joints were put. -/

namespace Lookalike.Python

/-! ### Bare lexemes -/

/-- A lexeme without its blanks, its rows and its outlook. -/
def Lexeme.bare (x : Lexeme) : Lexeme :=
  ⟨x.kind, "", x.text, 1, 1, ⟨false, 0, none⟩, false⟩

/-- A word as a bare lexeme. -/
def Word.lexeme (w : Word) : Lexeme :=
  ⟨.word w.kind, "", w.text, 1, 1, ⟨false, 0, none⟩, false⟩

/-- The words among some lexemes, without layout. -/
def bareLexemes (xs : List Lexeme) : List Lexeme :=
  (xs.filter (·.isWord)).map Lexeme.bare

/-- No lexemes have no words among them. -/
@[simp]
lemma bareLexemes_nil : bareLexemes [] = [] :=
  rfl

/-- A word stays when the extras are left out. -/
lemma bareLexemes_cons_word {x : Lexeme} (h : x.isWord = true) (xs : List Lexeme) :
    bareLexemes (x :: xs) = x.bare :: bareLexemes xs := by
  simp [bareLexemes, h]

/-- An extra goes when the extras are left out. -/
lemma bareLexemes_cons_extra {x : Lexeme} (h : x.isWord = false) (xs : List Lexeme) :
    bareLexemes (x :: xs) = bareLexemes xs := by
  simp [bareLexemes, h]

/-- A word without the comments before it is of the same lexeme. -/
lemma lexeme_uncommented (w : Word) : w.uncommented.lexeme = w.lexeme :=
  rfl

/-- The words are collected from the lexemes that are words, from the end. -/
lemma map_lexeme_wordsFrom (xs : List Lexeme) (pending : Pending) (done : List Word) :
    (wordsFrom xs pending done).map Word.lexeme =
      (bareLexemes xs).reverse ++ done.map Word.lexeme := by
  induction xs generalizing pending done with
  | nil => simp [wordsFrom]
  | cons x xs ih =>
    cases hx : x.kind with
    | word kind =>
      have hword : x.isWord = true := by simp [Lexeme.isWord, hx]
      have hbare : x.bare = ⟨.word kind, "", x.text, 1, 1, ⟨false, 0, none⟩, false⟩ := by
        rw [Lexeme.bare, hx]
      simp [wordsFrom, hx, ih, bareLexemes_cons_word hword, Word.lexeme, hbare]
    | comment =>
      have hword : x.isWord = false := by simp [Lexeme.isWord, hx]
      simp [wordsFrom, hx, ih, bareLexemes_cons_extra hword]
    | joint =>
      have hword : x.isWord = false := by simp [Lexeme.isWord, hx]
      simp [wordsFrom, hx, ih, bareLexemes_cons_extra hword]

/-- The words of some lexemes are of those that are no extras. -/
lemma map_lexeme_wordsOf (xs : List Lexeme) : (wordsOf xs).map Word.lexeme = bareLexemes xs := by
  rw [wordsOf, List.map_reverse, map_lexeme_wordsFrom]
  simp

/-- Two texts with the same words: they differ only in layout that the grammar does not see, which
is blanks inside lines, line breaks inside brackets, comments and joined lines. -/
def SameWords (source source' : String) : Prop :=
  (wordsOf (lexemes source)).map Word.uncommented = (wordsOf (lexemes source')).map Word.uncommented

instance (source source' : String) : Decidable (SameWords source source') :=
  inferInstanceAs (Decidable (_ = _))

/-- Texts with the same words have the same lexemes without their extras. -/
lemma SameWords.bareLexemes {source source' : String} (h : SameWords source source') :
    bareLexemes (lexemes source) = bareLexemes (lexemes source') := by
  have hmap (ws : List Word) :
      ws.map Word.lexeme = (ws.map Word.uncommented).map Word.lexeme := by
    simp [List.map_map, Function.comp_def, lexeme_uncommented]
  rw [← map_lexeme_wordsOf, ← map_lexeme_wordsOf, hmap, hmap (wordsOf (lexemes source')), h]

namespace ConcreteTree

/-! ### Bare trees -/

/-- Whether a part of a tree is a comment or a joint that stands between the parts of a phrase. -/
def isExtra : Role × ConcreteTree → Bool
  | (.part, .comment _) => true
  | (.part, .joint _) => true
  | _ => false

/-- An extra is a comment or a joint of lines, and a plain part. -/
lemma eq_of_isExtra {p : Role × ConcreteTree} (h : isExtra p = true) :
    (∃ x, p = (.part, .comment x)) ∨ ∃ x, p = (.part, .joint x) := by
  obtain ⟨role, t⟩ := p
  cases role <;> cases t <;> simp [isExtra] at h ⊢

mutual

/-- A tree without layout: its words have no blanks and no rows, and there are no comments and no
joints between them. -/
def bare : ConcreteTree → ConcreteTree
  | .leaf kind x => .leaf kind x.bare
  | .comment x => .comment x.bare
  | .joint x => .joint x.bare
  | .mark m _ => .mark m 1
  | .node kind children => .node kind (bareParts children)

/-- The parts of a tree without layout. -/
def bareParts : List (Role × ConcreteTree) → List (Role × ConcreteTree)
  | [] => []
  | (role, t) :: rest =>
    if isExtra (role, t) then bareParts rest else (role, t.bare) :: bareParts rest

end

/-- An extra goes when the parts are stripped of their layout. -/
lemma bareParts_cons_of_isExtra {p : Role × ConcreteTree} (h : isExtra p = true)
    (ps : List (Role × ConcreteTree)) : bareParts (p :: ps) = bareParts ps := by
  rw [bareParts, if_pos h]

/-- Another part stays, without its layout. -/
lemma bareParts_cons_of_not_isExtra {role : Role} {t : ConcreteTree}
    (h : isExtra (role, t) = false) (ps : List (Role × ConcreteTree)) :
    bareParts ((role, t) :: ps) = (role, t.bare) :: bareParts ps := by
  rw [bareParts, if_neg (Bool.eq_false_iff.1 h)]

/-- To strip some parts of their layout is to leave out the extras and to strip the others. -/
lemma bareParts_eq (ps : List (Role × ConcreteTree)) :
    bareParts ps = (ps.filter (!isExtra ·)).map fun p => (p.1, p.2.bare) := by
  induction ps with
  | nil => rfl
  | cons p ps ih =>
    obtain ⟨role, t⟩ := p
    cases h : isExtra (role, t) <;> simp [bareParts, h, ih]

/-- Parts in two lists are stripped of their layout in each list. -/
lemma bareParts_append (ps qs : List (Role × ConcreteTree)) :
    bareParts (ps ++ qs) = bareParts ps ++ bareParts qs := by
  simp [bareParts_eq]

/-- Nothing is left of extras without their layout. -/
lemma bareParts_eq_nil {ps : List (Role × ConcreteTree)} (h : ∀ p ∈ ps, isExtra p = true) :
    bareParts ps = [] := by
  rw [bareParts_eq, List.map_eq_nil_iff, List.filter_eq_nil_iff]
  intro p hp
  simp [h p hp]

/-! ### Comments and joints before a phrase -/

/-- Whether some lexemes are used up or begin with a word. -/
def BeginsWithWord : List Lexeme → Prop
  | [] => True
  | x :: _ => x.isWord = true

/-- In front of a word there are no extras to take. -/
lemma takeExtras_cons_word (lead : Option Mark) (indents : List Nat) {x : Lexeme}
    (h : x.isWord = true) (xs : List Lexeme) (row : Nat) :
    takeExtras lead indents (x :: xs) row = ([], x :: xs, row) := by
  rw [takeExtras]
  cases hx : x.kind with
  | word kind => rfl
  | comment => simp [Lexeme.isWord, hx] at h
  | joint => simp [Lexeme.isWord, hx] at h

/-- A comment or a joint is taken as a part of its own, if it belongs before the phrase. -/
lemma takeExtras_cons_extra (lead : Option Mark) (indents : List Nat) {x : Lexeme}
    (h : x.isWord = false) (xs : List Lexeme) (row : Nat) :
    ∃ p, isExtra p = true ∧
      takeExtras lead indents (x :: xs) row =
        if precedes indents x lead then
          (p :: (takeExtras lead indents xs x.lastRow).1, (takeExtras lead indents xs x.lastRow).2)
        else ([], x :: xs, row) := by
  rw [takeExtras]
  cases hx : x.kind with
  | word kind => simp [Lexeme.isWord, hx] at h
  | comment => exact ⟨(.part, .comment x), rfl, rfl⟩
  | joint => exact ⟨(.part, .joint x), rfl, rfl⟩

/-- What is taken before a phrase is left out of a bare tree. -/
lemma isExtra_of_mem_takeExtras (lead : Option Mark) (indents : List Nat) (xs : List Lexeme)
    (row : Nat) : ∀ p ∈ (takeExtras lead indents xs row).1, isExtra p = true := by
  induction xs generalizing row with
  | nil => simp [takeExtras]
  | cons x xs ih =>
    cases hx : x.isWord with
    | true => simp [takeExtras_cons_word lead indents hx]
    | false =>
      obtain ⟨p, hp, htake⟩ := takeExtras_cons_extra lead indents hx xs row
      rw [htake]
      split
      · intro q hq
        obtain rfl | hq := List.mem_cons.1 hq
        · exact hp
        · exact ih _ q hq
      · simp

/-- No words are taken before a phrase. -/
lemma bareLexemes_takeExtras (lead : Option Mark) (indents : List Nat) (xs : List Lexeme)
    (row : Nat) : bareLexemes (takeExtras lead indents xs row).2.1 = bareLexemes xs := by
  induction xs generalizing row with
  | nil => rfl
  | cons x xs ih =>
    cases hx : x.isWord with
    | true => rw [takeExtras_cons_word lead indents hx]
    | false =>
      obtain ⟨p, -, htake⟩ := takeExtras_cons_extra lead indents hx xs row
      rw [htake]
      split
      · rw [ih, bareLexemes_cons_extra hx]
      · rfl

/-- Before a word, all comments and joints are taken. -/
lemma beginsWithWord_takeExtras (indents : List Nat) (xs : List Lexeme) (row : Nat) :
    BeginsWithWord (takeExtras none indents xs row).2.1 := by
  induction xs generalizing row with
  | nil => trivial
  | cons x xs ih =>
    cases hx : x.isWord with
    | true => rw [takeExtras_cons_word none indents hx]; exact hx
    | false =>
      obtain ⟨p, -, htake⟩ := takeExtras_cons_extra none indents hx xs row
      have hall : precedes indents x none = true := rfl
      rw [htake, if_pos hall]
      exact ih _

/-! ### Two walks over the same phrase

The two walks meet their lexemes with different layout. What they have left stays the same as far
as its words go, and so does what they have built. -/

/-- Two lists of lexemes with the same words are both used up, or both begin with the same word. -/
lemma cases_of_beginsWithWord {xs ys : List Lexeme} (h : bareLexemes xs = bareLexemes ys)
    (hxs : BeginsWithWord xs) (hys : BeginsWithWord ys) :
    xs = [] ∧ ys = [] ∨
      ∃ x xs' y ys', xs = x :: xs' ∧ ys = y :: ys' ∧ x.bare = y.bare ∧
        bareLexemes xs' = bareLexemes ys' := by
  match xs, ys with
  | [], [] => exact .inl ⟨rfl, rfl⟩
  | [], y :: ys => simp [bareLexemes_cons_word hys] at h
  | x :: xs, [] => simp [bareLexemes_cons_word hxs] at h
  | x :: xs, y :: ys =>
    rw [bareLexemes_cons_word hxs, bareLexemes_cons_word hys, List.cons.injEq] at h
    exact .inr ⟨x, xs, y, ys, rfl, rfl, h⟩

/-- Two leaves of the same words are the same without their layout, and so is what is left behind
them. -/
lemma bare_ofLeaf (kind : LeafKind) {s s' : Rest}
    (h : bareLexemes s.lexemes = bareLexemes s'.lexemes) (hs : BeginsWithWord s.lexemes)
    (hs' : BeginsWithWord s'.lexemes) :
    (ofLeaf kind s).1.bare = (ofLeaf kind s').1.bare ∧
      bareLexemes (ofLeaf kind s).2.lexemes = bareLexemes (ofLeaf kind s').2.lexemes := by
  obtain ⟨hnil, hnil'⟩ | ⟨x, xs, y, ys, hcons, hcons', hxy, hrest⟩ :=
    cases_of_beginsWithWord h hs hs'
  · simp [ofLeaf, hnil, hnil', bare, Lexeme.bare]
  · simp [ofLeaf, hcons, hcons', bare, hxy, hrest]

/-- What a phrase becomes is neither a comment nor a joint. -/
lemma isExtra_dress (role : Role) (x : Phrase) (s : Rest) :
    isExtra (role, (dress x s).1) = false := by
  match x with
  | .leaf kind => rw [dress, ofLeaf]; split <;> cases role <;> rfl
  | .mark m => rw [dress]; cases role <;> rfl
  | .node kind [] => rw [dress]; cases role <;> rfl
  | .node kind ((r, x) :: rest) => rw [dress]; cases role <;> rfl

mutual

/-- The same phrase gives the same bare tree and leaves the same words. A phrase that opens with a
word must find a word; where it opens with a mark, comments may still be ahead. -/
theorem bare_dress : ∀ (x : Phrase) (s s' : Rest),
    bareLexemes s.lexemes = bareLexemes s'.lexemes →
    (leading x = none → BeginsWithWord s.lexemes ∧ BeginsWithWord s'.lexemes) →
    (dress x s).1.bare = (dress x s').1.bare ∧
      bareLexemes (dress x s).2.lexemes = bareLexemes (dress x s').2.lexemes
  | .leaf kind, s, s', h, hready => by
    rw [dress, dress]
    exact bare_ofLeaf kind h (hready rfl).1 (hready rfl).2
  | .mark m, s, s', h, _ => by
    rw [dress, dress]
    exact ⟨rfl, h⟩
  | .node kind [], s, s', h, _ => by
    rw [dress, dress]
    exact ⟨rfl, h⟩
  | .node kind ((role, x) :: rest), s, s', h, hready => by
    -- What the phrase begins with is what its first part begins with: nothing is taken before it.
    have hx := bare_dress x s s' h fun hlead => hready (by rw [leading, hlead])
    have hrest := bare_dressRest rest (dress x s).2 (dress x s').2 hx.2
    rw [dress, dress]
    refine ⟨?_, hrest.2⟩
    rw [bare, bare, bareParts_cons_of_not_isExtra (isExtra_dress _ _ _),
      bareParts_cons_of_not_isExtra (isExtra_dress _ _ _), hx.1, hrest.1]

/-- The parts that follow another part are the same without the comments and joints before
them. -/
theorem bare_dressRest : ∀ (parts : List (Role × Phrase)) (s s' : Rest),
    bareLexemes s.lexemes = bareLexemes s'.lexemes →
    bareParts (dressRest parts s).1 = bareParts (dressRest parts s').1 ∧
      bareLexemes (dressRest parts s).2.lexemes = bareLexemes (dressRest parts s').2.lexemes
  | [], s, s', h => by
    rw [dressRest, dressRest]
    exact ⟨rfl, h⟩
  | (role, x) :: rest, s, s', h => by
    have hleft := (bareLexemes_takeExtras (leading x) s.indents s.lexemes s.row).trans
      (h.trans (bareLexemes_takeExtras (leading x) s'.indents s'.lexemes s'.row).symm)
    -- Before a word, both walks take all that stands in the way, though not the same.
    have hready : leading x = none →
        BeginsWithWord (takeExtras (leading x) s.indents s.lexemes s.row).2.1 ∧
          BeginsWithWord (takeExtras (leading x) s'.indents s'.lexemes s'.row).2.1 := by
      intro hlead
      rw [hlead]
      exact ⟨beginsWithWord_takeExtras _ _ _, beginsWithWord_takeExtras _ _ _⟩
    have hx := bare_dress x
      { s with
        lexemes := (takeExtras (leading x) s.indents s.lexemes s.row).2.1
        row := (takeExtras (leading x) s.indents s.lexemes s.row).2.2 }
      { s' with
        lexemes := (takeExtras (leading x) s'.indents s'.lexemes s'.row).2.1
        row := (takeExtras (leading x) s'.indents s'.lexemes s'.row).2.2 }
      hleft hready
    have hrest := bare_dressRest rest _ _ hx.2
    rw [dressRest, dressRest]
    refine ⟨?_, hrest.2⟩
    simp only [bareParts_append, bareParts_eq_nil (isExtra_of_mem_takeExtras _ _ _ _),
      List.nil_append, bareParts_cons_of_not_isExtra (isExtra_dress _ _ _), hx.1, hrest.1]

end

/-- The tree of a program without layout depends on its words alone. -/
lemma bare_ofPhrase (parts : List (Role × Phrase)) {xs ys : List Lexeme}
    (h : bareLexemes xs = bareLexemes ys) :
    (ofPhrase (.other parts) xs).bare = (ofPhrase (.other parts) ys).bare := by
  have hparts := (bare_dressRest parts ⟨xs, [], 1⟩ ⟨ys, [], 1⟩ h).1
  simp only [ofPhrase, Phrase.other, bare, bareParts_append,
    bareParts_eq_nil (isExtra_of_mem_takeExtras _ _ _ _), List.append_nil, hparts]

end ConcreteTree

/-! ### Bare trees of programs -/

/-- What a program is read as has no kind of its own. -/
lemma exists_other_of_readProgram {ws : List Word} {x : Phrase}
    (h : Grammar.readProgram ws = .ok x) : ∃ parts, x = .other parts := by
  simp only [Grammar.readProgram, bind, Except.bind] at h
  split at h
  · cases h
  · split at h
    · cases h
      exact ⟨_, rfl⟩
    · cases h

/-- The phrase of a program is that of its words without comments between them. -/
lemma readProgram_uncommented {ws : List Word} {x : Phrase} (h : Grammar.program ws = .ok x) :
    Grammar.readProgram (ws.map Word.uncommented) = .ok x := by
  simp only [Grammar.program, bind, Except.bind] at h
  split at h
  · cases h
  · exact h

/-- A text that has a concrete tree is read as a phrase, and the tree is that phrase with the
text. -/
lemma exists_phrase_of_concreteTree {source : String} {t : ConcreteTree}
    (h : concreteTree source = .ok t) :
    ∃ phrase, Grammar.program (wordsOf (lexemes source)) = .ok phrase ∧
      t = .ofPhrase phrase (lexemes source) := by
  rw [concreteTree] at h
  cases hphrase : Grammar.program (wordsOf (lexemes source)) with
  | error left => simp [hphrase] at h
  | ok phrase =>
    simp only [hphrase, Except.ok.injEq] at h
    exact ⟨phrase, rfl, h.symm⟩

/-- Two texts with the same words, both of them programs, have the same tree up to layout. -/
theorem bare_concreteTree {source source' : String} (h : SameWords source source')
    {t t' : ConcreteTree} (ht : concreteTree source = .ok t) (ht' : concreteTree source' = .ok t') :
    t.bare = t'.bare := by
  obtain ⟨phrase, hphrase, rfl⟩ := exists_phrase_of_concreteTree ht
  obtain ⟨phrase', hphrase', rfl⟩ := exists_phrase_of_concreteTree ht'
  have hread := readProgram_uncommented hphrase
  rw [h, readProgram_uncommented hphrase', Except.ok.injEq] at hread
  subst hread
  obtain ⟨parts, rfl⟩ := exists_other_of_readProgram (readProgram_uncommented hphrase')
  exact ConcreteTree.bare_ofPhrase parts h.bareLexemes

end Lookalike.Python
