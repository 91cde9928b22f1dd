import Lookalike.Proofs.Python.SoundTree

/-! ### Rows

The lexemes of a text stand on its rows one after another, each beginning on or after the row on
which the one before it ends. A phrase takes its words in this order, with the comments and joints
between them, so that the parts of each node of a concrete tree stand one after another on the rows
of the node. -/

namespace Lookalike.Python

/-! #### Spans that ascend -/

/-- The rows or lines from a first to a last one. -/
structure Span where
  first : Nat
  last : Nat

/-- Some spans stand one after another between two rows. The row on which one ends may be that on
which the next one begins. -/
def Ascend : Nat → List Span → Nat → Prop
  | low, [], high => low ≤ high
  | low, x :: rest, high => low ≤ x.first ∧ x.first ≤ x.last ∧ Ascend x.last rest high

section Ascend

variable {low high : Nat} {xs ys : List Span}

/-- The first bound does not come behind the last one. -/
lemma Ascend.le (h : Ascend low xs high) : low ≤ high := by
  induction xs generalizing low with
  | nil => exact h
  | cons x xs ih =>
    obtain ⟨hlow, hle, hxs⟩ := h
    exact Nat.le_trans (Nat.le_trans hlow hle) (ih hxs)

/-- Spans that ascend from a row ascend from any row before it. -/
lemma Ascend.mono_low {low' : Nat} (h : Ascend low xs high) (hlow : low' ≤ low) :
    Ascend low' xs high := by
  cases xs with
  | nil => exact Nat.le_trans hlow h
  | cons x xs => exact ⟨Nat.le_trans hlow h.1, h.2⟩

/-- Spans that ascend to a row ascend to any row behind it. -/
lemma Ascend.mono_high {high' : Nat} (h : Ascend low xs high) (hhigh : high ≤ high') :
    Ascend low xs high' := by
  induction xs generalizing low with
  | nil => exact Nat.le_trans h hhigh
  | cons x xs ih => exact ⟨h.1, h.2.1, ih h.2.2⟩

/-- The upper bound may be any that is not exceeded. -/
lemma Ascend.of_le {high' : Nat} (h : Ascend low xs high) (hlow : low ≤ high')
    (hlast : ∀ x ∈ xs, x.last ≤ high') : Ascend low xs high' := by
  induction xs generalizing low with
  | nil => exact hlow
  | cons x xs ih =>
    obtain ⟨hx, hxs⟩ := List.forall_mem_cons.1 hlast
    exact ⟨h.1, h.2.1, ih h.2.2 hx hxs⟩

/-- Spans in two lists ascend if there is a row to which the first ones and from which the others
do. -/
lemma ascend_append :
    Ascend low (xs ++ ys) high ↔ ∃ middle, Ascend low xs middle ∧ Ascend middle ys high := by
  induction xs generalizing low with
  | nil => exact ⟨fun h => ⟨low, Nat.le_refl low, h⟩, fun ⟨_, hlow, h⟩ => h.mono_low hlow⟩
  | cons x xs ih =>
    rw [List.cons_append, Ascend, ih]
    constructor
    · rintro ⟨hlow, hle, middle, hxs, hys⟩
      exact ⟨middle, ⟨hlow, hle, hxs⟩, hys⟩
    · rintro ⟨middle, ⟨hlow, hle, hxs⟩, hys⟩
      exact ⟨hlow, hle, middle, hxs, hys⟩

/-- Some of the spans that ascend do so too. -/
lemma Ascend.sublist (h : Ascend low ys high) (hsub : xs.Sublist ys) : Ascend low xs high := by
  induction hsub generalizing low with
  | slnil => exact h
  | cons y _ ih => exact (ih h.2.2).mono_low (Nat.le_trans h.1 h.2.1)
  | cons_cons y _ ih => exact ⟨h.1, h.2.1, ih h.2.2⟩

/-- Each of the spans that ascend lies between the two bounds. -/
lemma Ascend.bounds_of_mem (h : Ascend low xs high) {x : Span} (hx : x ∈ xs) :
    low ≤ x.first ∧ x.first ≤ x.last ∧ x.last ≤ high := by
  obtain ⟨hlow, hle, hhigh⟩ := h.sublist (List.singleton_sublist.2 hx)
  exact ⟨hlow, hle, hhigh⟩

/-- Of two spans that ascend the second one begins on or after the row on which the first one
ends. -/
lemma Ascend.pairwise (h : Ascend low xs high) : xs.Pairwise fun x y => x.last ≤ y.first := by
  induction xs generalizing low with
  | nil => exact .nil
  | cons x xs ih =>
    obtain ⟨-, -, hxs⟩ := h
    exact .cons (fun y hy => (hxs.bounds_of_mem hy).1) (ih hxs)

/-- Spans that ascend inside spans that ascend do so together. -/
lemma Ascend.flatMap {α β : Type} {f : α → List β} {outer : α → Span} {inner : β → Span}
    {ts : List α} (h : Ascend low (ts.map outer) high)
    (hf : ∀ t ∈ ts, Ascend (outer t).first ((f t).map inner) (outer t).last) :
    Ascend low ((ts.flatMap f).map inner) high := by
  induction ts generalizing low with
  | nil => exact h
  | cons t ts ih =>
    obtain ⟨ht, hts⟩ := List.forall_mem_cons.1 hf
    rw [List.flatMap_cons, List.map_append, ascend_append]
    exact ⟨(outer t).last, ht.mono_low h.1, ih h.2.2 hts⟩

end Ascend

/-! #### Quotations and frames

A quotation mark or a brace is no line feed, so the signs at the ends of a quotation, and of a
replacement in it, stand on one row. -/

namespace Quotation

/-- What is left where a run of text in a quotation ends: the marks of the quotation, if they close
it, and a brace, if one opens a replacement. -/
structure Ends (q : Quotation) (event : QuotationEvent) (rest : List Char) : Prop where
  close : event = .close → ∀ c ∈ rest.take (if q.triple then 3 else 1), c = q.mark
  brace : event = .brace → rest.take 1 = ['\x7b']

/-- A fault ends a quotation where it stands. -/
lemma ends_fault (q : Quotation) (rest : List Char) : q.Ends .fault rest :=
  ⟨nofun, nofun⟩

/-- A run of text ends with what its event stands for. -/
lemma ends_scan (q : Quotation) (fuel : Nat) (running : Bool) (done cs : List Char) :
    q.Ends (q.scan fuel running done cs).2.1 (q.scan fuel running done cs).2.2 := by
  induction fuel generalizing running done cs with
  | zero => exact q.ends_fault _
  | succ fuel ih =>
    unfold scan
    split
    · exact q.ends_fault _
    · exact q.ends_fault _
    · split
      -- a brace that opens a replacement, unless it is doubled
      · rename_i hopen
        split
        · exact ih _ _ _
        · exact ⟨nofun, fun _ => by rw [hopen.2]; rfl⟩
      · split
        · split
          · exact ih _ _ _
          · exact q.ends_fault _
        · split
          · split
            · exact ih _ _ _
            · split <;> exact ih _ _ _
          · split
            -- a mark, which closes a quotation with single marks
            · rename_i hmark
              split
              · rename_i htriple
                split
                · split
                  · rename_i hmarks
                    refine ⟨fun _ => ?_, nofun⟩
                    simp [htriple, hmarks.1, hmarks.2, hmark]
                  · split <;> exact ih _ _ _
                · exact ih _ _ _
              · rename_i hsingle
                refine ⟨fun _ => ?_, nofun⟩
                simp [hsingle, hmark]
            · split
              · exact q.ends_fault _
              · exact ih _ _ _

/-- A quotation that opens has a quotation mark. -/
lemma isMark_of_open? {q : Quotation} {opening rest cs : List Char}
    (h : open? cs = some (q, opening, rest)) : isMark q.mark = true := by
  unfold open? at h
  simp only at h
  split at h
  · split at h
    · rename_i hmark
      split at h
      · split at h
        · cases h
          exact hmark
        · cases h
          exact hmark
      · cases h
        exact hmark
    · cases h
  · cases h

end Quotation

/-- Whether a frame, if it is a quotation, has a quotation mark for its mark. -/
def Frame.isMarked : Frame → Bool
  | .quoted q => Quotation.isMark q.mark
  | _ => true

section Frames

variable {frames : List Frame} (h : frames.all Frame.isMarked = true)

include h

/-- The quotations that are open after some text have quotation marks, if those before it have. -/
lemma all_isMarked_framesAfter (text : List Char) :
    (framesAfter text frames).all Frame.isMarked = true := by
  unfold framesAfter
  -- What opens is a bracket, a replacement or a format, and what closes leaves fewer frames.
  split <;> exact h

/-- The quotations that are open after a piece of a format have quotation marks. -/
lemma all_isMarked_formatPieceAt (cs : List Char) :
    (formatPieceAt frames cs).frames.all Frame.isMarked = true := by
  unfold formatPieceAt
  split <;> simp_all [Frame.isMarked]

/-- The frames that are open after a piece have marks: the piece opens none, or it opens a quotation
with its mark. -/
lemma all_isMarked_pieceAt (done : List Lexeme) (cs : List Char) :
    (pieceAt done frames cs).frames.all Frame.isMarked = true := by
  have hsign : (pieceAt.signPiece done frames cs).frames.all Frame.isMarked = true := by
    unfold pieceAt.signPiece
    split
    · exact all_isMarked_framesAfter h _
    · exact all_isMarked_framesAfter h _
    · exact h
  unfold pieceAt
  split
  · exact h
  · split
    · exact h
    · split
      · dsimp only
        split <;> exact h
      · split
        -- a quotation is opened
        · rename_i q _ _ hopen
          simp [Frame.isMarked, Quotation.isMark_of_open? hopen, h]
        · split
          · exact all_isMarked_framesAfter h _
          · dsimp only
            split
            · exact h
            · split
              · exact h
              · split
                · split
                  · exact h
                  · exact hsign
                · exact hsign

end Frames

/-! #### Lexemes -/

/-- The rows of a lexeme. -/
def Lexeme.span (x : Lexeme) : Span :=
  ⟨x.firstRow, x.lastRow⟩

/-- To look ahead leaves lexemes on their rows. -/
lemma map_span_lookAhead (xs done : List Lexeme) :
    (lookAhead xs done).map Lexeme.span = (xs.reverse ++ done).map Lexeme.span := by
  induction xs generalizing done with
  | nil => rfl
  | cons x xs ih =>
    unfold lookAhead
    rw [ih]
    simp [Lexeme.span]

/-- There are no ends of lines in a text without line feeds. -/
lemma lineFeeds_eq_zero {cs : List Char} (h : '\n' ∉ cs) : lineFeeds cs = 0 := by
  have hfold : ∀ n, cs.foldl (fun n c => if c = '\n' then n + 1 else n) n = n := by
    induction cs with
    | nil => exact fun _ => rfl
    | cons c cs ih =>
      obtain ⟨hc, hcs⟩ := not_or.1 (mt List.mem_cons.2 h)
      intro n
      rw [List.foldl_cons, if_neg (Ne.symm hc), ih hcs]
  exact hfold 0

/-- A lexeme that begins on or after the row that is reached goes on with those before it. -/
lemma ascend_lexemeOf {done : List Lexeme} {low row : Nat}
    (h : Ascend low (done.reverse.map Lexeme.span) row) (kind : LexemeKind)
    (gap text : List Char) (frames : List Frame) (atEnd : Bool) :
    Ascend low ((lexemeOf kind gap text row frames atEnd :: done).reverse.map Lexeme.span)
      (lexemeOf kind gap text row frames atEnd).lastRow := by
  rw [List.reverse_cons, List.map_append, ascend_append]
  exact ⟨row, h, Nat.le_add_right _ _, Nat.le_add_right _ _, Nat.le_refl _⟩

/-- A lexeme without line feeds leaves the row that is reached as it is. -/
lemma ascend_lexemeOf_row {done : List Lexeme} {low row : Nat}
    (h : Ascend low (done.reverse.map Lexeme.span) row) {text : List Char} (htext : '\n' ∉ text)
    (kind : LexemeKind) (frames : List Frame) (atEnd : Bool) :
    Ascend low ((lexemeOf kind [] text row frames atEnd :: done).reverse.map Lexeme.span) row := by
  have hlast : (lexemeOf kind [] text row frames atEnd).lastRow = row := by
    simp [lexemeOf, lineFeeds_eq_zero, htext]
  have hascend := ascend_lexemeOf h kind [] text frames atEnd
  rwa [hlast] at hascend

/-- Each step of the cutting goes on from the row that is reached. The signs at both ends of a
quotation or a replacement in it do not move the row on. -/
lemma ascend_cut {low : Nat} (fuel : Nat) {frames : List Frame} {row : Nat} (cs : List Char)
    {done : List Lexeme} (hframes : frames.all Frame.isMarked = true)
    (h : Ascend low (done.reverse.map Lexeme.span) row) :
    ∃ high, Ascend low ((cut fuel frames row cs done).reverse.map Lexeme.span) high := by
  induction fuel generalizing frames row cs done with
  | zero => exact ⟨row, h⟩
  | succ fuel ih =>
    unfold cut
    split
    -- In a quotation the text is cut off before the event that ends it.
    · rename_i q outer
      obtain ⟨hmark, houter⟩ :
          Quotation.isMark q.mark = true ∧ outer.all Frame.isMarked = true := by
        simpa [Frame.isMarked] using hframes
      have hends := q.ends_scan fuel false [] cs
      generalize q.scan fuel false [] cs = scanned at hends ⊢
      obtain ⟨text, event, rest⟩ := scanned
      dsimp only at hends ⊢
      have htext : Ascend low
          ((if text.isEmpty then done
            else lexemeOf (.word .quoteText) [] text.reverse row (.quoted q :: outer) false ::
              done).reverse.map Lexeme.span)
          (lexemeOf (.word .quoteText) [] text.reverse row (.quoted q :: outer) false).lastRow := by
        cases text with
        | nil => exact h
        | cons c text => exact ascend_lexemeOf h _ _ _ _ _
      cases event with
      | fault => exact ⟨_, ascend_lexemeOf htext _ _ _ _ _⟩
      | close =>
        refine ih _ houter (ascend_lexemeOf_row htext (fun hfeed => ?_) _ _ _)
        rw [← hends.close rfl _ hfeed] at hmark
        cases hmark
      | brace =>
        refine ih _ hframes (ascend_lexemeOf_row htext ?_ _ _ _)
        rw [hends.brace rfl]
        decide
    -- Elsewhere a piece is cut off with the blanks in front of it.
    · extract_lets inFormat blank gap rest piece lexeme
      split
      · exact ⟨_, ascend_lexemeOf h _ _ _ _ _⟩
      · refine ih _ ?_ (ascend_lexemeOf h _ _ _ _ _)
        unfold piece
        split
        · exact all_isMarked_formatPieceAt hframes _
        · exact all_isMarked_pieceAt hframes _ _

/-- The lexemes of a text stand on its rows one after another. -/
theorem ascend_lexemes (source : String) :
    ∃ high, Ascend 1 ((lexemes source).map Lexeme.span) high := by
  rw [lexemes, map_span_lookAhead, List.append_nil]
  exact @ascend_cut 1 _ [] 1 _ [] rfl (Nat.le_refl 1)

/-! #### Concrete trees -/

namespace ConcreteTree

/-- The rows of a tree. -/
def span (t : ConcreteTree) : Span :=
  ⟨t.firstRow, t.lastRow⟩

/-- The rows of some children. -/
def spans (children : List (Role × ConcreteTree)) : List Span :=
  children.map (·.2.span)

/-- A tree in which the parts of each node stand one after another on the rows of the node. -/
inductive IsOrdered : ConcreteTree → Prop
  | single {t : ConcreteTree} (h : t.kind? = none) (hle : t.firstRow ≤ t.lastRow) : IsOrdered t
  | node {kind : PhraseKind} {children : List (Role × ConcreteTree)}
      (h : Ascend (node kind children).firstRow (spans children) (node kind children).lastRow)
      (hchildren : ∀ p ∈ children, IsOrdered p.2) : IsOrdered (.node kind children)

/-- The rows of the children in two lists are those in each list. -/
lemma spans_append (ts us : List (Role × ConcreteTree)) : spans (ts ++ us) = spans ts ++ spans us :=
  List.map_append

/-- Children that ascend do so to the last row of the last one. -/
lemma ascend_lastRowOf {children : List (Role × ConcreteTree)} {low high : Nat}
    (h : Ascend low (spans children) high) :
    Ascend low (spans children) (lastRowOf low children) ∧ lastRowOf low children ≤ high := by
  induction children generalizing low with
  | nil => exact ⟨Nat.le_refl low, h⟩
  | cons p children ih =>
    obtain ⟨hlow, hle, hrest⟩ := h
    obtain ⟨hascend, hhigh⟩ := ih hrest
    exact ⟨⟨hlow, hle, hascend⟩, hhigh⟩

/-- A node has the rows from its first part to its last one. -/
lemma ascend_node {children : List (Role × ConcreteTree)} (hne : children ≠ []) (kind : PhraseKind)
    {low high : Nat} (h : Ascend low (spans children) high) :
    low ≤ (node kind children).firstRow ∧
      Ascend (node kind children).firstRow (spans children) (node kind children).lastRow ∧
      (node kind children).lastRow ≤ high := by
  cases children with
  | nil => exact absurd rfl hne
  | cons p children =>
    obtain ⟨hlow, hle, hrest⟩ := h
    obtain ⟨hascend, hhigh⟩ := ascend_lastRowOf hrest
    exact ⟨hlow, ⟨Nat.le_refl _, hle, hascend⟩, hhigh⟩

/-! #### Phrases on their rows -/

/-- Some trees stand in order between the row that was reached before them and the row that is
reached with them, and so do the lexemes that are left behind them. -/
structure AreSet (low : Nat) (ts : List (Role × ConcreteTree)) (row : Nat) (left : List Lexeme)
    (high : Nat) : Prop where
  ordered : ∀ p ∈ ts, p.2.IsOrdered
  ascend : Ascend low (spans ts) row
  left : Ascend row (left.map Lexeme.span) high

variable {low row row' high : Nat} {ts us : List (Role × ConcreteTree)} {left left' : List Lexeme}

/-- Nothing is set, and the lexemes that are left stand in order. -/
lemma areSet_nil (h : Ascend row (left.map Lexeme.span) high) : AreSet row [] row left high :=
  ⟨by simp, Nat.le_refl row, h⟩

/-- What is set in order behind other trees is set in order with them. -/
lemma AreSet.append (h : AreSet low ts row left high) (h' : AreSet row us row' left' high) :
    AreSet low (ts ++ us) row' left' high where
  ordered := List.forall_mem_append.2 ⟨h.ordered, h'.ordered⟩
  ascend := by
    rw [spans_append, ascend_append]
    exact ⟨row, h.ascend, h'.ascend⟩
  left := h'.left

/-- A tree without parts is set behind the row that is reached before it. -/
lemma areSet_single (t : ConcreteTree) (hkind : t.kind? = none) (hlow : low ≤ t.firstRow)
    (hle : t.firstRow ≤ t.lastRow) (h : Ascend t.lastRow (left.map Lexeme.span) high)
    (role : Role) : AreSet low [(role, t)] t.lastRow left high :=
  ⟨List.forall_mem_singleton.2 (.single hkind hle), ⟨hlow, hle, Nat.le_refl _⟩, h⟩

/-- Trees that are set make a node that is set. -/
lemma AreSet.node (h : AreSet low ts row left high) (hne : ts ≠ []) (kind : PhraseKind)
    (role : Role) : AreSet low [(role, .node kind ts)] row left high := by
  obtain ⟨hlow, hascend, hhigh⟩ := ascend_node hne kind h.ascend
  exact ⟨List.forall_mem_singleton.2 (.node hascend h.ordered), ⟨hlow, hascend.le, hhigh⟩, h.left⟩

/-- The extras that are taken are set in order, in front of what is left. -/
lemma areSet_takeExtras (lead : Option Mark) (indents : List Nat) {xs : List Lexeme} {row : Nat}
    (h : Ascend row (xs.map Lexeme.span) high) :
    AreSet row (takeExtras lead indents xs row).1 (takeExtras lead indents xs row).2.2
      (takeExtras lead indents xs row).2.1 high := by
  induction xs generalizing row with
  | nil => exact areSet_nil h
  | cons x xs ih =>
    obtain ⟨hlow, hle, hleft⟩ := h
    rw [takeExtras]
    cases x.kind with
    | word kind => exact areSet_nil ⟨hlow, hle, hleft⟩
    | comment =>
      dsimp only
      split
      · exact (areSet_single (.comment x) rfl hlow hle hleft .part).append (ih hleft)
      · exact areSet_nil ⟨hlow, hle, hleft⟩
    | joint =>
      dsimp only
      split
      · exact (areSet_single (.joint x) rfl hlow hle hleft .part).append (ih hleft)
      · exact areSet_nil ⟨hlow, hle, hleft⟩

mutual

/-- The text of a sound phrase stands on the rows behind what came before it. -/
theorem areSet_dress : ∀ (x : Phrase), x.IsSound → ∀ (role : Role) (s : Rest),
    Ascend s.row (s.lexemes.map Lexeme.span) high →
      AreSet s.row [(role, (dress x s).1)] (dress x s).2.row (dress x s).2.lexemes high
  | .leaf kind, _, role, s, h => by
    rw [dress, ofLeaf]
    split
    · rename_i x rest hlexemes
      rw [hlexemes] at h
      obtain ⟨hlow, hle, hrest⟩ := h
      exact areSet_single (.leaf kind x) rfl hlow hle hrest role
    -- where the words are used up, the missing one is set on the row that is reached
    · refine areSet_single (.leaf kind _) rfl ?_ ?_ ?_ role
      · exact Nat.le_refl s.row
      · exact Nat.le_refl s.row
      · exact h
  | .mark m, _, role, s, h => by
    rw [dress]
    exact areSet_single (.mark m s.row) rfl (Nat.le_refl _) (Nat.le_refl _) h role
  | .node kind [], hx, _, _, _ => by
    cases hx with
    | node hne => exact absurd rfl hne
  | .node kind ((r, x) :: rest), hx, role, s, h => by
    have hparts : ∀ p ∈ (r, x) :: rest, p.2.IsSound := by
      cases hx with
      | node _ _ _ _ hparts => exact hparts
    obtain ⟨hfirst, hrest⟩ := List.forall_mem_cons.1 hparts
    have hx := areSet_dress x hfirst r s h
    have hchildren := areSet_dressRest rest hrest _ hx.left
    rw [dress]
    exact (hx.append hchildren).node (List.cons_ne_nil _ _) kind role

/-- The parts behind another part stand behind it in order, with the comments and joints between
them. -/
theorem areSet_dressRest : ∀ (parts : List (Role × Phrase)), (∀ p ∈ parts, p.2.IsSound) →
    ∀ s : Rest, Ascend s.row (s.lexemes.map Lexeme.span) high →
      AreSet s.row (dressRest parts s).1 (dressRest parts s).2.row
        (dressRest parts s).2.lexemes high
  | [], _, s, h => by
    rw [dressRest]
    exact areSet_nil h
  | (role, x) :: rest, hparts, s, h => by
    obtain ⟨hfirst, hrest⟩ := List.forall_mem_cons.1 hparts
    have hextras := areSet_takeExtras (leading x) s.indents h
    have hx := areSet_dress x hfirst role
      { s with
        lexemes := (takeExtras (leading x) s.indents s.lexemes s.row).2.1
        row := (takeExtras (leading x) s.indents s.lexemes s.row).2.2 } hextras.left
    have hchildren := areSet_dressRest rest hrest _ hx.left
    rw [dressRest]
    exact hextras.append (hx.append hchildren)

end

end ConcreteTree

open ConcreteTree

/-- The statements of a tree stand in order on rows from the first one on, and so do the parts of
each node in them. -/
structure ConcreteTree.AreStatementsOrdered (t : ConcreteTree) : Prop where
  ordered : ∀ p ∈ t.parts, p.2.IsOrdered
  ascend : ∃ high, Ascend 1 (spans t.parts) high

/-- The statements of a program stand in order on the rows of the text. -/
theorem areStatementsOrdered_concreteTree {source : String} {t : ConcreteTree}
    (h : concreteTree source = .ok t) : t.AreStatementsOrdered := by
  obtain ⟨phrase, hphrase, rfl⟩ := exists_phrase_of_concreteTree h
  obtain ⟨parts, rfl, hparts⟩ := Grammar.areSound_of_program hphrase
  obtain ⟨high, hlexemes⟩ := ascend_lexemes source
  have hchildren := areSet_dressRest parts hparts ⟨lexemes source, [], 1⟩ hlexemes
  have hset := hchildren.append (areSet_takeExtras none [] hchildren.left)
  exact ⟨hset.ordered, _, hset.ascend⟩

end Lookalike.Python
