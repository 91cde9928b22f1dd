import Lookalike.Proofs.Python.Grammar.Reading

/-! ### Sound expressions

What the parts of expressions are read from yields sound phrases, given that what is nested in them
is sound. -/

namespace Lookalike.Python.Grammar

open Phrase

variable {d : Depth} {p : Place} {ws : Words}

/-! #### Lists of expressions -/

/-- Expressions with commas between them are parts that fill a phrase. -/
lemma yields_expressionParts (hd : d.IsSound) (stops : List String) :
    Yields Fill (expressionParts d p stops ws) := by
  have hstep : ∀ done ws, Fill done → (expressionsStep d p stops done ws).Yields Fill := by
    intro done ws hdone parts rest h
    have hdone : AreSound done := hdone.2
    grind [expressionsStep]
  refine (hd _ _ _).bind fun first ws hfirst => ?_
  refine (yields_iterate hstep _ _ (by simpa using hfirst)).bind fun parts ws hparts => ?_
  simpa using hparts

/-- Several expressions are a sound tuple, and a single one is sound by itself. -/
lemma yields_expressions (hd : d.IsSound) : Yields IsSound (expressions d p ws) := by
  refine (yields_expressionParts hd []).bind fun parts ws hparts => ?_
  dsimp only
  split
  · simpa using hparts
  · simpa using IsSound.free rfl hparts

/-- What follows the word that hands out a value makes a sound phrase with it. -/
lemma yields_yieldRest (hd : d.IsSound) : Yields IsSound (yieldRest d p ws) := by
  have hbare : ∀ ws, Yields IsSound (some (.node .yield [token], ws)) := fun ws => by
    simpa using IsSound.free rfl (by simp)
  unfold yieldRest
  split
  · refine (hd _ _ _).bind fun x ws hx => ?_
    simpa using IsSound.free rfl (by simpa using hx)
  · split
    · split
      · refine (yields_expressions hd).bind fun x ws hx => ?_
        simpa using IsSound.free rfl (by simpa using hx)
      · exact hbare _
    · exact hbare _

/-! #### Quoted literals -/

/-- A format in a replacement field is made of sound parts. -/
lemma yields_formatPart (hd : d.IsSound) : Yields AreSound (formatPart d p ws) := by
  have hstep : ∀ done ws, AreSound done → (formatStep d p done ws).Yields AreSound := by
    intro done ws hdone parts rest h
    grind [formatStep]
  unfold formatPart
  split
  · refine (yields_iterate hstep _ _ areSound_nil).bind fun parts ws hparts => ?_
    simpa using hparts
  · simp

/-- What follows the brace of a replacement field makes a sound field. -/
lemma yields_replacementRest (hd : d.IsSound) : Yields IsSound (replacementRest d p ws) := by
  unfold replacementRest
  extract_lets inner rest
  have hrest : ∀ x ws, x.IsSound → Yields IsSound (rest (x, ws)) := by
    intro x ws hx
    dsimp only [rest]
    refine (yields_formatPart hd).bind fun format ws hformat => ?_
    refine yields_bind fun ws _ => yields_some.2 ?_
    grind
  split
  · exact (yields_yieldRest hd).bind hrest
  · exact (yields_expressions hd).bind hrest

/-- The parts of a quotation that has been opened. -/
lemma yields_quotationParts (hd : d.IsSound) :
    ∀ (n : Nat) (done : List (Role × Phrase)) (ws : Words), AreSound done →
      Yields Fill (quotationParts d p n done ws)
  | 0, _, _, _ => yields_none
  | _ + 1, _, [], _ => yields_none
  | n + 1, done, w :: rest, hdone => by
    have hliteral : Fill (part (.leaf .literal) :: done) := by simpa using hdone
    rw [quotationParts]
    split
    · exact yields_quotationParts hd n _ _ hliteral.2
    · exact yields_some.2 (fill_reverse.2 hliteral)
    · split
      · split
        · next x rest hx =>
          apply yields_quotationParts hd
          simpa using ⟨hd.of_eq_some hx, hdone⟩
        · exact yields_none
      · exact yields_none

/-- A quotation with its replacement fields is sound. -/
lemma yields_quotation (hd : d.IsSound) : Yields IsSound (quotation d p ws) := by
  refine (yields_quotationParts hd _ _ _ (by simp)).bind fun parts ws hparts => ?_
  simpa using IsSound.free rfl hparts

/-- Quotations side by side are sound. -/
lemma yields_quotations (hd : d.IsSound) : Yields IsSound (quotations d p ws) := by
  have hstep : ∀ done ws, Fill done → (quotationsStep d p done ws).Yields Fill := by
    intro done ws hdone parts rest h
    have hdone : AreSound done := hdone.2
    have hquotation : ∀ x ws', quotation d p ws.tail = some (x, ws') → x.IsSound :=
      yields_quotation hd
    grind [quotationsStep]
  refine (yields_quotation hd).bind fun first ws hfirst => ?_
  refine (yields_iterate hstep _ _ (by simpa using hfirst)).bind fun parts ws hparts => ?_
  dsimp only
  split
  · simpa using hfirst
  · simpa using IsSound.free rfl (fill_reverse.2 hparts)

/-! #### Calls and subscripts -/

/-- What is unpacked by one or two stars is sound. -/
lemma yields_splat (hd : d.IsSound) {kind : PhraseKind} (hkind : kind.isFree = true) :
    Yields (fun x => x.2.IsSound) (splat d p kind ws) := by
  refine (hd _ _ _).bind fun x ws hx => ?_
  simpa using IsSound.free hkind (by simpa using hx)

/-- An argument of a call is sound, whether it stands alone, is named or is unpacked. -/
lemma yields_argument (hd : d.IsSound) :
    Yields (fun x => x.2.IsSound) (argument d p ws) := by
  unfold argument
  split
  · exact yields_none
  · split
    · exact yields_splat hd rfl
    · split
      · exact yields_splat hd rfl
      · split
        · refine (hd _ _ _).bind fun x ws hx => ?_
          simpa using IsSound.free rfl (by simpa using hx)
        · exact yields_asPart (hd _ _ _)

/-- The arguments of a call in their parentheses are sound. -/
lemma yields_argumentList (hd : d.IsSound) : Yields IsSound (argumentList d p ws) := by
  unfold argumentList
  refine yields_ite.2 ⟨fun _ => ?_, fun _ => ?_⟩
  · simpa using IsSound.free rfl (by simp)
  · refine (yields_itemsUntil (fun _ => yields_argument hd) _ _ _ (by simp)).bind
      fun parts ws hparts => ?_
    simpa using IsSound.free rfl hparts

/-- The bounds of a slice behind its first colon fill a phrase with what stands before it. -/
lemma yields_sliceRest (hd : d.IsSound) {done : List (Role × Phrase)} (hdone : AreSound done) :
    Yields Fill (sliceRest d p done ws) := by
  unfold sliceRest
  extract_lets bound
  have hbound : ∀ ws, Yields AreSound (bound ws) := by
    intro ws
    dsimp only [bound]
    split
    · refine yields_ite.2 ⟨fun _ => by simp, fun _ => ?_⟩
      exact (yields_asPart (hd _ _ _)).map fun x ws hx => by simpa using hx
    · exact yields_none
  refine (hbound _).bind fun upper ws hupper => ?_
  refine yields_ite.2 ⟨fun _ => ?_, fun _ => ?_⟩
  · refine (hbound _).bind fun stride ws hstride => ?_
    simp [Fill, hdone, hupper, hstride]
  · simp [Fill, hdone, hupper]

/-- What stands between the brackets of a subscript is sound, slices too. -/
lemma yields_subscriptItem (hd : d.IsSound) :
    Yields (fun x => x.2.IsSound) (subscriptItem d p ws) := by
  unfold subscriptItem
  split
  · refine (yields_sliceRest hd areSound_nil).bind fun parts ws hparts => ?_
    simpa using hparts
  · refine (hd _ _ _).bind fun x ws hx => ?_
    refine yields_ite.2 ⟨fun _ => ?_, fun _ => by simpa using hx⟩
    refine (yields_sliceRest hd (by simpa using hx)).bind fun parts ws hparts => ?_
    simpa using hparts

/-- A sound phrase is sound with a call, a subscript or an attribute behind it. -/
lemma yields_postfixStep (hd : d.IsSound) {call : Words → Option (Phrase × Words)}
    (hcall : ∀ ws, Yields IsSound (call ws)) {x : Phrase} (hx : x.IsSound) :
    (postfixStep d p call x ws).Yields IsSound := by
  have hitems : ∀ ws, Yields Fill (itemsUntil p.inner (subscriptItem d p.inner) "]" d.left
      [token, part x] ws) := fun ws =>
    yields_itemsUntil (fun _ => yields_subscriptItem hd) _ _ _ (by simpa using hx)
  unfold postfixStep
  split
  · exact Step.yields_stop
  · split
    · split
      · exact Step.yields_go.2 (.free rfl (by simpa using hx))
      · exact Step.yields_fail
    · split
      · split
        · next arguments rest hargs =>
          have harguments : arguments.IsSound := hcall _ _ _ hargs
          exact Step.yields_go.2 (.free rfl (by simpa using ⟨hx, harguments⟩))
        · exact Step.yields_fail
      · split
        · split
          · exact Step.yields_fail
          · split
            · next parts rest hparts =>
              exact Step.yields_go.2 (.free rfl (hitems _ _ _ hparts))
            · exact Step.yields_fail
        · exact Step.yields_stop

/-! #### Comprehensions -/

variable {target : Words → Option (Phrase × Words)}

/-- Targets with commas between them are sound. -/
lemma yields_targets (htarget : ∀ ws, Yields IsSound (target ws)) :
    Yields IsSound (targets d p target ws) := by
  have hstep : ∀ done ws, Fill done → (targetsStep p target done ws).Yields Fill := by
    intro done ws hdone parts rest h
    have hdone : AreSound done := hdone.2
    have hnext : ∀ x ws', target ws.tail = some (x, ws') → x.IsSound := htarget _
    grind [targetsStep]
  refine (htarget _).bind fun first ws hfirst => ?_
  refine (yields_iterate hstep _ _ (by simpa using hfirst)).bind fun parts ws hparts => ?_
  dsimp only
  split
  · simpa using hfirst
  · simpa using IsSound.free rfl (fill_reverse.2 hparts)

/-- One more clause of a comprehension is sound behind the clauses that are read. -/
lemma yields_clauseStep (hd : d.IsSound) (htarget : ∀ ws, Yields IsSound (target ws))
    {done : List (Role × Phrase)} (hdone : AreSound done) :
    (clauseStep d p target done ws).Yields AreSound := by
  unfold clauseStep
  split
  · dsimp only
    split
    · next x rest hclause =>
      have hx : x.IsSound := by
        refine Yields.bind (yields_targets htarget) (fun left ws hleft => ?_) x rest hclause
        refine yields_bind fun ws _ => ?_
        refine (yields_expressionParts hd _).bind fun right ws hright => yields_some.2 ?_
        have hright : AreSound right := hright.2
        grind [Fill]
      simp [hx, hdone]
    · exact Step.yields_fail
  · intro parts rest h
    grind

/-- A sound body with the clauses behind it is a sound comprehension. -/
lemma yields_comprehension (hd : d.IsSound) (htarget : ∀ ws, Yields IsSound (target ws))
    {kind : PhraseKind} (hkind : kind.isFree = true) {body : Phrase} (hbody : body.IsSound)
    (close : String) : Yields IsSound (comprehension d p target kind body close ws) := by
  have hstep : ∀ done ws, AreSound done → (clauseStep d p target done ws).Yields AreSound :=
    fun _ _ hdone => yields_clauseStep hd htarget hdone
  refine (yields_iterate hstep _ _ areSound_nil).bind fun clauses ws hclauses => ?_
  refine yields_bind fun ws _ => yields_some.2 (.free hkind ?_)
  simpa using ⟨hbody, hclauses⟩

/-! #### Collections -/

/-- An item of a tuple, a list or a set is a sound part. -/
lemma yields_collectionItem (hd : d.IsSound) :
    Yields (fun x => x.2.IsSound) (collectionItem d p ws) := by
  unfold collectionItem
  split
  · exact yields_none
  · split
    · exact yields_splat hd rfl
    · split
      · exact yields_asPart (yields_yieldRest hd)
      · exact yields_asPart (hd _ _ _)

/-- What stands in brackets, given its first item: a comprehension, the item alone, or more
items. -/
lemma yields_afterItem (hd : d.IsSound) (htarget : ∀ ws, Yields IsSound (target ws))
    {item : Words → Option ((Role × Phrase) × Words)}
    (hitem : ∀ ws, Yields (fun x => x.2.IsSound) (item ws))
    {comprehended alone several : PhraseKind} (hcomprehended : comprehended.isFree = true)
    (halone : alone.isFree = true) (hseveral : several.isFree = true) {x : Role × Phrase}
    (hx : x.2.IsSound) (close : String) (c : Prop) [Decidable c] :
    Yields IsSound
      (if c then comprehension d p target comprehended x.2 close ws
      else if signNext p close ws then some (.node alone [token, x, token], ws.tail)
      else do
        let ws ← sign? p "," ws
        let (parts, ws) ← itemsUntil p item close d.left [token, x, token] ws
        some (.node several parts, ws)) := by
  refine yields_ite.2 ⟨fun _ => yields_comprehension hd htarget hcomprehended hx close, fun _ => ?_⟩
  refine yields_ite.2 ⟨fun _ => yields_some.2 (.free halone (by simpa using hx)), fun _ => ?_⟩
  refine yields_bind fun ws _ => ?_
  refine (yields_itemsUntil hitem close _ _ (by simpa using hx)).bind fun parts ws hparts => ?_
  exact yields_some.2 (.free hseveral hparts)

/-- What stands in parentheses is sound: a tuple, a generator or one expression. -/
lemma yields_inParentheses (hd : d.IsSound) (htarget : ∀ ws, Yields IsSound (target ws)) :
    Yields IsSound (inParentheses d p target ws) := by
  unfold inParentheses
  refine yields_ite.2 ⟨fun _ => yields_some.2 (.free rfl (by simp)), fun _ => ?_⟩
  refine (yields_collectionItem hd).bind fun x rest hx => ?_
  exact yields_afterItem hd htarget (fun _ => yields_collectionItem hd) rfl rfl rfl hx _ _

/-- What stands in square brackets is sound: a list or a comprehension. -/
lemma yields_inSquareBrackets (hd : d.IsSound) (htarget : ∀ ws, Yields IsSound (target ws)) :
    Yields IsSound (inSquareBrackets d p target ws) := by
  unfold inSquareBrackets
  refine yields_ite.2 ⟨fun _ => yields_some.2 (.free rfl (by simp)), fun _ => ?_⟩
  refine (yields_collectionItem hd).bind fun x rest hx => ?_
  exact yields_afterItem hd htarget (fun _ => yields_collectionItem hd) rfl rfl rfl hx _ _

/-- An item of a dictionary is sound, whether a pair or unpacked. -/
lemma yields_dictionaryItem (hd : d.IsSound) :
    Yields (fun x => x.2.IsSound) (dictionaryItem d p ws) := by
  unfold dictionaryItem
  refine yields_ite.2 ⟨fun _ => yields_splat hd rfl, fun _ => ?_⟩
  refine (hd _ _ _).bind fun key ws hkey => ?_
  refine yields_bind fun ws _ => ?_
  refine (hd _ _ _).bind fun value ws hvalue => ?_
  simpa using ⟨hkey, hvalue⟩

/-- What stands in braces is sound: a dictionary, a set or a comprehension. -/
lemma yields_inBraces (hd : d.IsSound) (htarget : ∀ ws, Yields IsSound (target ws)) :
    Yields IsSound (inBraces d p target ws) := by
  unfold inBraces
  refine yields_ite.2 ⟨fun _ => yields_some.2 (.free rfl (by simp)), fun _ => ?_⟩
  refine yields_ite.2 ⟨fun _ => ?dictionary, fun _ => ?_⟩
  case dictionary =>
    refine (yields_itemsUntil (fun _ => yields_dictionaryItem hd) _ _ _ (by simp)).bind
      fun parts ws hparts => ?_
    exact yields_some.2 (.free rfl hparts)
  refine (yields_collectionItem hd).bind fun x rest hx => ?_
  refine yields_ite.2 ⟨fun _ => ?pairs, fun _ => ?items⟩
  case pairs =>
    refine (hd _ _ _).bind fun value rest hvalue => ?_
    have hpair : (other [x, token, part value]).IsSound := by simpa using ⟨hx, hvalue⟩
    exact yields_afterItem hd htarget (fun _ => yields_dictionaryItem hd) rfl rfl rfl hpair _ _
  case items =>
    exact yields_afterItem hd htarget (fun _ => yields_collectionItem hd) rfl rfl rfl hx _ _

end Lookalike.Python.Grammar
