import Lookalike.Python.Grammar.Level
import Lookalike.Proofs.Python.Grammar.Expression

/-! ### Sound levels of an expression

Each level of an expression yields sound phrases, given that what is nested in it is sound. By
induction on the depth of nesting, whole expressions are sound. -/

namespace Lookalike.Python.Grammar

open Phrase

/-! #### Patterns -/

/-- As many parts are left when all of them are turned into patterns. -/
lemma ne_nil_of_toPatterns? {ps qs : List (Role × Phrase)} (hps : ps ≠ [])
    (h : toPatterns? ps = some qs) : qs ≠ [] := by
  unfold toPatterns? at h
  split at h
  · exact absurd rfl hps
  · obtain ⟨rs, -, rfl⟩ := Option.map_eq_some_iff.1 h
    exact List.cons_ne_nil _ _
  · split at h
    · cases h
      exact List.cons_ne_nil _ _
    · cases h

mutual

/-- The pattern that a sound expression stands for is sound. -/
lemma isSound_of_toPattern? (x : Phrase) {y : Phrase} (hx : x.IsSound)
    (h : toPattern? x = some y) : y.IsSound := by
  unfold toPattern? at h
  split at h
  case h_1 =>
    cases h
    exact isSound_leaf _
  case h_2 | h_3 =>
    cases h
    exact hx
  case h_4 =>
    split at h
    · cases h
      exact .free rfl hx.fill
    · cases h
  case h_5 | h_6 | h_7 =>
    obtain ⟨qs, hqs, rfl⟩ := Option.map_eq_some_iff.1 h
    exact .free rfl
      ⟨ne_nil_of_toPatterns? hx.fill.1 hqs, areSound_of_toPatterns? _ hx.fill.2 hqs⟩
  case h_8 => cases h

/-- The patterns that sound parts of an expression stand for are sound. -/
lemma areSound_of_toPatterns? (ps : List (Role × Phrase)) {qs : List (Role × Phrase)}
    (hps : AreSound ps) (h : toPatterns? ps = some qs) : AreSound qs := by
  unfold toPatterns? at h
  split at h
  · cases h
    exact areSound_nil
  · obtain ⟨rs, hrs, rfl⟩ := Option.map_eq_some_iff.1 h
    simpa using areSound_of_toPatterns? _ (areSound_cons.1 hps).2 hrs
  · split at h
    · next r x rest _ y ys hy hys =>
      cases h
      have hpair := areSound_cons.1 hps
      simpa using ⟨isSound_of_toPattern? _ hpair.1 hy, areSound_of_toPatterns? _ hpair.2 hys⟩
    · cases h

end

/-- A sound phrase that can be assigned to is a sound target. -/
lemma isSound_of_toTarget? {x y : Phrase} (hx : x.IsSound) (h : toTarget? x = some y) :
    y.IsSound := by
  unfold toTarget? at h
  split at h
  · obtain ⟨qs, hqs, rfl⟩ := Option.map_eq_some_iff.1 h
    exact .free rfl
      ⟨ne_nil_of_toPatterns? hx.fill.1 hqs, areSound_of_toPatterns? _ hx.fill.2 hqs⟩
  · exact isSound_of_toPattern? _ hx h

variable {d : Depth} {p : Place} {ws : Words} {target : Words → Option (Phrase × Words)}

/-! #### Primary expressions -/

/-- The arguments of a call are sound, with or without a comprehension in them. -/
lemma yields_callArguments (hd : d.IsSound) (htarget : ∀ ws, Yields IsSound (target ws)) :
    Yields IsSound (callArguments d p target ws) := by
  unfold callArguments
  refine yields_ite.2 ⟨fun _ => yields_argumentList hd, fun _ => ?_⟩
  refine (yields_argument hd).bind fun x rest hx => ?_
  exact yields_afterItem hd htarget (fun _ => yields_argument hd) rfl rfl rfl hx _ _

/-- A name by itself is sound. -/
lemma isSound_nameLeaf (text : String) : (nameLeaf text).IsSound := by
  unfold nameLeaf
  split
  · exact isSound_leaf _
  · split <;> exact isSound_leaf _

/-- An atom is sound: a name, a number, a quotation or something in brackets. -/
lemma yields_atom (hd : d.IsSound) (htarget : ∀ ws, Yields IsSound (target ws)) :
    Yields IsSound (atom d p target ws) := by
  unfold atom
  split
  · exact yields_none
  · split
    · exact yields_some.2 (isSound_nameLeaf _)
    · exact yields_some.2 (isSound_leaf _)
    · exact yields_some.2 (isSound_leaf _)
    · exact yields_quotations hd
    · refine yields_ite.2 ⟨fun _ => yields_inParentheses hd htarget, fun _ => ?_⟩
      refine yields_ite.2 ⟨fun _ => yields_inSquareBrackets hd htarget, fun _ => ?_⟩
      refine yields_ite.2 ⟨fun _ => yields_inBraces hd htarget, fun _ => ?_⟩
      exact yields_ite.2 ⟨fun _ => yields_some.2 (isSound_leaf _), fun _ => yields_none⟩
    · exact yields_none

/-- An atom with all that follows it is sound, if the targets inside it are. -/
lemma yields_primaryWith (hd : d.IsSound) (htarget : ∀ ws, Yields IsSound (target ws)) :
    Yields IsSound (primaryWith d p target ws) := by
  have hstep : ∀ x ws, x.IsSound →
      (postfixStep d p (callArguments d p target) x ws).Yields IsSound := fun x ws hx =>
    yields_postfixStep hd (fun _ => yields_callArguments hd htarget) hx
  refine (yields_atom hd htarget).bind fun x ws hx => ?_
  exact yields_iterate hstep _ _ hx

/-- A target is sound, if the targets inside it are. -/
lemma yields_targetWith (hd : d.IsSound) (htarget : ∀ ws, Yields IsSound (target ws)) :
    Yields IsSound (targetWith d p target ws) := by
  unfold targetWith
  split
  · refine (yields_primaryWith hd htarget).bind fun x ws hx => ?_
    exact yields_ite.2
      ⟨fun _ => yields_some.2 (.free rfl (by simpa using hx)), fun _ => yields_none⟩
  · refine (yields_primaryWith hd htarget).bind fun x ws hx => ?_
    exact yields_bind fun y hy => yields_some.2 (isSound_of_toPattern? x hx hy)

/-- An atom with calls, subscripts and attributes behind it is sound. -/
lemma yields_primary (hd : d.IsSound) : Yields IsSound (primary d p ws) :=
  yields_primaryWith hd fun ws => hd .target p.inner ws

/-! #### Operators -/

/-- A unary operator with its operand is sound, and so is a primary expression. -/
lemma yields_operand (hd : d.IsSound) : Yields IsSound (operand d p ws) := by
  unfold operand
  split
  · exact yields_none
  · split
    · refine (hd _ _ _).bind fun x ws hx => ?_
      exact yields_some.2 (.free rfl (by simpa using hx))
    · split
      · refine (hd _ _ _).bind fun x ws hx => ?_
        exact yields_some.2 (.free rfl (by simpa using hx))
      · split
        · refine (yields_primary hd).bind fun x ws hx => ?_
          exact yields_ite.2
            ⟨fun _ => yields_some.2 (.free rfl (by simpa using hx)), fun _ => yields_none⟩
        · exact yields_primary hd

/-- Operands with operators of at least some rank between them are sound. -/
lemma yields_binary (hd : d.IsSound) (least : Nat) : Yields IsSound (binary d p least ws) := by
  have hstep : ∀ x ws, x.IsSound → (binaryStep d p least x ws).Yields IsSound := by
    intro x ws hx y rest h
    have hjoined : ∀ y : Phrase, y.IsSound → (Phrase.node .binaryOperator
        [(.left, x), (.operator, .leaf .anonymous), (.right, y)]).IsSound := fun y hy =>
      .free rfl (by simpa using ⟨hx, hy⟩)
    grind [binaryStep]
  exact (yields_operand hd).bind fun x ws hx => yields_iterate hstep _ _ hx

/-- A chain of comparisons is sound. -/
lemma yields_comparison (hd : d.IsSound) : Yields IsSound (comparison d p ws) := by
  have hstep : ∀ done ws, Fill done → (comparisonStep d p done ws).Yields Fill := by
    intro done ws hdone parts rest h
    have hdone : AreSound done := hdone.2
    have hwords : ∀ n, AreSound (List.replicate n (.operators, .leaf .anonymous)) := fun n =>
      areSound_replicate n (isSound_leaf _)
    grind [comparisonStep]
  refine (yields_binary hd 0).bind fun x ws hx => ?_
  refine (yields_iterate hstep _ _ (by simpa using hx)).bind fun parts ws hparts => ?_
  dsimp only
  split
  · simpa using hx
  · exact yields_some.2 (.free rfl (fill_reverse.2 hparts))

/-- One more operand of a Boolean operator keeps a phrase sound. -/
lemma yields_booleanStep {word : String} {read : Words → Option (Phrase × Words)}
    (hread : ∀ ws, Yields IsSound (read ws)) {x : Phrase} (hx : x.IsSound) :
    (booleanStep p word read x ws).Yields IsSound := by
  unfold booleanStep
  split
  · split
    · next y rest hy =>
      have hy : y.IsSound := hread _ _ _ hy
      exact Step.yields_go.2 (.free rfl (by simpa using ⟨hx, hy⟩))
    · exact Step.yields_fail
  · exact Step.yields_stop

/-- A chain of conjunctions is sound. -/
lemma yields_conjunction (hd : d.IsSound) : Yields IsSound (conjunction d p ws) := by
  refine (hd _ _ _).bind fun x ws hx => ?_
  exact yields_iterate (fun _ _ hx => yields_booleanStep (fun _ => hd _ _ _) hx) _ _ hx

/-- A chain of disjunctions is sound. -/
lemma yields_disjunction (hd : d.IsSound) : Yields IsSound (disjunction d p ws) := by
  refine (yields_conjunction hd).bind fun x ws hx => ?_
  exact yields_iterate (fun _ _ hx => yields_booleanStep (fun _ => yields_conjunction hd) hx) _ _ hx

/-- A step that goes on as a reading does brings in what the reading yields. -/
@[simp]
lemma Step.yields_ofReading {α : Type} {P : α → Prop} {r : Option (α × Words)} :
    (Step.ofReading r).Yields P ↔ Grammar.Yields P r := by
  cases r with
  | none => simp [Step.ofReading]
  | some x => exact Step.yields_go.trans yields_some.symm

/-- A choice or a renaming around a sound expression is sound. -/
lemma yields_expressionStep (hd : d.IsSound) {x : Phrase} (hx : x.IsSound) :
    (expressionStep d p x ws).Yields IsSound := by
  unfold expressionStep
  refine Step.yields_ite.2 ⟨fun _ => ?choice, fun _ =>
    Step.yields_ite.2 ⟨fun _ => ?renamed, fun _ => ?_⟩⟩
  case choice =>
    refine Step.yields_ofReading.2 ((hd _ _ _).bind fun condition ws hcondition => ?_)
    refine yields_bind fun ws _ => ?_
    refine (hd _ _ _).bind fun otherwise ws hotherwise => ?_
    simpa using ⟨hx, hcondition, hotherwise⟩
  case renamed =>
    refine Step.yields_ofReading.2 ((hd _ _ _).bind fun given ws hgiven => ?_)
    simpa using ⟨hx, hgiven⟩
  exact Step.yields_stop

/-- An expression is sound. -/
lemma yields_expression (hd : d.IsSound) : Yields IsSound (expression d p ws) := by
  refine (hd _ _ _).bind fun x ws hx => ?_
  exact yields_iterate (fun _ _ hx => yields_expressionStep hd hx) _ _ hx

/-! #### Types -/

/-- A type is sound. -/
lemma yields_typePhrase (hd : d.IsSound) : Yields IsSound (typePhrase d p ws) := by
  have hstep : ∀ x ws, x.IsSound → (typeStep d p x ws).Yields IsSound := by
    intro x ws hx y rest h
    grind [typeStep]
  unfold typePhrase
  split
  · exact yields_none
  · refine yields_ite.2 ⟨fun _ => by simp, fun _ => yields_ite.2 ⟨fun _ => ?_, fun _ => hd _ _ _⟩⟩
    refine yields_ite.2 ⟨fun _ => yields_none, fun _ => ?_⟩
    refine (yields_itemsUntil (fun _ => yields_asPart (hd _ _ _)) _ _ _ (by simp)).bind
      fun parts rest hparts => ?_
    exact yields_iterate hstep _ _ (by simpa using hparts)

/-- An argument of a type is sound, bounded by another type or not. -/
lemma yields_typeArgument (hd : d.IsSound) : Yields IsSound (typeArgument d p ws) := by
  refine (hd _ _ _).bind fun x ws hx => ?_
  refine yields_ite.2 ⟨fun _ => ?_, fun _ => yields_some.2 hx⟩
  refine (hd _ _ _).bind fun y ws hy => ?_
  simpa using ⟨hx, hy⟩

/-! #### Parameters -/

/-- A name with its type and its default value is a sound parameter. -/
lemma yields_parameterRest (hd : d.IsSound) (typed : Bool) {name : Phrase} (hname : name.IsSound) :
    Yields IsSound (parameterRest d p typed name ws) := by
  unfold parameterRest
  refine yields_ite.2 ⟨fun _ => ?typed, fun _ => yields_ite.2 ⟨fun _ => ?default, fun _ => ?_⟩⟩
  case typed =>
    refine (hd _ _ _).bind fun type ws htype => ?_
    refine yields_ite.2 ⟨fun _ => ?_, fun _ => ?_⟩
    · refine (hd _ _ _).bind fun value ws hvalue => ?_
      exact yields_some.2 (.free rfl (by simpa using ⟨hname, htype, hvalue⟩))
    · exact yields_some.2 (.free rfl (by simpa using ⟨hname, htype⟩))
  case default =>
    refine (hd _ _ _).bind fun value ws hvalue => ?_
    exact yields_some.2 (.free rfl (by simpa using ⟨hname, hvalue⟩))
  exact yields_some.2 hname

/-- What collects arguments is a sound parameter, with or without its type. -/
lemma yields_collectorRest (hd : d.IsSound) (typed : Bool) {x : Phrase} (hx : x.IsSound) :
    Yields IsSound (collectorRest d p typed x ws) := by
  unfold collectorRest
  refine yields_ite.2 ⟨fun _ => ?_, fun _ => yields_some.2 hx⟩
  refine (hd _ _ _).bind fun type ws htype => ?_
  exact yields_some.2 (.free rfl (by simpa using ⟨hx, htype⟩))

/-- A parameter is sound, whether its type may be stated or not. -/
lemma yields_parameter (hd : d.IsSound) (typed : Bool) :
    Yields IsSound (parameter d p typed ws) := by
  have hcollector : ∀ {kind : PhraseKind} {rest : Words}, kind.isFree = true →
      Yields IsSound (collectorRest d p typed (.node kind [token, namePart]) rest) := fun hkind =>
    yields_collectorRest hd typed (.free hkind (by simp))
  unfold parameter
  split
  · exact yields_none
  · split
    · split
      · exact hcollector rfl
      · exact yields_some.2 (isSound_leaf _)
    · split
      · exact yields_bind fun rest _ => hcollector rfl
      · split
        · exact yields_some.2 (isSound_leaf _)
        · split
          · refine (yields_inParentheses hd fun ws => hd .target p.inner ws).bind
              fun x rest hx => ?_
            refine yields_bind fun pattern hpattern => ?_
            exact yields_parameterRest hd false (isSound_of_toPattern? x hx hpattern)
          · split
            · exact yields_parameterRest hd typed (isSound_leaf _)
            · exact yields_none

/-- The parameters of a lambda fill a phrase. -/
lemma yields_lambdaParameters (hd : d.IsSound) : Yields Fill (lambdaParameters d p ws) :=
  yields_itemsUntil (fun _ => yields_asPart (yields_parameter hd false)) _ _ _ areSound_nil

/-- What follows the word for a lambda makes a sound phrase with it. -/
lemma yields_lambdaRest (hd : d.IsSound) : Yields IsSound (lambdaRest d p ws) := by
  refine (yields_lambdaParameters hd).bind fun parts ws hparts => ?_
  refine (hd _ _ _).bind fun body ws hbody => yields_some.2 (.free rfl ?_)
  have hdrop : AreSound parts.dropLast := fun q hq => hparts.2 q (List.dropLast_subset _ hq)
  have hlength : 0 < parts.length := List.length_pos_iff.2 hparts.1
  split
  · simpa using ⟨hparts.2, hbody⟩
  · have hne : parts.dropLast ≠ [] := by
      rw [← List.length_pos_iff, List.length_dropLast]
      omega
    simpa [Fill] using ⟨⟨hne, hdrop⟩, hbody⟩

/-- A negation is sound. -/
lemma yields_negation (hd : d.IsSound) : Yields IsSound (negation d p ws) := by
  unfold negation
  split
  · exact yields_none
  · refine yields_ite.2 ⟨fun _ => ?_, fun _ => ?_⟩
    · refine (hd _ _ _).bind fun x ws hx => ?_
      exact yields_some.2 (.free rfl (by simpa using hx))
    · refine yields_ite.2 ⟨fun _ => yields_lambdaRest hd, fun _ => ?_⟩
      refine yields_ite.2 ⟨fun _ => ?_, fun _ => yields_comparison hd⟩
      refine (hd _ _ _).bind fun x ws hx => ?_
      simpa using hx

/-! #### Assignments -/

/-- Expressions are sound, and so is what hands out a value. -/
lemma yields_valueSide (hd : d.IsSound) : Yields IsSound (valueSide d p ws) :=
  yields_ite.2 ⟨fun _ => yields_yieldRest hd, fun _ => yields_expressions hd⟩

/-- What stands on the right of an assignment is sound, another assignment included. -/
lemma yields_rightSide (hd : d.IsSound) : Yields IsSound (rightSide d p ws) := by
  refine (yields_valueSide hd).bind fun left ws hleft => ?_
  dsimp only
  split
  · exact yields_some.2 hleft
  · refine yields_ite.2 ⟨fun _ => ?equal, fun _ => yields_ite.2 ⟨fun _ => ?typed, fun _ =>
      yields_ite.2 ⟨fun _ => ?changed, fun _ => yields_some.2 hleft⟩⟩⟩
    case equal =>
      refine yields_bind fun pattern hpattern => ?_
      have hpattern : pattern.IsSound := isSound_of_toTarget? hleft hpattern
      refine (hd _ _ _).bind fun right ws hright => yields_some.2 ?_
      exact .of_parts rfl (by simpa using ⟨hpattern, hright⟩)
        (by simp [PhraseKind.mayHold]) (by simp [PhraseKind.mayFollow])
    case typed =>
      refine yields_bind fun pattern hpattern => ?_
      have hpattern : pattern.IsSound := isSound_of_toTarget? hleft hpattern
      refine (hd _ _ _).bind fun type ws htype => ?_
      refine yields_ite.2 ⟨fun _ => ?_, fun _ => ?_⟩
      · refine (hd _ _ _).bind fun right ws hright => yields_some.2 ?_
        exact .of_parts rfl (by simpa using ⟨hpattern, htype, hright⟩)
          (by simp [PhraseKind.mayHold]) (by simp [PhraseKind.mayFollow])
      · refine yields_some.2 (.of_parts rfl (by simpa using ⟨hpattern, htype⟩) ?_ ?_)
        · simp [PhraseKind.mayHold]
        · simp [PhraseKind.mayFollow]
    case changed =>
      refine yields_bind fun pattern hpattern => ?_
      have hpattern : pattern.IsSound := isSound_of_toTarget? hleft hpattern
      refine (hd _ _ _).bind fun right ws hright => yields_some.2 ?_
      exact .of_parts rfl (by simpa using ⟨hpattern, hright⟩)
        (by simp [PhraseKind.mayHold]) (by simp [PhraseKind.mayFollow])

/-! #### The recursion -/

/-- Whatever is read for is sound, if what is read one level deeper is. -/
lemma yields_readWith (hd : d.IsSound) : ∀ goal p ws, Yields IsSound (readWith d goal p ws)
  | .expression, _, _ => yields_expression hd
  | .disjunction, _, _ => yields_disjunction hd
  | .negation, _, _ => yields_negation hd
  | .binary least, _, _ => yields_binary hd least
  | .type, _, _ => yields_typePhrase hd
  | .typeArgument, _, _ => yields_typeArgument hd
  | .replacement, _, _ => yields_replacementRest hd
  | .target, _, _ => yields_targetWith hd fun ws => hd .target _ ws
  | .rightSide, _, _ => yields_rightSide hd

/-- What is read at any depth of nesting is sound. The induction is on the depth. -/
lemma isSound_depth : ∀ n, (depth n).IsSound
  | 0 => fun _ _ _ => yields_none
  | n + 1 => yields_readWith (isSound_depth n)

end Lookalike.Python.Grammar
