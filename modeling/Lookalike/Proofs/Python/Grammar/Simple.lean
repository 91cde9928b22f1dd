import Lookalike.Python.Grammar.Simple
import Lookalike.Proofs.Python.Grammar.Level

/-! ### Sound simple statements

Statements that fit on a line are sound, given that the expressions in them are; and nothing is
called inside what an import names. -/

namespace Lookalike.Python.Grammar

open Phrase

variable {d : Depth} {p : Place} {ws : Words}

/-! #### Imports -/

/-- Nothing is called in a name with dots. -/
lemma yields_dottedName : Yields IsInert (dottedName d p ws) := by
  have hstep : ∀ done ws, done ≠ [] ∧ AreInert done →
      (dottedStep p done ws).Yields fun done => done ≠ [] ∧ AreInert done := by
    intro done ws hdone parts rest h
    grind [dottedStep]
  refine yields_bind fun ws _ => ?_
  refine (yields_iterate hstep _ _ (by simp)).bind fun parts ws hparts => ?_
  exact yields_some.2 (.free rfl nofun (by simpa using hparts.1) (by simpa using hparts.2))

/-- Nothing is called in an imported name and in the name that it gets. -/
lemma yields_importedName : Yields (fun x => x.2.IsInert) (importedName d p ws) := by
  refine yields_dottedName.bind fun name ws hname => ?_
  refine yields_ite.2 ⟨fun _ => ?_, fun _ => yields_some.2 hname⟩
  refine yields_bind fun ws _ => yields_some.2 ?_
  exact .free rfl nofun (by simp) (by simpa using hname)

/-- Nothing is called in a list of imported names. -/
lemma yields_importedNames : Yields AreInert (importedNames d p ws) := by
  have hstep : ∀ done ws, AreInert done → (importedStep d p done ws).Yields AreInert := by
    intro done ws hdone parts rest h
    have hname : ∀ x rest, importedName d p ws.tail = some (x, rest) → x.2.IsInert :=
      yields_importedName
    grind [importedStep]
  refine yields_importedName.bind fun x ws hx => ?_
  refine (yields_iterate hstep _ _ (by simpa using hx)).bind fun parts ws hparts => ?_
  simpa using hparts

/-- An import is sound, since nothing is called in what it names. -/
lemma yields_importRest : Yields IsSound (importRest d p ws) := by
  refine yields_importedNames.bind fun names ws hnames => yields_some.2 ?_
  exact .of_import rfl (by simp) (by simpa using hnames)

/-- Nothing is called in what is imported from a module, be it all or some names. -/
lemma yields_importedThings (wild : Bool) : Yields AreInert (importedThings d p wild ws) := by
  refine yields_ite.2 ⟨fun _ => by simp [part], fun _ =>
    yields_ite.2 ⟨fun _ => ?_, fun _ => yields_importedNames⟩⟩
  refine yields_importedNames.bind fun names ws hnames => ?_
  refine yields_bind fun ws _ => ?_
  simpa using hnames

/-- Nothing is called in the module that something is imported from. -/
lemma yields_sourceModule : Yields IsInert (sourceModule d p ws) := by
  have hstep : ∀ done ws, AreInert done → (dotsStep p done ws).Yields AreInert := by
    intro done ws hdone parts rest h
    grind [dotsStep]
  refine (yields_iterate hstep _ _ areInert_nil).bind fun dots ws hdots => ?_
  refine yields_ite.2 ⟨fun _ => yields_dottedName, fun hne => ?_⟩
  have hne : dots ≠ [] := by simpa using hne
  refine yields_ite.2 ⟨fun _ => yields_some.2 (.free rfl nofun hne hdots), fun _ => ?_⟩
  refine yields_dottedName.bind fun name ws hname => yields_some.2 ?_
  exact .free rfl nofun (by simp) (by simpa using ⟨hdots, hname⟩)

/-- An import from a module is sound, since nothing is called in what it names. -/
lemma yields_importFromRest : Yields IsSound (importFromRest d p ws) := by
  unfold importFromRest
  refine yields_ite.2 ⟨fun _ => ?_, fun _ => ?_⟩
  · refine yields_bind fun ws _ => ?_
    refine (yields_importedThings false).bind fun things ws hthings => yields_some.2 ?_
    exact .of_import rfl (by simp) (by simpa using hthings)
  · refine yields_sourceModule.bind fun module ws hmodule => ?_
    refine yields_bind fun ws _ => ?_
    refine (yields_importedThings true).bind fun things ws hthings => yields_some.2 ?_
    exact .of_import rfl (by simp) (by simpa using ⟨hmodule, hthings⟩)

/-! #### Statements that open with a keyword -/

/-- Expressions with commas between them and none at the end are sound parts. -/
lemma yields_strictExpressions (hd : d.IsSound) : Yields AreSound (strictExpressions d p ws) := by
  have hstep : ∀ done ws, AreSound done → (strictStep d p done ws).Yields AreSound := by
    intro done ws hdone parts rest h
    grind [strictStep]
  refine (hd _ _ _).bind fun x ws hx => ?_
  refine (yields_iterate hstep _ _ (by simpa using hx)).bind fun parts ws hparts => ?_
  simpa using hparts

/-- A keyword is sound by itself and with expressions behind it. -/
lemma yields_optionalExpressions (hd : d.IsSound) {kind : PhraseKind} (hkind : kind.isFree = true) :
    Yields IsSound (optionalExpressions d p kind ws) := by
  refine yields_ite.2 ⟨fun _ => yields_some.2 (.free hkind (by simp)), fun _ => ?_⟩
  refine (yields_expressions hd).bind fun x ws hx => ?_
  exact yields_some.2 (.free hkind (by simpa using hx))

/-- What is raised, with its cause or without, makes a sound statement. -/
lemma yields_raiseRest (hd : d.IsSound) : Yields IsSound (raiseRest d p ws) := by
  unfold raiseRest
  extract_lets rest
  have hrest : ∀ value ws, AreSound value → Yields IsSound (rest (value, ws)) := by
    intro value ws hvalue
    refine yields_ite.2 ⟨fun _ => ?_, fun _ => ?_⟩
    · refine (hd _ _ _).bind fun cause ws hcause => ?_
      exact yields_some.2 (.free rfl (by simpa using ⟨hvalue, hcause⟩))
    · exact yields_some.2 (.free rfl (by simpa using hvalue))
  split
  · exact hrest _ _ areSound_nil
  · refine (yields_expressions hd).bind fun x ws hx => ?_
    exact hrest _ _ (by simpa using hx)

/-- A keyword with names is sound. -/
lemma yields_namesRest : Yields IsSound (namesRest d p ws) := by
  have hstep : ∀ done ws, Fill done → (namesStep p done ws).Yields Fill := by
    intro done ws hdone parts rest h
    have hdone : AreSound done := hdone.2
    grind [namesStep]
  refine yields_bind fun ws _ => ?_
  refine (yields_iterate hstep _ _ (by simp)).bind fun parts ws hparts => ?_
  simpa using hparts

/-! #### Words that are keywords in some statements -/

/-- A sound statement is sound if it has to end where it does. -/
lemma Yields.complete {r : Option (Phrase × Words)} (h : Yields IsSound r) :
    Yields IsSound (complete r) :=
  h.bind fun _ _ hx => yields_ite.2 ⟨fun _ => yields_some.2 hx, fun _ => yields_none⟩

/-- A statement that prints is sound, in its old form too. -/
lemma yields_printing (hd : d.IsSound) : Yields IsSound (printing d p ws) := by
  have hstep : ∀ done ws, Fill done → (expressionsStep d p [] done ws).Yields Fill := by
    intro done ws hdone parts rest h
    have hdone : AreSound done := hdone.2
    grind [expressionsStep]
  unfold printing
  refine yields_ite.2 ⟨fun _ => ?_, fun _ => ?_⟩
  · refine (hd _ _ _).bind fun stream rest hstream => ?_
    refine (yields_iterate hstep _ _ (by simpa using hstream)).bind fun parts rest hparts => ?_
    simpa using hparts
  · split
    · next r hr =>
      exact yields_some.2 ((yields_rightSide hd).complete _ _ hr)
    · refine (yields_expressionParts hd []).bind fun parts ws hparts => ?_
      simpa using hparts.2

/-- A statement that executes code is sound, with what it is executed in. -/
lemma yields_executionRest (hd : d.IsSound) : Yields IsSound (executionRest d p ws) := by
  unfold executionRest
  extract_lets rest
  have hrest : ∀ code ws, code.IsSound → Yields IsSound (rest (code, ws)) := by
    intro code ws hcode
    refine yields_ite.2 ⟨fun _ => ?_, fun _ => by simpa using hcode⟩
    refine (yields_strictExpressions hd).bind fun parts ws hparts => ?_
    simpa using ⟨hcode, hparts⟩
  split
  · split
    · exact (yields_quotation hd).bind hrest
    · exact hrest _ _ (isSound_leaf _)
  · exact yields_none

/-- A statement that opens with the word for execution is sound. -/
lemma yields_execution (hd : d.IsSound) : Yields IsSound (execution d p ws) := by
  unfold execution
  split
  · exact yields_ite.2 ⟨fun _ => yields_executionRest hd, fun _ => yields_rightSide hd⟩
  · exact yields_rightSide hd

/-- What follows the word for a new name of a type makes a sound statement. -/
lemma yields_typeAliasRest (hd : d.IsSound) : Yields IsSound (typeAliasRest d p ws) := by
  refine (hd _ _ _).bind fun left ws hleft => ?_
  refine yields_bind fun ws _ => ?_
  refine (hd _ _ _).bind fun right ws hright => ?_
  simpa using ⟨hleft, hright⟩

/-- A statement that opens with the word for types is sound. -/
lemma yields_typeAlias (hd : d.IsSound) : Yields IsSound (typeAlias d p ws) := by
  refine yields_ite.2 ⟨fun _ => ?_, fun _ => yields_rightSide hd⟩
  split
  · next r hr =>
    exact yields_some.2 ((yields_typeAliasRest hd).complete _ _ hr)
  · exact yields_rightSide hd

/-! #### The statement -/

/-- A keyword by itself is a sound statement, unless it is that of an import. -/
lemma isSound_bare {kind : PhraseKind} (himport : kind.isImport = false) :
    (Phrase.node kind [token]).IsSound :=
  .of_parts himport (by simp) (by simp [PhraseKind.mayHold_leaf]) (by simp)

/-- A statement without a suite is sound. -/
lemma yields_simple (hd : d.IsSound) : Yields IsSound (simple d p ws) := by
  unfold simple
  split
  · exact yields_none
  · split
    · split
      · exact yields_importRest
      · exact yields_importFromRest
      · exact yields_printing hd
      · exact yields_execution hd
      · exact yields_typeAlias hd
      · refine (yields_strictExpressions hd).map fun parts ws hparts => ?_
        exact .free rfl (by simpa using hparts)
      · exact yields_optionalExpressions hd rfl
      · refine (yields_expressions hd).map fun x ws hx => ?_
        simpa using hx
      · exact yields_raiseRest hd
      · exact yields_some.2 (isSound_bare rfl)
      · exact yields_some.2 (isSound_bare rfl)
      · exact yields_some.2 (isSound_bare rfl)
      · exact yields_namesRest
      · exact yields_namesRest
      · exact yields_rightSide hd
    · exact yields_rightSide hd

/-- The statements of a line are sound, and so is the mark behind them. -/
lemma yields_simpleLine (hd : d.IsSound) :
    ∀ (n : Nat) {done : List (Role × Phrase)} (ws : Words), AreSound done →
      Yields Fill (simpleLine d p n done ws)
  | 0, _, _, _ => yields_none
  | n + 1, done, ws, hdone => by
    rw [simpleLine]
    split
    · exact yields_none
    · next x ws' hsimple =>
      have hx : x.IsSound := yields_simple hd x ws' hsimple
      split
      · refine yields_ite.2 ⟨fun _ => ?_, fun _ => yields_ite.2 ⟨fun _ => ?_, fun _ => yields_none⟩⟩
        · simpa [Fill] using ⟨hdone, hx⟩
        · refine yields_ite.2 ⟨fun _ => ?_, fun _ => ?_⟩
          · simpa [Fill] using ⟨hdone, hx⟩
          · exact yields_simpleLine hd n _ (by simpa using ⟨hx, hdone⟩)
      · exact yields_none

end Lookalike.Python.Grammar
