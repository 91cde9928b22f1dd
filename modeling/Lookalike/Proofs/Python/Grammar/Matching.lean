import Lookalike.Python.Grammar.Matching
import Lookalike.Proofs.Python.Grammar.Expression

/-! ### Sound patterns of cases

The heads of cases are sound, given that the expressions in them are. -/

namespace Lookalike.Python.Grammar

open Phrase

variable {d : Depth} {p : Place} {ws : Words}

/-- A number, with a second one behind a sign or without, is a sound pattern. -/
lemma yields_numberPattern {opening : List (Role × Phrase)} (hopening : AreSound opening) :
    Yields IsSound (numberPattern p opening ws) := by
  unfold numberPattern
  refine yields_ite.2 ⟨fun _ => yields_ite.2 ⟨fun _ => ?_, fun _ => ?_⟩, fun _ => yields_none⟩
  · simpa [Fill] using hopening
  · simpa [Fill] using hopening

/-- A name behind stars is a sound pattern. -/
lemma yields_splatPattern : Yields IsSound (splatPattern p ws) :=
  yields_bind fun rest _ => yields_some.2 (by simp)

/-- An item of a class pattern is a sound part, if the patterns in it are sound. -/
lemma yields_classPatternItem {whole : Words → Option (Phrase × Words)}
    (hwhole : ∀ ws, Yields IsSound (whole ws)) :
    Yields (fun x => x.2.IsSound) (classPatternItem whole p ws) := by
  refine yields_ite.2 ⟨fun _ => ?_, fun _ => yields_asPart (hwhole _)⟩
  refine (hwhole _).bind fun x rest hx => ?_
  simpa using hx

/-- An item of a mapping pattern is a sound part, if its key and its pattern are sound. -/
lemma yields_mappingPatternItem {whole simple : Words → Option (Phrase × Words)}
    (hwhole : ∀ ws, Yields IsSound (whole ws)) (hsimple : ∀ ws, Yields IsSound (simple ws)) :
    Yields (fun x => x.2.IsSound) (mappingPatternItem whole simple p ws) := by
  refine yields_ite.2 ⟨fun _ => yields_asPart yields_splatPattern, fun _ => ?_⟩
  refine (hsimple _).bind fun key ws hkey => ?_
  refine yields_bind fun ws _ => ?_
  refine (hwhole _).bind fun value ws hvalue => ?_
  simpa using ⟨hkey, hvalue⟩

/-- A pattern without alternatives is sound, if the patterns inside it are. -/
lemma yields_closedPattern (hd : d.IsSound) {whole simple : Place → Words → Option (Phrase × Words)}
    (hwhole : ∀ p ws, Yields IsSound (whole p ws))
    (hsimple : ∀ p ws, Yields IsSound (simple p ws)) :
    Yields IsSound (closedPattern d p whole simple ws) := by
  have hstep : ∀ done ws, Fill done → (patternDotStep p done ws).Yields Fill := by
    intro done ws hdone parts rest h
    have hdone : AreSound done := hdone.2
    grind [patternDotStep]
  unfold closedPattern
  extract_lets sequence
  have hsequence : ∀ close, Yields IsSound (sequence close) := by
    intro close
    refine (yields_itemsUntil (fun _ => yields_asPart (hwhole _ _)) _ _ _ (by simp)).bind
      fun parts ws hparts => ?_
    simpa using hparts
  split
  · exact yields_none
  · split
    · exact yields_quotations hd
    · exact yields_numberPattern areSound_nil
    · exact yields_numberPattern areSound_nil
    -- a name with its attributes, which may be a class with patterns for its fields
    · refine (yields_iterate hstep _ _ (by simp)).bind fun parts rest hparts => ?_
      have hname : (other parts.reverse).IsSound := by simpa using hparts
      refine yields_ite.2 ⟨fun _ => ?_, fun _ => yields_some.2 hname⟩
      refine (yields_itemsUntil (fun _ => yields_classPatternItem (hwhole _)) _ _ _ (by simp)).bind
        fun items rest hitems => ?_
      simpa using ⟨hparts, hitems.2⟩
    -- a sign, which opens a number, a splat, a sequence or a mapping
    · refine yields_ite.2 ⟨fun _ => yields_numberPattern (by simp), fun _ => ?_⟩
      refine yields_ite.2 ⟨fun _ => yields_splatPattern, fun _ => ?_⟩
      refine yields_ite.2 ⟨fun _ => hsequence _, fun _ => ?_⟩
      refine yields_ite.2 ⟨fun _ => hsequence _, fun _ => ?_⟩
      refine yields_ite.2 ⟨fun _ => ?_, fun _ => yields_none⟩
      refine (yields_itemsUntil (fun _ => yields_mappingPatternItem (hwhole _) (hsimple _)) _ _ _
        (by simp)).bind fun parts rest hparts => ?_
      simpa using hparts
    · exact yields_none

/-- The patterns of each depth are sound. -/
lemma yields_patternWith (hd : d.IsSound) :
    ∀ (n : Nat) (whole : Bool) (p : Place) (ws : Words), Yields IsSound (patternWith d n whole p ws)
  | 0, _, _, _ => yields_none
  | n + 1, whole, p, ws => by
    have hclosed : ∀ ws, Yields IsSound
        (closedPattern d p (patternWith d n true) (patternWith d n false) ws) := fun ws =>
      yields_closedPattern hd (yields_patternWith hd n true) (yields_patternWith hd n false)
    have halternative : ∀ x ws, x.IsSound → (alternativeStep p
        (closedPattern d p (patternWith d n true) (patternWith d n false)) x ws).Yields
      IsSound := by
      intro x ws hx y rest h
      have hnext : ∀ y rest, closedPattern d p (patternWith d n true) (patternWith d n false)
        ws.tail = some (y, rest) → y.IsSound := hclosed _
      grind [alternativeStep]
    have hcapture : ∀ x ws, x.IsSound → (captureStep p x ws).Yields IsSound := by
      intro x ws hx y rest h
      grind [captureStep]
    rw [patternWith]
    refine (hclosed _).bind fun x ws hx => ?_
    refine (yields_iterate halternative _ _ hx).bind fun x ws hx => ?_
    exact yields_ite.2 ⟨fun _ => yields_iterate hcapture _ _ hx, fun _ => yields_some.2 hx⟩

/-- The pattern of a case is sound. -/
lemma yields_casePattern (hd : d.IsSound) : Yields IsSound (casePattern d p ws) := by
  refine yields_ite.2 ⟨fun _ => ?_, fun _ => yields_patternWith hd _ _ _ _⟩
  refine (yields_patternWith hd _ _ _ _).bind fun x rest hx => ?_
  simpa using hx

/-- The patterns of a case and its condition are sound parts. -/
lemma yields_caseHead (hd : d.IsSound) : Yields AreSound (caseHead d p ws) := by
  have hstep : ∀ done ws, AreSound done → (casePatternsStep d p done ws).Yields AreSound := by
    intro done ws hdone parts rest h
    have hnext : ∀ x rest, casePattern d p ws.tail = some (x, rest) → x.IsSound :=
      yields_casePattern hd
    grind [casePatternsStep]
  refine (yields_casePattern hd).bind fun x ws hx => ?_
  refine (yields_iterate hstep _ _ (by simpa using hx)).bind fun parts ws hparts => ?_
  dsimp -zetaHave only
  extract_lets rest
  have hrest : ∀ guard ws, AreSound guard → Yields AreSound (rest (guard, ws)) := by
    intro guard ws hguard
    refine yields_bind fun ws _ => ?_
    simpa using ⟨hparts, hguard⟩
  split
  · refine (hd _ _ _).bind fun x ws hx => ?_
    exact hrest _ _ (by simpa using hx)
  · exact hrest _ _ areSound_nil

end Lookalike.Python.Grammar
