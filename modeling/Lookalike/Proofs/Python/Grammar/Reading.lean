import Lookalike.Python.Grammar.Expression
import Lookalike.Proofs.Python.SoundPhrase

/-! ### What readings yield

A reading that fails yields nothing, so that a property of what a reading yields goes through its
steps: through what is read first, through each branch, and through a repetition if each step of it
keeps the property. -/

namespace Lookalike.Python.Grammar

section Logic

variable {α β : Type} {P : α → Prop} {Q : β → Prop}

/-- Whatever a reading yields has a property. -/
def Yields (P : α → Prop) (r : Option (α × Words)) : Prop :=
  ∀ a ws, r = some (a, ws) → P a

/-- Whatever a step goes on with has a property. -/
def Step.Yields (P : α → Prop) (s : Step α) : Prop :=
  ∀ a ws, s = .go a ws → P a

/-- Nothing read has any property. -/
@[simp]
lemma yields_none : Yields P none := by
  simp [Yields]

/-- What is read has a property if it is read. -/
@[simp]
lemma yields_some {a : α} {ws : Words} : Yields P (some (a, ws)) ↔ P a := by
  simp [Yields]

/-- A step that stops brings nothing in. -/
@[simp]
lemma Step.yields_stop : (Step.stop : Step α).Yields P := by
  simp [Step.Yields]

/-- A step that fails brings nothing in. -/
@[simp]
lemma Step.yields_fail : (Step.fail : Step α).Yields P := by
  simp [Step.Yields]

/-- A step that goes on brings in what it has read. -/
@[simp]
lemma Step.yields_go {a : α} {ws : Words} : (Step.go a ws).Yields P ↔ P a := by
  simp [Step.Yields]

/-- What is read after something that has a property. -/
lemma Yields.bind {r : Option (α × Words)} {f : α × Words → Option (β × Words)}
    (h : Yields P r) (hf : ∀ a ws, P a → Yields Q (f (a, ws))) : Yields Q (r >>= f) := by
  intro b ws hb
  obtain ⟨⟨a, ws'⟩, hr, hfa⟩ := Option.bind_eq_some_iff.1 hb
  exact hf a ws' (h a ws' hr) b ws hfa

/-- What is read after words that only have to be there. -/
lemma yields_bind {γ : Type} {r : Option γ} {f : γ → Option (β × Words)}
    (hf : ∀ c, r = some c → Yields Q (f c)) : Yields Q (r >>= f) := by
  intro b ws hb
  obtain ⟨c, hr, hfc⟩ := Option.bind_eq_some_iff.1 hb
  exact hf c hr b ws hfc

/-- What is made of a reading has a property if it is made of what was read. -/
lemma Yields.map {r : Option (α × Words)} {f : α × Words → β × Words} (h : Yields P r)
    (hf : ∀ a ws, P a → Q (f (a, ws)).1) : Yields Q (r.map f) := by
  intro b ws hb
  obtain ⟨⟨a, ws'⟩, hr, hfa⟩ := Option.map_eq_some_iff.1 hb
  simpa [hfa] using hf a ws' (h a ws' hr)

/-- A reading that depends on a condition yields what both ways yield under theirs. -/
lemma yields_ite {c : Prop} [Decidable c] {r r' : Option (α × Words)} :
    Yields P (if c then r else r') ↔ (c → Yields P r) ∧ (¬c → Yields P r') := by
  by_cases hc : c <;> simp [hc]

/-- A step that depends on a condition yields what both ways yield under theirs. -/
lemma Step.yields_ite {c : Prop} [Decidable c] {s s' : Step α} :
    (if c then s else s').Yields P ↔ (c → s.Yields P) ∧ (¬c → s'.Yields P) := by
  by_cases hc : c <;> simp [hc]

/-- A repetition keeps what each of its steps keeps. -/
lemma yields_iterate {step : α → Words → Step α} (hstep : ∀ a ws, P a → (step a ws).Yields P) :
    ∀ (n : Nat) {a : α} (ws : Words), P a → Yields P (iterate step n a ws)
  | 0, a, ws, ha => by simpa [iterate] using ha
  | n + 1, a, ws, ha => by
    rw [iterate]
    split
    · simpa using ha
    · next b rest hs => exact yields_iterate hstep n rest (hstep a ws ha b rest hs)
    · exact yields_none

end Logic

/-! #### Sound readings -/

open Phrase

/-- Whatever may be nested is sound. -/
def Depth.IsSound (d : Depth) : Prop :=
  ∀ goal p ws, Yields Phrase.IsSound (d.read goal p ws)

/-- What a sound depth has read is sound. -/
@[grind →]
lemma Depth.IsSound.of_eq_some {d : Depth} {goal : Goal} {p : Place} {ws rest : Words} {x : Phrase}
    (hd : d.IsSound) (h : d.read goal p ws = some (x, rest)) : x.IsSound :=
  hd goal p ws x rest h

/-- A sound phrase that is read as a part is a sound part. -/
lemma yields_asPart {r : Option (Phrase × Words)} (h : Yields Phrase.IsSound r) :
    Yields (fun x => x.2.IsSound) (asPart r) :=
  h.map fun _ _ hx => hx

/-- Items up to a closing sign are sound if each of them is, and there is at least the closing
sign. -/
lemma yields_itemsUntil {p : Place} {item : Words → Option ((Role × Phrase) × Words)}
    (hitem : ∀ ws, Yields (fun x => x.2.IsSound) (item ws)) (close : String) :
    ∀ (n : Nat) {done : List (Role × Phrase)} (ws : Words), AreSound done →
      Yields Fill (itemsUntil p item close n done ws)
  | 0, _, _, _ => yields_none
  | n + 1, done, ws, hdone => by
    rw [itemsUntil]
    split
    · simpa [Fill] using hdone
    · split
      · exact yields_none
      · next x ws' hx =>
        have hx : x.2.IsSound := hitem ws x ws' hx
        split
        · simpa [Fill] using ⟨hdone, hx⟩
        · split
          · apply yields_itemsUntil hitem
            simpa using ⟨hx, hdone⟩
          · exact yields_none

end Lookalike.Python.Grammar
