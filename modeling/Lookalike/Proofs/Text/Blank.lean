import Mathlib.Tactic.Lemma
import Lookalike.Text.Blank

/-! ### Squeezed texts

Squeezing a text changes its blanks and nothing else: the characters that are no blanks stay, in
their order, and the only blanks that are left are spaces. -/

namespace Lookalike.Text

/-- The stretches between blanks hold the characters that are no blanks. -/
lemma flatten_pieces (cs : List Char) : (pieces cs).flatten = cs.filter (!isBlank ·) := by
  induction cs with
  | nil => rfl
  | cons c cs ih =>
    have hstep : pieces (c :: cs) = addToPieces c (pieces cs) := rfl
    rw [hstep]
    cases hc : isBlank c <;> cases hpieces : pieces cs <;> rw [hpieces] at ih <;>
      simp_all [addToPieces]

/-- The words of a text, one after another, are its characters that are not blank. -/
lemma flatten_words (cs : List Char) : (words cs).flatten = cs.filter (!isBlank ·) := by
  rw [words, List.flatten_filter_not_isEmpty, flatten_pieces]

/-- No character of a word is blank. -/
lemma isBlank_of_mem_words {cs w : List Char} (hw : w ∈ words cs) {c : Char} (hc : c ∈ w) :
    isBlank c = false := by
  have hmem : c ∈ (words cs).flatten := List.mem_flatten.2 ⟨w, hw, hc⟩
  rw [flatten_words, List.mem_filter] at hmem
  simpa using hmem.2

/-- Pieces without spaces are left when the spaces between them are dropped. -/
lemma filter_intercalate_space {ws : List (List Char)} (h : ∀ w ∈ ws, ' ' ∉ w) :
    ([' '].intercalate ws).filter (· ≠ ' ') = ws.flatten := by
  have hkeep {w : List Char} (hw : ' ' ∉ w) : w.filter (· ≠ ' ') = w := by
    apply List.filter_eq_self.2
    intro c hc
    exact decide_eq_true fun hspace => hw (hspace ▸ hc)
  match ws with
  | [] => rfl
  | [w] => rw [List.intercalate_singleton, hkeep (h w List.mem_cons_self), List.flatten_singleton]
  | w :: w' :: rest =>
    have hrest := filter_intercalate_space fun v hv => h v (List.mem_cons_of_mem w hv)
    rw [List.intercalate_cons_cons, List.filter_append, List.filter_append, hrest,
      hkeep (h w List.mem_cons_self)]
    simp

/-- Dropping the spaces of a squeezed text leaves the characters that are no blanks. -/
theorem filter_toList_squeeze (s : String) :
    (squeeze s).toList.filter (· ≠ ' ') = s.toList.filter (!isBlank ·) := by
  have hwords : ∀ w ∈ words s.toList, ' ' ∉ w := by
    intro w hw hspace
    exact absurd (isBlank_of_mem_words hw hspace) (by decide)
  have htexts : ((words s.toList).map String.ofList).map String.toList = words s.toList := by
    simp
  have hspace : " ".toList = [' '] := rfl
  rw [squeeze, String.toList_intercalate, htexts, hspace, filter_intercalate_space hwords,
    flatten_words]

end Lookalike.Text
