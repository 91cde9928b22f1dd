import Mathlib.Data.List.Basic
import Mathlib.Tactic.Lemma
import Lookalike.Text.Lines

/-! ### What the lines of a text are

A text is cut into lines in one way only: each line ends with a line feed, with or without one
carriage return before it, and what follows the last line feed is a line if there is anything.
`AreLinesOf` says so without a computation, and `lines` finds these lines. Hence the lines stay the
same if a carriage return is put before each line feed of a text that has none. -/

namespace Lookalike.Text

/-- The lines that a text is made of, without their ends. -/
inductive AreLinesOf : List (List Char) → List Char → Prop
  | nil : AreLinesOf [] []
  | open {line : List Char} (hne : line ≠ []) (hfeed : '\n' ∉ line) : AreLinesOf [line] line
  | feed {line cs : List Char} {rest : List (List Char)} (hfeed : '\n' ∉ line)
      (hreturn : line.getLast? ≠ some '\r') (hrest : AreLinesOf rest cs) :
      AreLinesOf (line :: rest) (line ++ '\n' :: cs)
  | returnFeed {line cs : List Char} {rest : List (List Char)} (hfeed : '\n' ∉ line)
      (hrest : AreLinesOf rest cs) : AreLinesOf (line :: rest) (line ++ '\r' :: '\n' :: cs)

/-! #### The lines are found -/

/-- Up to a line feed a text is one line with its end. -/
lemma terminated_append_feed {line : List Char} (h : '\n' ∉ line) (cs : List Char) :
    terminated (line ++ '\n' :: cs) = (line ++ ['\n']) :: terminated cs := by
  induction line with
  | nil =>
    rw [List.nil_append, terminated, List.foldr_cons, ← terminated]
    cases terminated cs <;> rfl
  | cons c line ih =>
    obtain ⟨hc, hline⟩ := not_or.1 (mt List.mem_cons.2 h)
    rw [List.cons_append, terminated, List.foldr_cons, ← terminated, ih hline, addToLines,
      if_neg (Ne.symm hc), List.cons_append]

/-- A text without line feeds is one line. -/
lemma terminated_open {line : List Char} (hne : line ≠ []) (h : '\n' ∉ line) :
    terminated line = [line] := by
  induction line with
  | nil => exact absurd rfl hne
  | cons c line ih =>
    obtain ⟨hc, hline⟩ := not_or.1 (mt List.mem_cons.2 h)
    rw [terminated, List.foldr_cons, ← terminated]
    cases line with
    | nil => rfl
    | cons d line => rw [ih (by simp) hline, addToLines, if_neg (Ne.symm hc)]

/-- A line without an end is as it was without it. -/
lemma chomp_open {line : List Char} (h : '\n' ∉ line) : chomp line = line := by
  have hreverse : '\n' ∉ line.reverse := by rwa [List.mem_reverse]
  unfold chomp
  split
  · rename_i heq
    simp [heq] at hreverse
  · rename_i heq
    simp [heq] at hreverse
  · rfl

/-- A line feed at the end of a line goes. -/
lemma chomp_feed {line : List Char} (h : line.getLast? ≠ some '\r') :
    chomp (line ++ ['\n']) = line := by
  have hhead : line.reverse.head? ≠ some '\r' := by rwa [List.head?_reverse]
  unfold chomp
  rw [List.reverse_append, List.reverse_singleton, List.singleton_append]
  split
  · rename_i rest heq
    rw [List.cons.injEq] at heq
    simp [heq.2] at hhead
  · rename_i rest _ heq
    rw [List.cons.injEq] at heq
    rw [← heq.2, List.reverse_reverse]
  · rename_i hnone
    exact absurd rfl (hnone line.reverse)

/-- A carriage return goes with the line feed behind it. -/
lemma chomp_returnFeed (line : List Char) : chomp (line ++ ['\r', '\n']) = line := by
  have hreverse : (line ++ ['\r', '\n']).reverse = '\n' :: '\r' :: line.reverse := by simp
  rw [chomp, hreverse]
  exact List.reverse_reverse line

/-- The lines of a text are found. -/
lemma AreLinesOf.map_chomp {ls : List (List Char)} {cs : List Char} (h : AreLinesOf ls cs) :
    (terminated cs).map chomp = ls := by
  induction h with
  | nil => rfl
  | «open» hne hfeed => rw [terminated_open hne hfeed, List.map_singleton, chomp_open hfeed]
  | feed hfeed hreturn _ ih =>
    rw [terminated_append_feed hfeed, List.map_cons, chomp_feed hreturn, ih]
  | @returnFeed line cs rest hfeed _ ih =>
    have hline : '\n' ∉ line ++ ['\r'] := by simp [hfeed]
    rw [← List.singleton_append, ← List.append_assoc, terminated_append_feed hline,
      List.map_cons, ih, List.append_assoc]
    exact congrArg (· :: rest) (chomp_returnFeed line)

/-- Every text is made of lines. -/
lemma exists_areLinesOf (cs : List Char) : ∃ ls, AreLinesOf ls cs := by
  by_cases hfeed : '\n' ∈ cs
  · obtain ⟨line, rest, rfl, hline⟩ := List.eq_append_cons_of_mem hfeed
    obtain ⟨ls, hls⟩ := exists_areLinesOf rest
    by_cases hreturn : line.getLast? = some '\r'
    · obtain ⟨front, rfl⟩ := List.getLast?_eq_some_iff.1 hreturn
      rw [List.append_assoc, List.singleton_append]
      exact ⟨front :: ls, .returnFeed (fun h => hline (List.mem_append_left _ h)) hls⟩
    · exact ⟨line :: ls, .feed hline hreturn hls⟩
  · by_cases hne : cs = []
    · subst hne
      exact ⟨[], .nil⟩
    · exact ⟨[cs], .open hne hfeed⟩
  termination_by cs.length
  decreasing_by
    subst_vars
    simp only [List.length_append, List.length_cons]
    omega

/-- The lines of a text are those that it is made of. -/
theorem map_chomp_eq_iff {ls : List (List Char)} {cs : List Char} :
    (terminated cs).map chomp = ls ↔ AreLinesOf ls cs := by
  refine ⟨fun h => ?_, AreLinesOf.map_chomp⟩
  obtain ⟨ls', hls'⟩ := exists_areLinesOf cs
  rw [← h, hls'.map_chomp]
  exact hls'

/-- The lines of a text are its terminated lines without their ends. -/
lemma lines_eq_map (s : String) :
    lines s = ((terminated s.toList).map chomp).map String.ofList := by
  rw [List.map_map]
  rfl

/-- A text is made of its lines. -/
theorem areLinesOf_lines (s : String) : AreLinesOf ((lines s).map String.toList) s.toList := by
  have hcancel : String.toList ∘ String.ofList = id := funext fun cs => String.toList_ofList
  rw [lines_eq_map, List.map_map, hcancel, List.map_id]
  exact map_chomp_eq_iff.1 rfl

/-! #### Ends of lines -/

/-- A text with a carriage return before each line feed. -/
def withReturns (s : String) : String :=
  String.ofList (s.toList.flatMap fun c => if c = '\n' then ['\r', '\n'] else [c])

/-- A line has nothing to put a carriage return before. -/
lemma flatMap_returns_of_not_mem {line : List Char} (h : '\n' ∉ line) :
    (line.flatMap fun c => if c = '\n' then ['\r', '\n'] else [c]) = line := by
  have hsame : ∀ c ∈ line, (if c = '\n' then ['\r', '\n'] else [c]) = [c] := by
    intro c hc
    rw [if_neg]
    rintro rfl
    exact h hc
  rw [List.flatMap_congr hsame, List.flatMap_singleton']

/-- Carriage returns before line feeds do not change the lines. -/
lemma AreLinesOf.withReturns {ls : List (List Char)} {cs : List Char} (h : AreLinesOf ls cs)
    (hreturn : '\r' ∉ cs) :
    AreLinesOf ls (cs.flatMap fun c => if c = '\n' then ['\r', '\n'] else [c]) := by
  induction h with
  | nil => exact .nil
  | «open» hne hfeed =>
    rw [flatMap_returns_of_not_mem hfeed]
    exact .open hne hfeed
  | feed hfeed _ _ ih =>
    rw [List.flatMap_append, flatMap_returns_of_not_mem hfeed, List.flatMap_cons, if_pos rfl]
    refine .returnFeed hfeed (ih fun h => hreturn ?_)
    exact List.mem_append_right _ (List.mem_cons_of_mem _ h)
  | returnFeed => simp at hreturn

/-- A text without carriage returns has the same lines with one before each line feed. -/
theorem lines_withReturns {s : String} (h : '\r' ∉ s.toList) : lines (withReturns s) = lines s := by
  have hlines := (map_chomp_eq_iff.1 (rfl : (terminated s.toList).map chomp = _)).withReturns h
  rw [lines_eq_map, lines_eq_map, withReturns, String.toList_ofList, map_chomp_eq_iff.2 hlines]

/-! #### Ranges of lines -/

/-- A range of lines that are all there is made of the lines with its numbers, joined by line
feeds. -/
lemma lineRange_eq {s : String} {first last : Nat} (hfirst : 1 ≤ first) (hle : first ≤ last)
    (hlast : last ≤ (lines s).length) :
    ∃ chosen : List String,
      chosen.map some = (List.range' first (last + 1 - first)).map (fun n => (lines s)[n - 1]?) ∧
        lineRange s first last = "\n".intercalate chosen := by
  have hspan : last + 1 - first = last - first + 1 := by omega
  refine ⟨((lines s).drop (first - 1)).take (last - first + 1), List.ext_getElem? fun i => ?_, rfl⟩
  rw [List.getElem?_map, List.getElem?_map, List.getElem?_take, List.getElem?_drop, hspan]
  by_cases hi : i < last - first + 1
  · have hplace : first - 1 + i = first + 1 * i - 1 := by omega
    have hthere : first + 1 * i - 1 < (lines s).length := by omega
    rw [if_pos hi, List.getElem?_range' hi, hplace, Option.map_some,
      List.getElem?_eq_getElem hthere, Option.map_some]
  · have hout : (List.range' first (last - first + 1)).length ≤ i := by
      rw [List.length_range']
      omega
    rw [if_neg hi, List.getElem?_eq_none hout]
    rfl

end Lookalike.Text
