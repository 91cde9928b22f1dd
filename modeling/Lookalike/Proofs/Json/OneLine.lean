import Lookalike.Proofs.Json.RoundTrip
import Lookalike.Text.Lines

/-! ### Values on lines of their own

No character of a compact form is a control character, so that a plain value stands on one line. A
text that is put together from lines without line breaks in them falls apart into these lines. -/

namespace Lookalike

/-! #### Lines put together -/

namespace Text

/-- Neither a line feed nor a carriage return is in a text. -/
def IsUnbroken (cs : List Char) : Prop :=
  ∀ c ∈ cs, c ≠ '\n' ∧ c ≠ '\r'

/-- A line without a line break and its line feed are the first line of what follows. -/
lemma terminated_line {cs : List Char} (h : IsUnbroken cs) (rest : List Char) :
    terminated (cs ++ '\n' :: rest) = (cs ++ ['\n']) :: terminated rest := by
  induction cs with
  | nil =>
    rw [List.nil_append, terminated, List.foldr_cons, ← terminated]
    cases terminated rest <;> rfl
  | cons c cs ih =>
    obtain ⟨hc, hcs⟩ := List.forall_mem_cons.1 h
    rw [List.cons_append, terminated, List.foldr_cons, ← terminated, ih hcs, addToLines,
      if_neg hc.1]
    rfl

/-- A line without a line break is what is left without its line feed. -/
lemma chomp_line {cs : List Char} (h : IsUnbroken cs) : chomp (cs ++ ['\n']) = cs := by
  rw [chomp, List.reverse_append]
  cases hrev : cs.reverse with
  | nil =>
    obtain rfl : cs = [] := List.reverse_eq_nil_iff.1 hrev
    rfl
  | cons d ds =>
    have hd : d ≠ '\r' := (h d (List.mem_reverse.1 (hrev ▸ List.mem_cons_self))).2
    obtain rfl : (d :: ds).reverse = cs := by rw [← hrev, List.reverse_reverse]
    simp only [List.reverse_singleton, List.singleton_append]
    -- Of the cases of `chomp` only the second applies: no carriage return stands before the line
    -- feed, and the line has a line feed.
    split
    · rename_i heq
      exact absurd (List.cons.inj (List.cons.inj heq).2).1 hd
    · rename_i heq
      rw [(List.cons.inj heq).2]
    · rename_i hno
      exact absurd rfl (hno _)

/-- Lines without line breaks, each with a line feed, fall apart into these lines. -/
lemma lines_join {ls : List String} (h : ∀ l ∈ ls, IsUnbroken l.toList) :
    lines (String.join (ls.map (· ++ "\n"))) = ls := by
  rw [lines, String.toList_join]
  induction ls with
  | nil => rfl
  | cons l ls ih =>
    obtain ⟨hl, hls⟩ := List.forall_mem_cons.1 h
    have hchars : (l ++ "\n").toList = l.toList ++ ['\n'] := String.toList_append
    rw [List.map_cons, List.flatMap_cons, hchars, List.append_assoc, List.singleton_append,
      terminated_line hl, List.map_cons, chomp_line hl, ih hls, String.ofList_toList]

end Text

/-! #### Compact forms -/

namespace Json

/-- Some characters of which none is a control character. -/
def IsVisible (cs : List Char) : Prop :=
  ∀ c ∈ cs, 0x20 ≤ c.toNat

instance (cs : List Char) : Decidable (IsVisible cs) :=
  decidable_of_iff (cs.all fun c => 0x20 ≤ c.toNat) (by simp [IsVisible])

/-- Without control characters there are no line breaks. -/
lemma IsVisible.isUnbroken {cs : List Char} (h : IsVisible cs) : Text.IsUnbroken cs := by
  intro c hc
  have hle := h c hc
  constructor
  · rintro rfl
    exact absurd hle (by decide)
  · rintro rfl
    exact absurd hle (by decide)

/-- Two pieces are free of control characters if both are. -/
lemma isVisible_append {cs ds : List Char} :
    IsVisible (cs ++ ds) ↔ IsVisible cs ∧ IsVisible ds :=
  List.forall_mem_append

/-- One more character must be no control character. -/
lemma isVisible_cons {c : Char} {cs : List Char} :
    IsVisible (c :: cs) ↔ 0x20 ≤ c.toNat ∧ IsVisible cs :=
  List.forall_mem_cons

/-- What stands between two characters is free of control characters with them. -/
lemma isVisible_enclosed {c d : Char} (hc : 0x20 ≤ c.toNat) (hd : 0x20 ≤ d.toNat)
    {cs : List Char} (h : IsVisible cs) : IsVisible (c :: cs ++ [d]) :=
  isVisible_append.2 ⟨isVisible_cons.2 ⟨hc, h⟩, isVisible_cons.2 ⟨hd, List.forall_mem_nil _⟩⟩

/-- Hexadecimal digits are no control characters. -/
lemma isVisible_hex (places n : Nat) : IsVisible (Sha256.hex places n) := by
  have hdigit : ∀ m < 16, 0x20 ≤ (Sha256.hexDigit m).toNat := by decide
  intro c hc
  obtain ⟨i, -, rfl⟩ := List.mem_map.1 hc
  exact hdigit _ (Nat.mod_lt _ (by decide))

/-- An escape is free of control characters, since it is there to avoid them. -/
lemma isVisible_escapeChar (c : Char) : IsVisible (escapeChar c) := by
  obtain ⟨letter, hletter, hc⟩ | ⟨-, hc⟩ | ⟨-, -, hvisible, hc⟩ := escapeChar_cases c
  · have hall : ∀ p ∈ lettered, IsVisible ['\\', p.2] := by decide
    exact hc ▸ hall _ hletter
  · rw [hc]
    exact isVisible_cons.2 ⟨by decide, isVisible_cons.2 ⟨by decide, isVisible_hex _ _⟩⟩
  · rw [hc]
    exact isVisible_cons.2 ⟨hvisible, List.forall_mem_nil _⟩

/-- A quoted text is free of control characters. -/
lemma isVisible_quote (s : String) : IsVisible (quote s) := by
  refine isVisible_enclosed (by decide) (by decide) fun c hc => ?_
  obtain ⟨d, -, hd⟩ := List.mem_flatMap.1 hc
  exact isVisible_escapeChar d c hd

/-- A digit is no control character. -/
lemma le_of_isDigit {c : Char} (hc : isDigit c = true) : 0x20 ≤ c.toNat := by
  have hbounds : '0' ≤ c ∧ c ≤ '9' := by simpa [isDigit] using hc
  have hle : '0'.toNat ≤ c.toNat := hbounds.1
  exact Nat.le_trans (by decide) hle

/-- An integer is free of control characters. -/
lemma isVisible_render {n : Numeral} (hn : n.IsInteger) : IsVisible n.render := by
  obtain ⟨negative, m, rfl⟩ := hn
  rw [Numeral.render_integer]
  refine isVisible_append.2 ⟨?_, fun c hc => le_of_isDigit (isDigit_of_mem_toDigits hc)⟩
  cases negative <;> decide

/-- Pieces with commas between them are free of control characters if the pieces are. -/
lemma isVisible_commaJoin : {ps : List (List Char)} → (∀ p ∈ ps, IsVisible p) →
    IsVisible (commaJoin ps)
  | [], _ => List.forall_mem_nil _
  | [p], h => h p List.mem_cons_self
  | p :: q :: ps, h =>
    isVisible_append.2 ⟨h p List.mem_cons_self,
      isVisible_cons.2 ⟨by decide, isVisible_commaJoin fun r hr => h r (List.mem_cons_of_mem _ hr)⟩⟩

mutual

/-- The compact form of a plain value is free of control characters. -/
theorem isVisible_compactChars : (v : Json) → v.IsPlain → IsVisible v.compactChars
  | .null, _ => by decide
  | .bool true, _ => by decide
  | .bool false, _ => by decide
  | .number _, hn => isVisible_render hn
  | .text s, _ => isVisible_quote s
  | .unpaired, hv => absurd hv id
  | .array items, hitems =>
    isVisible_enclosed (by decide) (by decide)
      (isVisible_commaJoin (isVisible_compactItems items hitems))
  | .object fields, hfields =>
    isVisible_enclosed (by decide) (by decide)
      (isVisible_commaJoin (isVisible_compactFields fields hfields))

/-- The compact forms of plain items are free of control characters. -/
theorem isVisible_compactItems : (items : List Json) → ArePlain items →
    ∀ p ∈ compactItems items, IsVisible p
  | [], _ => List.forall_mem_nil _
  | v :: vs, h =>
    List.forall_mem_cons.2 ⟨isVisible_compactChars v h.1, isVisible_compactItems vs h.2⟩

/-- The compact forms of plain fields are free of control characters. -/
theorem isVisible_compactFields : (fields : List (String × Json)) → AreFieldsPlain fields →
    ∀ p ∈ compactFields fields, IsVisible p
  | [], _ => List.forall_mem_nil _
  | (k, v) :: fs, h =>
    List.forall_mem_cons.2 ⟨isVisible_append.2 ⟨isVisible_quote k,
      isVisible_cons.2 ⟨by decide, isVisible_compactChars v h.1⟩⟩, isVisible_compactFields fs h.2⟩

end

/-- The compact form of a plain value stands on one line. -/
lemma isUnbroken_compact {v : Json} (hv : v.IsPlain) : Text.IsUnbroken v.compact.toList := by
  rw [compact, String.toList_ofList]
  exact (isVisible_compactChars v hv).isUnbroken

end Json

end Lookalike
