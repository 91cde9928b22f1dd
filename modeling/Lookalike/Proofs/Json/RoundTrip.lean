import Mathlib.Tactic.IntervalCases
import Mathlib.Data.List.Basic
import Lookalike.Json.Number
import Lookalike.Json.Printer
import Lookalike.Json.Reader

/-! ### Writing and reading back

The compact form of a value reads back as that value, if its numbers are integers and its texts are
known. The fuel that reading needs is no more than the length of the text. -/

namespace Lookalike

namespace Json

/-! #### Texts -/

/-- The four hexadecimal digits of a control character read back. -/
lemma readHex4?_hex {n : Nat} (hn : n < 0x20) (rest : List Char) :
    readHex4? (Sha256.hex 4 n ++ rest) = some (n, rest) := by
  interval_cases n <;> rfl

/-- A control character stands for itself. -/
lemma unitOf_toNat {c : Char} (hc : c.toNat < 0x20) : unitOf c.toNat = .char c := by
  rw [unitOf, if_neg (by omega), if_neg (by omega), Char.ofNat_toNat]

/-- The characters that are escaped by a letter, each with its letter. -/
def lettered : List (Char × Char) :=
  [('\x22', '\x22'), ('\\', '\\'), ('\n', 'n'), ('\r', 'r'), ('\t', 't'), ('\x08', 'b'),
    ('\x0c', 'f')]

/-- A character is escaped by its letter or, if it is another control character, by its number. All
others stand as they are. -/
lemma escapeChar_cases (c : Char) :
    (∃ letter, (c, letter) ∈ lettered ∧ escapeChar c = ['\\', letter]) ∨
    (c.toNat < 0x20 ∧ escapeChar c = '\\' :: 'u' :: Sha256.hex 4 c.toNat) ∨
    (c ≠ '\x22' ∧ c ≠ '\\' ∧ 0x20 ≤ c.toNat ∧ escapeChar c = [c]) := by
  by_cases h : c ∈ lettered.map Prod.fst
  · obtain ⟨⟨d, letter⟩, hmem, rfl⟩ := List.mem_map.1 h
    have hall : ∀ p ∈ lettered, escapeChar p.1 = ['\\', p.2] := by decide
    exact .inl ⟨letter, hmem, hall _ hmem⟩
  · simp only [lettered, List.map_cons, List.map_nil, List.mem_cons, List.not_mem_nil, not_or] at h
    obtain ⟨h1, h2, h3, h4, h5, h6, h7, -⟩ := h
    rw [escapeChar, if_neg h1, if_neg h2, if_neg h3, if_neg h4, if_neg h5, if_neg h6, if_neg h7]
    by_cases hc : c.toNat < 0x20
    · exact .inr (.inl ⟨hc, if_pos hc⟩)
    · exact .inr (.inr ⟨h1, h2, Nat.le_of_not_lt hc, if_neg hc⟩)

/-- An escaped character reads back as one item. -/
lemma readUnits?_escapeChar (fuel : Nat) (c : Char) (rest : List Char) (done : List Unit16) :
    readUnits? (fuel + 1) (escapeChar c ++ rest) done =
      readUnits? fuel rest (.char c :: done) := by
  obtain ⟨letter, hletter, hc⟩ | ⟨hcontrol, hc⟩ | ⟨hquote, hslash, hvisible, hc⟩ :=
    escapeChar_cases c
  · -- No letter is the one that announces a number.
    have hall : ∀ p ∈ lettered, p.2 ≠ 'u' ∧ escapeLetter? p.2 = some p.1 := by decide
    obtain ⟨hu, hread⟩ := hall _ hletter
    rw [hc, List.cons_append, List.singleton_append, readUnits?, hread]
    exact hu
  · rw [hc, List.cons_append, List.cons_append, readUnits?, readHex4?_hex hcontrol]
    simp only [unitOf_toNat hcontrol]
  · rw [hc, List.singleton_append, readUnits?, if_neg (Nat.not_lt.2 hvisible)]
    · exact hquote
    · exact fun _ heq => absurd heq hslash
    · exact fun _ _ heq => absurd heq hslash

/-- The escaped characters of a text read back as its items, up to the closing mark. -/
lemma readUnits?_flatMap (cs : List Char) (extra : Nat) (rest : List Char) (done : List Unit16) :
    readUnits? (cs.length + 1 + extra) (cs.flatMap escapeChar ++ '\x22' :: rest) done =
      some ((cs.map Unit16.char).reverse ++ done, rest) := by
  induction cs generalizing done with
  | nil => rw [List.length_nil, Nat.zero_add, Nat.add_comm]; rfl
  | cons c cs ih =>
    have hfuel : (c :: cs).length + 1 + extra = (cs.length + 1 + extra) + 1 := by
      rw [List.length_cons]
      omega
    rw [hfuel, List.flatMap_cons, List.append_assoc, readUnits?_escapeChar, ih]
    simp

/-- Items that are characters make a text. -/
lemma joinUnits?_map_char (cs done : List Char) :
    joinUnits? (cs.map Unit16.char) done = some (cs.reverse ++ done) := by
  induction cs generalizing done with
  | nil => rfl
  | cons c cs ih =>
    rw [List.map_cons, joinUnits?, ih]
    simp

/-- An escape has at least one character. -/
lemma length_escapeChar_pos (c : Char) : 0 < (escapeChar c).length := by
  obtain ⟨letter, -, hc⟩ | ⟨-, hc⟩ | ⟨-, -, -, hc⟩ := escapeChar_cases c
  all_goals
    rw [hc]
    exact Nat.succ_pos _

/-- Escaping makes no text shorter. -/
lemma length_le_flatMap_escapeChar (cs : List Char) :
    cs.length ≤ (cs.flatMap escapeChar).length := by
  induction cs with
  | nil => rfl
  | cons c cs ih =>
    have hpos := length_escapeChar_pos c
    rw [List.flatMap_cons, List.length_cons, List.length_append]
    omega

/-- The length of a quoted text. -/
lemma length_quote (s : String) :
    (quote s).length = (s.toList.flatMap escapeChar).length + 2 := by
  simp [quote]

/-- A quoted text reads back after its opening mark. -/
lemma readText?_quote (s : String) {fuel : Nat} (hfuel : (quote s).length ≤ fuel + 1)
    (rest : List Char) :
    readText? fuel (s.toList.flatMap escapeChar ++ '\x22' :: rest) = some (some s, rest) := by
  have hlen := length_le_flatMap_escapeChar s.toList
  rw [length_quote] at hfuel
  obtain ⟨extra, rfl⟩ : ∃ extra, fuel = s.toList.length + 1 + extra :=
    ⟨fuel - (s.toList.length + 1), by omega⟩
  rw [readText?, readUnits?_flatMap]
  simp only [List.append_nil, ← List.map_reverse, joinUnits?_map_char]
  simp

/-! #### Numbers -/

/-- What may follow a value inside a text: nothing, a comma or a closing bracket. -/
def Closes (rest : List Char) : Prop :=
  ∀ c ∈ rest.head?, c = ',' ∨ c = ']' ∨ c = '\x7d'

/-- The digits of a number are digits. -/
lemma isDigit_of_mem_toDigits {n : Nat} {c : Char} (hc : c ∈ Nat.toDigits 10 n) :
    isDigit c = true := by
  have h : c.isDigit = true := Nat.isDigit_of_mem_toDigits (by decide) (by decide) hc
  simpa [isDigit, Char.isDigit, Char.le_def] using h

/-- A closing character is no digit and does not go on with a number. -/
lemma Closes.not_mem {rest : List Char} (h : Closes rest) {c : Char} (hc : c ∈ rest.head?) :
    isDigit c = false ∧ c ≠ '.' ∧ ¬(c = 'e' ∨ c = 'E') := by
  rcases h c hc with rfl | rfl | rfl <;> decide

/-- The digits of a number end where a closing character follows. -/
lemma span_toDigits (n : Nat) {rest : List Char} (h : Closes rest) :
    (Nat.toDigits 10 n ++ rest).takeWhile isDigit = Nat.toDigits 10 n ∧
      (Nat.toDigits 10 n ++ rest).dropWhile isDigit = rest := by
  have hall : ∀ c ∈ Nat.toDigits 10 n, isDigit c = true := fun c => isDigit_of_mem_toDigits
  rw [List.takeWhile_append_of_pos hall, List.dropWhile_append_of_pos hall]
  cases rest with
  | nil => simp
  | cons c rest =>
    have hc := (h.not_mem (c := c) rfl).1
    simp [hc]

/-- A number above zero does not begin with a zero. -/
lemma head?_toDigits_ne {n : Nat} (hn : 0 < n) : (Nat.toDigits 10 n).head? ≠ some '0' := by
  induction n using Nat.strongRecOn with
  | ind n ih =>
    by_cases hlt : n < 10
    · rw [Nat.toDigits_of_lt_base hlt]
      interval_cases n <;> decide
    · rw [Nat.toDigits_of_base_le (by decide) (by omega), List.head?_append_of_ne_nil]
      · exact ih (n / 10) (by omega) (by omega)
      · exact Nat.toDigits_ne_nil

/-- The digits of a number are read back. -/
lemma readUnsigned?_toDigits (negative : Bool) (n : Nat) {rest : List Char} (h : Closes rest) :
    readUnsigned? negative (Nat.toDigits 10 n ++ rest) =
      some (⟨negative, Nat.toDigits 10 n, [], []⟩, rest) := by
  obtain ⟨htake, hdrop⟩ := span_toDigits n h
  have hlead : (decide ((Nat.toDigits 10 n).length > 1) &&
      (Nat.toDigits 10 n).head? == some '0') = false := by
    rcases Nat.eq_zero_or_pos n with rfl | hn
    · rfl
    · rw [Bool.and_eq_false_iff, beq_eq_false_iff_ne]
      exact .inr (head?_toDigits_ne hn)
  have hempty : (Nat.toDigits 10 n).isEmpty = false :=
    List.isEmpty_eq_false_iff.2 Nat.toDigits_ne_nil
  have hfraction : readFraction? rest = some ([], rest) := by
    cases rest with
    | nil => rfl
    | cons c rest =>
      have hc := (h.not_mem (c := c) rfl).2.1
      rw [readFraction?.eq_def]
      split <;> simp_all
  have hpower : readPower? rest = some ([], rest) := by
    cases rest with
    | nil => rfl
    | cons c rest =>
      have hc := (h.not_mem (c := c) rfl).2.2
      unfold readPower?
      exact if_neg hc
  rw [readUnsigned?, htake, hdrop, hempty, hlead, hfraction]
  simp [hpower]

end Json

namespace Numeral

/-- An integer as it is written. -/
def IsInteger (n : Numeral) : Prop :=
  ∃ negative m, n = ⟨negative, Nat.toDigits 10 m, [], []⟩

/-- The numeral of a natural number is an integer. -/
lemma isInteger_ofNat (n : Nat) : (ofNat n).IsInteger :=
  ⟨false, n, rfl⟩

/-- The numeral of an integer is an integer. -/
lemma isInteger_ofInt (i : Int) : (ofInt i).IsInteger :=
  ⟨_, _, rfl⟩

/-- An integer is written as its sign and its digits. -/
lemma render_integer (negative : Bool) (ds : List Char) :
    render ⟨negative, ds, [], []⟩ = (if negative then ['-'] else []) ++ ds := by
  simp [render]

/-- An integer begins with its sign or a digit. -/
lemma IsInteger.exists_cons {n : Numeral} (h : n.IsInteger) :
    ∃ c cs, n.render = c :: cs ∧ (c = '-' ∨ Json.isDigit c = true) := by
  obtain ⟨negative, m, rfl⟩ := h
  rw [render_integer]
  cases negative with
  | true => exact ⟨'-', Nat.toDigits 10 m, rfl, .inl rfl⟩
  | false =>
    cases hds : Nat.toDigits 10 m with
    | nil => exact absurd hds Nat.toDigits_ne_nil
    | cons c cs =>
      refine ⟨c, cs, rfl, .inr (Json.isDigit_of_mem_toDigits (n := m) ?_)⟩
      rw [hds]
      exact List.mem_cons_self

/-- An integer reads back. -/
lemma IsInteger.readNumeral?_render {n : Numeral} (h : n.IsInteger) {rest : List Char}
    (hrest : Json.Closes rest) : Json.readNumeral? (n.render ++ rest) = some (n, rest) := by
  obtain ⟨negative, m, rfl⟩ := h
  rw [render_integer]
  cases negative with
  | true => exact Json.readUnsigned?_toDigits true m hrest
  | false =>
    have hread := Json.readUnsigned?_toDigits false m hrest
    cases hds : Nat.toDigits 10 m with
    | nil => exact absurd hds Nat.toDigits_ne_nil
    | cons c cs =>
      have hc : Json.isDigit c = true :=
        Json.isDigit_of_mem_toDigits (n := m) (hds ▸ List.mem_cons_self)
      have hminus : c ≠ '-' := by
        rintro rfl
        exact absurd hc (by decide)
      rw [hds] at hread
      rw [← hread]
      simp only [Bool.false_eq_true, if_false, List.nil_append, List.cons_append]
      rw [Json.readNumeral?.eq_def]
      split
      · rename_i heq
        exact absurd (List.cons.inj heq).1 hminus
      · rfl

end Numeral

namespace Json

/-! #### Values -/

mutual

/-- A value reads back if its numbers are integers and its texts are known. -/
def IsPlain : Json → Prop
  | .number n => n.IsInteger
  | .unpaired => False
  | .array items => ArePlain items
  | .object fields => AreFieldsPlain fields
  | _ => True

/-- All values of a list are plain. -/
def ArePlain : List Json → Prop
  | [] => True
  | v :: vs => v.IsPlain ∧ ArePlain vs

/-- The values of all fields are plain. -/
def AreFieldsPlain : List (String × Json) → Prop
  | [] => True
  | (_, v) :: fs => v.IsPlain ∧ AreFieldsPlain fs

end

/-- What a value may begin with: no blank and no closing bracket. -/
def Opens (c : Char) : Prop :=
  isGap c = false ∧ c ≠ ']' ∧ c ≠ '\x7d'

instance (c : Char) : Decidable (Opens c) :=
  inferInstanceAs (Decidable (_ ∧ _ ∧ _))

/-- A digit may begin a value. -/
lemma opens_of_isDigit {c : Char} (hc : isDigit c = true) : Opens c := by
  have hne (d : Char) (hd : isDigit d = false) : c ≠ d := by
    rintro rfl
    exact absurd hc (Bool.eq_false_iff.1 hd)
  refine ⟨?_, hne _ rfl, hne _ rfl⟩
  simp [isGap, hne ' ' rfl, hne '\n' rfl, hne '\t' rfl, hne '\r' rfl]

/-- The compact form of a plain value begins with no blank and no closing bracket. -/
lemma exists_opens_cons {v : Json} (h : v.IsPlain) :
    ∃ c cs, v.compactChars = c :: cs ∧ Opens c := by
  cases v with
  | null => exact ⟨_, _, rfl, by decide⟩
  | bool b => cases b <;> exact ⟨_, _, rfl, by decide⟩
  | number n =>
    obtain ⟨c, cs, hn, hc⟩ := Numeral.IsInteger.exists_cons h
    refine ⟨c, cs, hn, ?_⟩
    rcases hc with rfl | hc
    · decide
    · exact opens_of_isDigit hc
  | text s => exact ⟨_, _, rfl, by decide⟩
  | unpaired => exact absurd h id
  | array items => exact ⟨_, _, rfl, by decide⟩
  | object fields => exact ⟨_, _, rfl, by decide⟩

/-- What may begin a value stays when blanks are skipped. -/
lemma skipGap_of_opens {c : Char} (hc : Opens c) (cs : List Char) : skipGap (c :: cs) = c :: cs :=
  List.dropWhile_cons_of_neg (Bool.eq_false_iff.1 hc.1)

/-- A sign or a digit begins a number. -/
lemma readValue?_numeral (fuel : Nat) {c : Char} (hc : c = '-' ∨ isDigit c = true)
    (cs : List Char) :
    readValue? (fuel + 1) (c :: cs) =
      (readNumeral? (c :: cs)).map fun (n, rest) => (.number n, rest) := by
  have hopens : Opens c := by
    rcases hc with rfl | hc
    · decide
    · exact opens_of_isDigit hc
  rw [readValue?, skipGap_of_opens hopens]
  have hno (d : Char) (hd : d ≠ '-' ∧ isDigit d = false) (ds : List Char) : c :: cs ≠ d :: ds := by
    intro heq
    rw [(List.cons.inj heq).1] at hc
    exact hc.elim hd.1 (Bool.eq_false_iff.1 hd.2)
  split
  case h_7 => rfl
  all_goals
    rename_i heq
    exact absurd heq (hno _ (by decide) _)

/-- An opening mark begins a text. -/
lemma readValue?_text (fuel : Nat) (s : String) (cs : List Char) (rest : List Char)
    (h : readText? fuel cs = some (some s, rest)) :
    readValue? (fuel + 1) ('\x22' :: cs) = some (.text s, rest) := by
  rw [readValue?, skipGap_of_opens (by decide)]
  simp only [h]

/-- A bracket and what may begin a value begin an array. -/
lemma readValue?_array (fuel : Nat) {c : Char} (hc : Opens c) (cs : List Char) :
    readValue? (fuel + 1) ('[' :: c :: cs) =
      (readItems? fuel (c :: cs) []).map fun (items, rest) => (.array items, rest) := by
  rw [readValue?, skipGap_of_opens (by decide)]
  simp only [skipGap_of_opens hc]
  split
  · rename_i heq
    exact absurd (List.cons.inj heq).1 hc.2.1
  · rfl

/-- A brace and what may begin a field begin an object. -/
lemma readValue?_object (fuel : Nat) {c : Char} (hc : Opens c) (cs : List Char) :
    readValue? (fuel + 1) ('\x7b' :: c :: cs) =
      (readFields? fuel (c :: cs) []).map fun (fields, rest) => (.object fields, rest) := by
  rw [readValue?, skipGap_of_opens (by decide)]
  simp only [skipGap_of_opens hc]
  split
  · rename_i heq
    exact absurd (List.cons.inj heq).1 hc.2.2
  · rfl

/-- Pieces with commas begin as the first of them does. -/
lemma exists_opens_commaJoin (p : List Char) (ps : List (List Char))
    (h : ∃ c cs, p = c :: cs ∧ Opens c) : ∃ c cs, commaJoin (p :: ps) = c :: cs ∧ Opens c := by
  obtain ⟨c, cs, rfl, hc⟩ := h
  cases ps with
  | nil => exact ⟨c, cs, rfl, hc⟩
  | cons q ps => exact ⟨c, _, rfl, hc⟩

/-- A closing character closes. -/
lemma closes_cons {c : Char} (hc : c = ',' ∨ c = ']' ∨ c = '\x7d') (rest : List Char) :
    Closes (c :: rest) := by
  intro d hd
  rw [List.head?_cons, Option.mem_some_iff] at hd
  exact hd ▸ hc

/-- A character that is no blank stays when blanks are skipped. -/
lemma skipGap_cons {c : Char} (hc : isGap c = false) (cs : List Char) :
    skipGap (c :: cs) = c :: cs :=
  List.dropWhile_cons_of_neg (Bool.eq_false_iff.1 hc)

/-- A field before a comma reads back if its value does. -/
lemma readFields?_field {fuel : Nat} {k : String} {v : Json} {rest : List Char}
    (hlen : (quote k).length ≤ fuel + 1)
    (hread : readValue? fuel (v.compactChars ++ ',' :: rest) = some (v, ',' :: rest))
    (done : List (String × Json)) :
    readFields? (fuel + 1) (quote k ++ ':' :: v.compactChars ++ ',' :: rest) done =
      readFields? fuel rest ((k, v) :: done) := by
  have htext := readText?_quote k hlen (':' :: v.compactChars ++ ',' :: rest)
  rw [readFields?, quote]
  simp only [List.cons_append, List.append_assoc, List.nil_append, skipGap_cons (c := '\x22') rfl]
    at htext ⊢
  simp only [htext, skipGap_cons (c := ':') rfl, hread, skipGap_cons (c := ',') rfl]

/-- The last field of an object reads back if its value does. -/
lemma readFields?_lastField {fuel : Nat} {k : String} {v : Json} {rest : List Char}
    (hlen : (quote k).length ≤ fuel + 1)
    (hread : readValue? fuel (v.compactChars ++ '\x7d' :: rest) = some (v, '\x7d' :: rest))
    (done : List (String × Json)) :
    readFields? (fuel + 1) (quote k ++ ':' :: v.compactChars ++ '\x7d' :: rest) done =
      some (((k, v) :: done).reverse, rest) := by
  have htext := readText?_quote k hlen (':' :: v.compactChars ++ '\x7d' :: rest)
  rw [readFields?, quote]
  simp only [List.cons_append, List.append_assoc, List.nil_append, skipGap_cons (c := '\x22') rfl]
    at htext ⊢
  simp only [htext, skipGap_cons (c := ':') rfl, hread, skipGap_cons (c := '\x7d') rfl]

mutual

/-- The compact form of a plain value reads back. -/
theorem readValue?_compactChars : (v : Json) → v.IsPlain → (fuel : Nat) →
    v.compactChars.length ≤ fuel → (rest : List Char) → Closes rest →
    readValue? fuel (v.compactChars ++ rest) = some (v, rest)
  | v, hv, 0, hfuel, _, _ => by
    obtain ⟨c, cs, hcs, -⟩ := exists_opens_cons hv
    rw [hcs, List.length_cons] at hfuel
    omega
  | .null, _, fuel + 1, _, rest, _ => rfl
  | .bool true, _, fuel + 1, _, rest, _ => rfl
  | .bool false, _, fuel + 1, _, rest, _ => rfl
  | .number n, hn, fuel + 1, _, rest, hrest => by
    have hn : n.IsInteger := hn
    obtain ⟨c, cs, hcs, hc⟩ := hn.exists_cons
    have hread := hn.readNumeral?_render hrest
    rw [hcs] at hread
    rw [compactChars, hcs, List.cons_append, readValue?_numeral fuel hc, ← List.cons_append, hread]
    rfl
  | .text s, _, fuel + 1, hfuel, rest, _ => by
    rw [compactChars, quote, List.cons_append, List.cons_append, List.append_assoc]
    exact readValue?_text fuel s _ rest (readText?_quote s hfuel rest)
  | .unpaired, hv, _, _, _, _ => absurd hv id
  | .array [], _, fuel + 1, _, rest, _ => rfl
  | .array (v :: vs), hvs, fuel + 1, hfuel, rest, _ => by
    obtain ⟨c, cs, hcs, hc⟩ := exists_opens_commaJoin v.compactChars (compactItems vs)
      (exists_opens_cons hvs.1)
    have hlen : (commaJoin (compactItems (v :: vs))).length < fuel := by
      simp only [compactChars, List.length_append, List.length_cons] at hfuel
      omega
    have hread := readItems?_commaJoin v vs hvs fuel hlen rest []
    have hcons : commaJoin (compactItems (v :: vs)) = c :: cs := hcs
    rw [compactChars, hcons]
    simp only [hcons, List.cons_append, List.append_assoc, List.nil_append] at hread ⊢
    rw [readValue?_array fuel hc, hread]
    rfl
  | .object [], _, fuel + 1, _, rest, _ => rfl
  | .object ((k, v) :: fs), hfs, fuel + 1, hfuel, rest, _ => by
    obtain ⟨c, cs, hcs, hc⟩ := exists_opens_commaJoin (quote k ++ ':' :: v.compactChars)
      (compactFields fs) ⟨_, _, rfl, by decide⟩
    have hlen : (commaJoin (compactFields ((k, v) :: fs))).length < fuel := by
      simp only [compactChars, List.length_append, List.length_cons] at hfuel
      omega
    have hread := readFields?_commaJoin k v fs hfs fuel hlen rest []
    have hcons : commaJoin (compactFields ((k, v) :: fs)) = c :: cs := hcs
    rw [compactChars, hcons]
    simp only [hcons, List.cons_append, List.append_assoc, List.nil_append] at hread ⊢
    rw [readValue?_object fuel hc, hread]
    rfl

/-- The compact forms of the items of an array read back up to its closing bracket. -/
theorem readItems?_commaJoin : (v : Json) → (vs : List Json) → ArePlain (v :: vs) →
    (fuel : Nat) → (commaJoin (compactItems (v :: vs))).length < fuel → (rest : List Char) →
    (done : List Json) →
    readItems? fuel (commaJoin (compactItems (v :: vs)) ++ ']' :: rest) done =
      some (done.reverse ++ v :: vs, rest)
  | v, [], hvs, fuel + 1, hfuel, rest, done => by
    have hread := readValue?_compactChars v hvs.1 fuel (Nat.lt_succ_iff.1 hfuel) (']' :: rest)
      (closes_cons (by decide) _)
    rw [readItems?]
    simp only [compactItems, commaJoin, hread, skipGap_cons (c := ']') (by decide)]
    simp
  | v, w :: ws, hvs, fuel + 1, hfuel, rest, done => by
    have hlen : (commaJoin (compactItems (v :: w :: ws))).length =
        v.compactChars.length + 1 + (commaJoin (compactItems (w :: ws))).length := by
      simp only [compactItems, commaJoin, List.length_append, List.length_cons]
      omega
    have hread := readValue?_compactChars v hvs.1 fuel (by omega)
      (',' :: (commaJoin (compactItems (w :: ws)) ++ ']' :: rest)) (closes_cons (by decide) _)
    have hitems := readItems?_commaJoin w ws hvs.2 fuel (by omega) rest (v :: done)
    rw [readItems?]
    simp only [compactItems, commaJoin, List.append_assoc, List.cons_append] at hread hitems ⊢
    simp only [hread, skipGap_cons (c := ',') (by decide), hitems]
    simp

/-- The compact forms of the fields of an object read back up to its closing brace. -/
theorem readFields?_commaJoin : (k : String) → (v : Json) → (fs : List (String × Json)) →
    AreFieldsPlain ((k, v) :: fs) → (fuel : Nat) →
    (commaJoin (compactFields ((k, v) :: fs))).length < fuel → (rest : List Char) →
    (done : List (String × Json)) →
    readFields? fuel (commaJoin (compactFields ((k, v) :: fs)) ++ '\x7d' :: rest) done =
      some (done.reverse ++ (k, v) :: fs, rest)
  | k, v, [], hfs, fuel + 1, hfuel, rest, done => by
    have hlen : (commaJoin (compactFields [(k, v)])).length =
        (quote k).length + 1 + v.compactChars.length := by
      simp only [compactFields, commaJoin, List.length_append, List.length_cons]
      omega
    have hread := readValue?_compactChars v hfs.1 fuel (by omega) ('\x7d' :: rest)
      (closes_cons (by decide) _)
    simp only [compactFields, commaJoin]
    rw [readFields?_lastField (by omega) hread]
    simp
  | k, v, (l, w) :: fs, hfs, fuel + 1, hfuel, rest, done => by
    have hlen : (commaJoin (compactFields ((k, v) :: (l, w) :: fs))).length =
        (quote k).length + 1 + v.compactChars.length + 1 +
          (commaJoin (compactFields ((l, w) :: fs))).length := by
      simp only [compactFields, commaJoin, List.length_append, List.length_cons]
      omega
    have hread := readValue?_compactChars v hfs.1 fuel (by omega)
      (',' :: (commaJoin (compactFields ((l, w) :: fs)) ++ '\x7d' :: rest))
      (closes_cons (by decide) _)
    have hfields := readFields?_commaJoin l w fs hfs.2 fuel (by omega) rest ((k, v) :: done)
    have hjoin : commaJoin (compactFields ((k, v) :: (l, w) :: fs)) ++ '\x7d' :: rest =
        quote k ++ ':' :: v.compactChars ++
          ',' :: (commaJoin (compactFields ((l, w) :: fs)) ++ '\x7d' :: rest) := by
      simp only [compactFields, commaJoin, List.append_assoc, List.cons_append]
    rw [hjoin, readFields?_field (by omega) hread, hfields]
    simp

end

/-- The compact form of a plain value is the text of that value alone. -/
theorem read?_compact {v : Json} (hv : v.IsPlain) : read? v.compact = some v := by
  have hcs : v.compact.toList = v.compactChars := by simp [compact]
  have hread := readValue?_compactChars v hv (2 * v.compactChars.length + 2) (by omega) []
    (fun c hc => by cases hc)
  rw [List.append_nil] at hread
  simp only [read?, hcs, hread]
  rfl

end Json

end Lookalike
