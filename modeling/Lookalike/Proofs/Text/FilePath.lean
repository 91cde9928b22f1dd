import Mathlib.Tactic.Lemma
import Mathlib.Tactic.Common
import Lookalike.Text.FilePath

/-! ### Texts as paths

The bytes of a character make that character again, whatever follows, so that a text is told by the
text of its path. -/

namespace Lookalike

namespace PartialChar

variable (value : Nat)

/-- The first byte of a character of two bytes. -/
lemma begin_add_192 (hleast : 2 ≤ value) (hgreatest : value < 32) :
    begin (value + 192) = ([], some ⟨value, 0x80, 0xBF, 0⟩) := by
  rw [begin, if_neg (by omega), if_neg (by omega), if_pos (by omega), Nat.add_sub_cancel]

/-- The first byte of a character of three bytes. The bounds of the second byte keep out the numbers
that would fit into two bytes, and those that are no characters. -/
lemma begin_add_224 (h : value < 16) :
    begin (value + 224) = ([], some ⟨value, if value + 224 = 0xE0 then 0xA0 else 0x80,
      if value + 224 = 0xED then 0x9F else 0xBF, 1⟩) := by
  rw [begin, if_neg (by omega), if_neg (by omega), if_neg (by omega), if_pos (by omega),
    Nat.add_sub_cancel]

/-- The first byte of a character of four bytes. The bounds of the second byte keep out the numbers
that would fit into three bytes, and those that are too great. -/
lemma begin_add_240 (h : value < 5) :
    begin (value + 240) = ([], some ⟨value, if value + 240 = 0xF0 then 0x90 else 0x80,
      if value + 240 = 0xF4 then 0x8F else 0xBF, 2⟩) := by
  rw [begin, if_neg (by omega), if_neg (by omega), if_neg (by omega), if_neg (by omega),
    if_pos (by omega), Nat.add_sub_cancel]

end PartialChar

variable {byte : Nat} (rest : List UInt8)

/-- The first byte of a character begins it. -/
lemma lossyChars_none_ofNat (h : byte < 256) {p : PartialChar}
    (hbegin : PartialChar.begin byte = ([], some p)) :
    lossyChars none (UInt8.ofNat byte :: rest) = lossyChars (some p) rest := by
  rw [lossyChars, UInt8.toNat_ofNat_of_lt' h, hbegin]
  rfl

/-- A byte within the bounds goes on with a character of which more bytes are to come. -/
lemma lossyChars_some_succ (value : Nat) {least greatest : Nat} (left : Nat) (h : byte < 256)
    (hleast : least ≤ byte) (hgreatest : byte ≤ greatest) :
    lossyChars (some ⟨value, least, greatest, left + 1⟩) (UInt8.ofNat byte :: rest) =
      lossyChars (some ⟨value * 0x40 + (byte - 0x80), 0x80, 0xBF, left⟩) rest := by
  rw [lossyChars, UInt8.toNat_ofNat_of_lt' h, PartialChar.next, if_pos ⟨hleast, hgreatest⟩]
  rfl

/-- The last byte of a character ends it. -/
lemma lossyChars_some_zero (value : Nat) {least greatest : Nat} (h : byte < 256)
    (hleast : least ≤ byte) (hgreatest : byte ≤ greatest) :
    lossyChars (some ⟨value, least, greatest, 0⟩) (UInt8.ofNat byte :: rest) =
      .ofNat (value * 0x40 + (byte - 0x80)) :: lossyChars none rest := by
  rw [lossyChars, UInt8.toNat_ofNat_of_lt' h, PartialChar.next, if_pos ⟨hleast, hgreatest⟩]
  rfl

/-- The bytes of a character make this character again. -/
lemma lossyChars_utf8EncodeChar (c : Char) :
    lossyChars none (String.utf8EncodeChar c ++ rest) = c :: lossyChars none rest := by
  have hvalid : c.toNat < 0xD800 ∨ 0xDFFF < c.toNat ∧ c.toNat < 0x110000 := c.valid
  have hchar : Char.ofNat c.toNat = c := Char.ofNat_toNat c
  have hval : c.val.toNat = c.toNat := rfl
  generalize c.toNat = n at hvalid hchar hval
  unfold String.utf8EncodeChar
  simp only [hval]
  -- Characters of one, two, three and four bytes. The bounds of the second byte are met because the
  -- number needs all its bytes and is that of a character.
  split
  · rename_i hn
    have hbegin : PartialChar.begin n = ([.ofNat n], none) := by
      rw [PartialChar.begin, if_pos (by omega)]
    rw [List.singleton_append, lossyChars, UInt8.toNat_ofNat_of_lt' (by change n < 256; omega),
      hbegin, hchar]
    rfl
  · split
    · have hbegin := PartialChar.begin_add_192 (n / 64 % 32) (by omega) (by omega)
      have hnumber : n / 64 % 32 * 0x40 + (n % 64 + 128 - 0x80) = n := by omega
      rw [List.cons_append, lossyChars_none_ofNat _ (by omega) hbegin, List.singleton_append,
        lossyChars_some_zero _ _ (by omega) (by omega) (by omega), hnumber, hchar]
    · split
      · have hbegin := PartialChar.begin_add_224 (n / 4096 % 16) (by omega)
        have hnumber : (n / 4096 % 16 * 0x40 + (n / 64 % 64 + 128 - 0x80)) * 0x40 +
            (n % 64 + 128 - 0x80) = n := by omega
        rw [List.cons_append, lossyChars_none_ofNat _ (by omega) hbegin, List.cons_append,
          lossyChars_some_succ _ _ _ (by omega) (by split <;> omega) (by split <;> omega),
          List.singleton_append, lossyChars_some_zero _ _ (by omega) (by omega) (by omega), hnumber,
          hchar]
      · have hbegin := PartialChar.begin_add_240 (n / 262144 % 8) (by omega)
        have hnumber : ((n / 262144 % 8 * 0x40 + (n / 4096 % 64 + 128 - 0x80)) * 0x40 +
            (n / 64 % 64 + 128 - 0x80)) * 0x40 + (n % 64 + 128 - 0x80) = n := by omega
        rw [List.cons_append, lossyChars_none_ofNat _ (by omega) hbegin, List.cons_append,
          lossyChars_some_succ _ _ _ (by omega) (by split <;> omega) (by split <;> omega),
          List.cons_append, lossyChars_some_succ _ _ _ (by omega) (by omega) (by omega),
          List.singleton_append, lossyChars_some_zero _ _ (by omega) (by omega) (by omega), hnumber,
          hchar]

namespace FilePath

/-- A text is told by the text of its path. -/
@[simp] theorem text_ofText (s : String) : (ofText s).text = s := by
  have hchars (cs : List Char) : lossyChars none (cs.flatMap String.utf8EncodeChar) = cs := by
    induction cs with
    | nil => rfl
    | cons c cs ih => rw [List.flatMap_cons, lossyChars_utf8EncodeChar, ih]
  rw [text, ofText, hchars, String.ofList_toList]

/-- The bytes of a text are text. -/
@[simp] theorem text?_ofText (s : String) : (ofText s).text? = some s := by
  rw [text?, text_ofText, if_pos rfl]

end FilePath

end Lookalike
