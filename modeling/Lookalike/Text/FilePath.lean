/-! ### Paths of files

A path is made of bytes that need not be text. It is told by the text that its bytes make, in which
one sign stands for each run of bytes that begins a character and breaks off, and for each byte that
begins none. Paths with different bytes can so have the same text. -/

namespace Lookalike

/-- The sign for bytes that are no text. -/
def replacementSign : Char :=
  '\uFFFD'

/-- The first bytes of a character: the number that they make so far, the least and the greatest
byte that goes on with the character, and how many bytes follow that one. -/
structure PartialChar where
  value : Nat
  least : Nat
  greatest : Nat
  left : Nat

namespace PartialChar

/-- What a byte gives between two characters: it is a character, or it begins one, or neither. The
first byte bounds the second one so that no character is written with more bytes than it needs, and
that the numbers of characters are kept to. -/
def begin (byte : Nat) : List Char × Option PartialChar :=
  if byte < 0x80 then ([.ofNat byte], none)
  else if byte < 0xC2 then ([replacementSign], none)
  else if byte < 0xE0 then ([], some ⟨byte - 0xC0, 0x80, 0xBF, 0⟩)
  else if byte < 0xF0 then
    let least := if byte = 0xE0 then 0xA0 else 0x80
    let greatest := if byte = 0xED then 0x9F else 0xBF
    ([], some ⟨byte - 0xE0, least, greatest, 1⟩)
  else if byte < 0xF5 then
    let least := if byte = 0xF0 then 0x90 else 0x80
    let greatest := if byte = 0xF4 then 0x8F else 0xBF
    ([], some ⟨byte - 0xF0, least, greatest, 2⟩)
  else ([replacementSign], none)

/-- What the next byte gives. A byte that does not go on with the character breaks it off, and is
looked at again. -/
def next (p : PartialChar) (byte : Nat) : List Char × Option PartialChar :=
  if p.least ≤ byte ∧ byte ≤ p.greatest then
    let value := p.value * 0x40 + (byte - 0x80)
    match p.left with
    | 0 => ([.ofNat value], none)
    | left + 1 => ([], some ⟨value, 0x80, 0xBF, left⟩)
  else
    let (chars, p) := begin byte
    (replacementSign :: chars, p)

end PartialChar

/-- The characters that bytes make, after the first bytes of a character if one is begun. -/
def lossyChars : Option PartialChar → List UInt8 → List Char
  | none, [] => []
  | some _, [] => [replacementSign]
  | none, b :: rest =>
    let (chars, p) := PartialChar.begin b.toNat
    chars ++ lossyChars p rest
  | some p, b :: rest =>
    let (chars, p) := p.next b.toNat
    chars ++ lossyChars p rest

/-- The path of a file. -/
structure FilePath where
  bytes : List UInt8
  deriving DecidableEq

namespace FilePath

/-- The path that a text makes. -/
def ofText (s : String) : FilePath :=
  ⟨s.toList.flatMap String.utf8EncodeChar⟩

/-- The text that tells a path. -/
def text (p : FilePath) : String :=
  .ofList (lossyChars none p.bytes)

/-- The text of a path whose bytes are text. -/
def text? (p : FilePath) : Option String :=
  if ofText p.text = p then some p.text else none

instance : Coe String FilePath where
  coe := ofText

/-- What is known of texts is known of paths by their texts. -/
instance {α : Type} : Coe (String → α) (FilePath → α) where
  coe f p := f p.text

end FilePath

end Lookalike
