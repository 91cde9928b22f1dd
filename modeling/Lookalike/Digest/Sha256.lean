/-! ### SHA-256

The digest of a byte sequence. The message is padded to whole blocks of sixty-four bytes, each
block is spread over sixty-four schedule words, and sixty-four rounds mix them into the eight
words of the state. -/

namespace Lookalike.Sha256

/-- The eight words of the state. -/
structure State where
  a : UInt32
  b : UInt32
  c : UInt32
  d : UInt32
  e : UInt32
  f : UInt32
  g : UInt32
  h : UInt32

/-- The state before the first block. -/
def initial : State :=
  ⟨0x6a09e667, 0xbb67ae85, 0x3c6ef372, 0xa54ff53a, 0x510e527f, 0x9b05688c, 0x1f83d9ab, 0x5be0cd19⟩

/-- The word that each round adds. -/
def roundWords : Array UInt32 :=
  #[0x428a2f98, 0x71374491, 0xb5c0fbcf, 0xe9b5dba5, 0x3956c25b, 0x59f111f1, 0x923f82a4, 0xab1c5ed5,
    0xd807aa98, 0x12835b01, 0x243185be, 0x550c7dc3, 0x72be5d74, 0x80deb1fe, 0x9bdc06a7, 0xc19bf174,
    0xe49b69c1, 0xefbe4786, 0x0fc19dc6, 0x240ca1cc, 0x2de92c6f, 0x4a7484aa, 0x5cb0a9dc, 0x76f988da,
    0x983e5152, 0xa831c66d, 0xb00327c8, 0xbf597fc7, 0xc6e00bf3, 0xd5a79147, 0x06ca6351, 0x14292967,
    0x27b70a85, 0x2e1b2138, 0x4d2c6dfc, 0x53380d13, 0x650a7354, 0x766a0abb, 0x81c2c92e, 0x92722c85,
    0xa2bfe8a1, 0xa81a664b, 0xc24b8b70, 0xc76c51a3, 0xd192e819, 0xd6990624, 0xf40e3585, 0x106aa070,
    0x19a4c116, 0x1e376c08, 0x2748774c, 0x34b0bcb5, 0x391c0cb3, 0x4ed8aa4a, 0x5b9cca4f, 0x682e6ff3,
    0x748f82ee, 0x78a5636f, 0x84c87814, 0x8cc70208, 0x90befffa, 0xa4506ceb, 0xbef9a3f7, 0xc67178f2]

/-- Rotation to the right. -/
def rotate (x : UInt32) (n : UInt32) : UInt32 :=
  (x >>> n) ||| (x <<< (32 - n))

/-- The first mixing of schedule words. -/
def lowSigma0 (x : UInt32) : UInt32 :=
  rotate x 7 ^^^ rotate x 18 ^^^ (x >>> 3)

/-- The second mixing of schedule words. -/
def lowSigma1 (x : UInt32) : UInt32 :=
  rotate x 17 ^^^ rotate x 19 ^^^ (x >>> 10)

/-- The mixing of the first state word. -/
def highSigma0 (x : UInt32) : UInt32 :=
  rotate x 2 ^^^ rotate x 13 ^^^ rotate x 22

/-- The mixing of the fifth state word. -/
def highSigma1 (x : UInt32) : UInt32 :=
  rotate x 6 ^^^ rotate x 11 ^^^ rotate x 25

/-- The number of zero bytes between the closing bit and the length. -/
def paddingZeros (size : Nat) : Nat :=
  (119 - size % 64) % 64

/-- The bit length of a message as eight bytes, the most significant first. -/
def lengthBytes (size : Nat) : List UInt8 :=
  (List.range 8).map fun i => UInt8.ofNat ((size * 8) >>> (8 * (7 - i)))

/-- A message padded to whole blocks. -/
def pad (message : ByteArray) : ByteArray :=
  let closed := message.push 0x80
  let zeros := (List.range (paddingZeros message.size)).foldl (fun bytes _ => bytes.push 0) closed
  (lengthBytes message.size).foldl ByteArray.push zeros

/-- The byte at a position, zero beyond the end. -/
def byteAt (bytes : ByteArray) (i : Nat) : UInt32 :=
  if h : i < bytes.size then bytes[i].toUInt32 else 0

/-- Four bytes as one word, the most significant first. -/
def wordAt (bytes : ByteArray) (i : Nat) : UInt32 :=
  (byteAt bytes i <<< 24) ||| (byteAt bytes (i + 1) <<< 16) ||| (byteAt bytes (i + 2) <<< 8) |||
    byteAt bytes (i + 3)

/-- One more word of the schedule. -/
def extend (words : Array UInt32) : Array UInt32 :=
  let n := words.size
  words.push (lowSigma1 (words.getD (n - 2) 0) + words.getD (n - 7) 0 +
    lowSigma0 (words.getD (n - 15) 0) + words.getD (n - 16) 0)

/-- The schedule of the block that starts at a position. -/
def schedule (bytes : ByteArray) (start : Nat) : Array UInt32 :=
  let input := (List.range 16).foldl (fun words i => words.push (wordAt bytes (start + 4 * i))) #[]
  (List.range 48).foldl (fun words _ => extend words) input

/-- One round. -/
def round (words : Array UInt32) (s : State) (i : Nat) : State :=
  let choice := (s.e &&& s.f) ^^^ (~~~ s.e &&& s.g)
  let t1 := s.h + highSigma1 s.e + choice + roundWords.getD i 0 + words.getD i 0
  let majority := (s.a &&& s.b) ^^^ (s.a &&& s.c) ^^^ (s.b &&& s.c)
  let t2 := highSigma0 s.a + majority
  ⟨t1 + t2, s.a, s.b, s.c, s.d + t1, s.e, s.f, s.g⟩

/-- The state after one block. -/
def compress (bytes : ByteArray) (s : State) (block : Nat) : State :=
  let words := schedule bytes (64 * block)
  let r := (List.range 64).foldl (round words) s
  ⟨s.a + r.a, s.b + r.b, s.c + r.c, s.d + r.d, s.e + r.e, s.f + r.f, s.g + r.g, s.h + r.h⟩

/-- The state after the whole message. -/
def digest (message : ByteArray) : State :=
  let bytes := pad message
  (List.range (bytes.size / 64)).foldl (compress bytes) initial

/-- The words of the state in order. -/
def State.words (s : State) : List UInt32 :=
  [s.a, s.b, s.c, s.d, s.e, s.f, s.g, s.h]

/-- A hexadecimal digit in lower case. -/
def hexDigit (n : Nat) : Char :=
  Char.ofNat (if n < 10 then 48 + n else 87 + n)

/-- A number in `places` lower-case hexadecimal digits. -/
def hex (places n : Nat) : List Char :=
  (List.range places).map fun i => hexDigit ((n >>> (4 * (places - 1 - i))) % 16)

/-- The digest of a text in lower-case hexadecimal. -/
def ofText (s : String) : String :=
  String.ofList ((digest s.toUTF8).words.flatMap fun w => hex 8 w.toNat)

/-- The first eight bytes of the digest of a text, as one number with the first byte on top. -/
def leading64 (s : String) : UInt64 :=
  let d := digest s.toUTF8
  (d.a.toUInt64 <<< 32) ||| d.b.toUInt64

end Lookalike.Sha256
