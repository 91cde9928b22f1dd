import Lookalike.Digest.Sha256

/-! ### Fingerprints

A fingerprint is sixty-four bits. Each token of a list votes on every bit by its digest, and the
majority decides; similar lists have fingerprints that differ on few bits. The number of these is
the distance. -/

namespace Lookalike

/-- Sixty-four bits that stand for a list of tokens. -/
structure Fingerprint where
  bits : UInt64
  deriving DecidableEq

namespace Fingerprint

/-- The bit of a word at a position. -/
def bitAt (word : UInt64) (i : Nat) : Bool :=
  (word >>> UInt64.ofNat i) &&& 1 == 1

/-- The positions of bits. -/
def positions : List Nat :=
  List.range 64

/-- The word whose bits a test gives. -/
def wordOf (test : Nat → Bool) : UInt64 :=
  positions.foldl (fun word i => if test i then word ||| (1 <<< UInt64.ofNat i) else word) 0

/-- The number of bits on which two fingerprints differ. -/
def distance (a b : Fingerprint) : Nat :=
  positions.countP fun i => bitAt (a.bits ^^^ b.bits) i

/-- The balance of the votes of some words on a bit. -/
def votes (words : List UInt64) (i : Nat) : Int :=
  words.foldl (fun balance word => if bitAt word i then balance + 1 else balance - 1) 0

/-- The fingerprint of a list of tokens: a bit is set if the votes for it prevail. -/
def ofTokens (tokens : List String) : Fingerprint :=
  let words := tokens.map Sha256.leading64
  ⟨wordOf fun i => 0 < votes words i⟩

/-- The bits read as a number with a sign. -/
def toSigned (f : Fingerprint) : Int :=
  f.bits.toInt64.toInt

/-- The fingerprint of a number with a sign. -/
def ofSigned (n : Int) : Fingerprint :=
  ⟨UInt64.ofInt n⟩

/-- Sixteen hexadecimal digits. -/
def hex (f : Fingerprint) : String :=
  String.ofList (Sha256.hex 16 f.bits.toNat)

end Fingerprint

end Lookalike
