import Lookalike.Fingerprint.Basic
import Lookalike.Python.CodeUnit

/-! ### Records

A record is a unit of code as it is kept: under the digest of its text, with its fingerprint, the
time at which it came in, and the number of its lines. -/

namespace Lookalike

open Python

/-- A unit of code with what is known about it. -/
structure Record where
  id : String
  fingerprint : Fingerprint
  unit : CodeUnit
  registeredAt : Int
  lines : Nat
  deriving DecidableEq

/-- The fingerprint of features. -/
def Fingerprint.ofFeatures (f : Features) : Fingerprint :=
  .ofTokens f.fingerprintTokens

namespace Record

/-- The record of a unit that comes in at a time. -/
def ofUnit (now : Int) (u : CodeUnit) : Record :=
  ⟨u.contentHash, .ofFeatures u.features, u, now, u.lineCount⟩

/-- The file that a record comes from. -/
def file (r : Record) : Option String :=
  r.unit.file

/-- Whether a record comes from a given file. -/
def isFrom (r : Record) (file : String) : Bool :=
  r.file = some file

/-- Whether two records are versions of one unit: of one kind, with one name, in one file. -/
def sameIdentity (a b : Record) : Bool :=
  a.unit.file = b.unit.file && a.unit.kind = b.unit.kind && a.unit.name = b.unit.name

end Record

end Lookalike
