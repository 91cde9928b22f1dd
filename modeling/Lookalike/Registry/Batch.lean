import Lookalike.Registry.Basic

/-! ### Many files at once

The files of a batch come in one after another. A file that cannot be read is counted and passed
over; a store that fails ends the batch. -/

namespace Lookalike

/-- How far a batch is: the files that were begun, the units that came in, what was passed over, and
the files that could not be read. -/
structure Tally where
  begun : Nat
  registered : Nat
  oversized : Nat
  filtered : Nat
  unparsable : Nat
  unreadable : Nat
  deriving DecidableEq

namespace Tally

/-- The tally before the first file. -/
def zero : Tally :=
  ⟨0, 0, 0, 0, 0, 0⟩

/-- The tally when another file is begun. -/
def start (t : Tally) : Tally :=
  { t with begun := t.begun + 1 }

/-- The tally after a file has come in. -/
def add (t : Tally) (g : Registration) : Tally :=
  { t with
    registered := t.registered + g.registered.length,
    oversized := t.oversized + g.oversized,
    filtered := t.filtered + g.filtered,
    unparsable := t.unparsable + g.unparsable }

/-- The tally after a file that could not be read. -/
def addUnreadable (t : Tally) : Tally :=
  { t with unreadable := t.unreadable + 1 }

/-- How much was passed over. -/
def skipped (t : Tally) : Nat :=
  t.oversized + t.filtered + t.unparsable

end Tally

/-- The end of a batch: its tally, and why it ended early if it did. -/
structure Batch where
  tally : Tally
  failure : Option RegistryError

namespace Registry

variable {σ : Type} [RecordStore σ]

/-- Files come in one after another, counted on top of a tally. -/
def registerFilesFrom (now : Int) (reader : SourceReader) :
    Tally → List FilePath → Registry σ → Batch × Registry σ
  | tally, [], r => (⟨tally, none⟩, r)
  | tally, path :: rest, r =>
    match r.registerFile now path reader with
    | (.ok g, r) => registerFilesFrom now reader (tally.start.add g) rest r
    | (.error (.reading _), r) => registerFilesFrom now reader tally.start.addUnreadable rest r
    | (.error e, r) => (⟨tally.start, some e⟩, r)

/-- Files come in one after another. -/
def registerFiles (r : Registry σ) (now : Int) (paths : List FilePath) (reader : SourceReader) :
    Batch × Registry σ :=
  registerFilesFrom now reader .zero paths r

end Registry

end Lookalike
