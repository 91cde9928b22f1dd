import Lookalike.Fingerprint.MetricTree
import Lookalike.Settings
import Lookalike.Store.Basic
import Lookalike.Text.FilePath

/-! ### The registry

A registry holds records by their names and by their fingerprints, and keeps them in a store. A
record comes in only after the store has taken it, and goes only after the store has let it go, so
that a store that fails leaves all three in agreement. -/

namespace Lookalike

open Python

/-- Why a file cannot be read: its bytes are no text, or the reason that is given. -/
inductive ReadError where
  | undecodable
  | failed (reason : String)
  deriving DecidableEq

/-- A way to the texts of files: the text of the file at a path, and whether a path leads to
something. -/
structure SourceReader where
  read : FilePath → Except ReadError String
  has : FilePath → Bool

/-- Why a request to a registry fails. -/
inductive RegistryError where
  | store (cause : StoreError)
  | reading (reason : String)
  | cancelled
  deriving DecidableEq

/-- The text of an error, as far as it is known. -/
def RegistryError.message? : RegistryError → Option String
  | .store cause => cause.message?.map ("Store error: " ++ ·)
  | .reading reason => some ("IO error: " ++ reason)
  | .cancelled => some "Operation cancelled"

/-- How much was passed over: units with too many lines, units that were left out, and texts that
cannot be read as programs. -/
structure Skips where
  oversized : Nat
  filtered : Nat
  unparsable : Nat
  deriving DecidableEq

/-- Nothing was passed over. -/
def Skips.none : Skips :=
  ⟨0, 0, 0⟩

/-- A registry of records. -/
structure Registry (σ : Type) where
  store : σ
  settings : Settings
  records : TextMap Record
  index : MetricTree Record
  skips : Skips

/-- What came in from a file, and what was passed over. -/
structure Registration where
  registered : List Record
  oversized : Nat
  filtered : Nat
  unparsable : Nat

/-- The registration of nothing. -/
def Registration.none : Registration :=
  ⟨[], 0, 0, 0⟩

namespace Registry

variable {σ : Type}

/-- The answer to a request, and the registry after it. -/
abbrev Reply (σ α : Type) := Except RegistryError α × Registry σ

/-- The registry without records over a store. -/
def new (store : σ) (settings : Settings) : Registry σ :=
  ⟨store, settings, .empty, .empty, .none⟩

/-- The registry with one more record, which its store holds already. -/
def load (r : Registry σ) (x : Record) : Registry σ :=
  { r with index := r.index.insert x.fingerprint x, records := r.records.insert x.id x }

/-- The number of records. -/
def size (r : Registry σ) : Nat :=
  r.records.size

/-- The records in the order of their names. -/
def all (r : Registry σ) : List Record :=
  r.records.values

/-- The record with a given name. -/
def get? (r : Registry σ) (id : String) : Option Record :=
  r.records.get? id

/-- Whether the index is sound and has as many items as there are records. -/
def isSound (r : Registry σ) : Bool :=
  r.index.isSound && r.index.size = r.records.size

variable [RecordStore σ]

/-! ### Opening -/

/-- Whether a record comes from a file that is not there any more. -/
def isStale (reader : SourceReader) (x : Record) : Bool :=
  x.file.any fun file => !reader.has (.ofText file)

/-- The store without the records of some files. -/
def dropFiles : σ → List String → Except StoreError σ
  | s, [] => .ok s
  | s, file :: rest => do
    let (_, s) ← RecordStore.removeFile s file
    dropFiles s rest

/-- The registry over a store with records. Records of files that are not there any more are
dropped, from the store too. -/
def openStore (store : σ) (settings : Settings) (reader : SourceReader) :
    Except StoreError (Registry σ) := do
  let records ← RecordStore.all store
  let stale := TextSet.ofList ((records.filter (isStale reader)).filterMap (·.file))
  let r := (records.filter (!isStale reader ·)).foldl load (new store settings)
  let store ← dropFiles store stale.items
  .ok { r with store := store }

/-! ### Coming in -/

/-- A unit comes in at a time; the record that is there already stays. -/
def registerUnit (r : Registry σ) (now : Int) (u : CodeUnit) : Reply σ Record :=
  match r.records.get? u.contentHash with
  | some x => (.ok x, r)
  | none =>
    let x := Record.ofUnit now u
    match RecordStore.insert r.store x with
    | .error e => (.error (.store e), r)
    | .ok (_, store) => (.ok x, load { r with store := store } x)

/-- A text was passed over. -/
def skipUnparsable (r : Registry σ) : Registry σ :=
  { r with skips := { r.skips with unparsable := r.skips.unparsable + 1 } }

/-- A unit was passed over for its length. -/
def skipOversized (r : Registry σ) : Registry σ :=
  { r with skips := { r.skips with oversized := r.skips.oversized + 1 } }

/-- One unit of a text comes in: the first of a given name, or else the one that stands for the
text. -/
def register (r : Registry σ) (now : Int) (source : String) (name file : Option String) :
    Reply σ (Option Record) :=
  match CodeUnit.extract source file with
  | .error _ => (.ok none, r.skipUnparsable)
  | .ok units =>
    let chosen := match name with
      | some name => units.find? (·.name = name)
      | none => CodeUnit.primary? units
    match chosen with
    | none => (.ok none, r)
    | some u =>
      if r.settings.isOversized u then (.ok none, r.skipOversized)
      else
        let (answer, r) := r.registerUnit now u
        (answer.map some, r)

/-- The registry without the records of a file, over a store that has let them go. -/
def dropFile (r : Registry σ) (file : String) (store : σ) : Registry σ :=
  let kept := r.records.filter fun _ x => !x.isFrom file
  let index := if kept.size = r.records.size then r.index else r.index.filter (!·.isFrom file)
  { r with store := store, records := kept, index := index }

/-- The records of a file go; the number is that of the store or of the registry, whichever is
greater. -/
def removeFile (r : Registry σ) (file : String) : Reply σ Nat :=
  match RecordStore.removeFile r.store file with
  | .error e => (.error (.store e), r)
  | .ok (removed, store) =>
    let left := r.dropFile file store
    (.ok (max removed (r.size - left.size)), left)

/-- The units of a file come in one after another, unless they are passed over. -/
def registerUnits (now : Int) : Registry σ → List CodeUnit → Registration → Reply σ Registration
  | r, [], done => (.ok done, r)
  | r, u :: rest, done =>
    if r.settings.isOversized u then
      registerUnits now r rest { done with oversized := done.oversized + 1 }
    else if r.settings.filtersOut u then
      registerUnits now r rest { done with filtered := done.filtered + 1 }
    else
      match r.registerUnit now u with
      | (.error e, r) => (.error e, r)
      | (.ok x, r) => registerUnits now r rest { done with registered := done.registered ++ [x] }

/-- The units of a text come in for a file whose records have gone. -/
def registerText (r : Registry σ) (now : Int) (file source : String) : Reply σ Registration :=
  match CodeUnit.extract source (some file) with
  | .error _ => (.ok { Registration.none with unparsable := 1 }, r.skipUnparsable)
  | .ok units =>
    match registerUnits now r units .none with
    | (.error e, r) => (.error e, r)
    | (.ok done, r) =>
      let skips :=
        { r.skips with
          oversized := r.skips.oversized + done.oversized,
          filtered := r.skips.filtered + done.filtered }
      (.ok done, { r with skips := skips })

/-- All units of the file at a path come in, in the place of those that came from it before. The
file is read by its path, but records know it by the text of the path. A file whose bytes are no
text loses its records and is passed over; one that cannot be read for another reason keeps them. -/
def registerFile (r : Registry σ) (now : Int) (path : FilePath) (reader : SourceReader) :
    Reply σ Registration :=
  match reader.read path with
  | .error (.failed reason) => (.error (.reading reason), r)
  | .error .undecodable =>
    match r.removeFile path.text with
    | (.error e, r) => (.error e, r)
    | (.ok _, r) => (.ok { Registration.none with unparsable := 1 }, r.skipUnparsable)
  | .ok source =>
    match r.removeFile path.text with
    | (.error e, r) => (.error e, r)
    | (.ok _, r) => r.registerText now path.text source

/-- All records go. -/
def clear (r : Registry σ) : Reply σ Unit :=
  match RecordStore.clear r.store with
  | .error e => (.error (.store e), r)
  | .ok store => (.ok (), new store r.settings)

end Registry

/-! ### Statistics -/

/-- The numbers of records by their kinds, and of the files that they come from. -/
structure Statistics where
  units : Nat
  files : Nat
  functions : Nat
  classes : Nat
  modules : Nat
  searchRadius : Nat
  skips : Skips

/-- The statistics of a registry. -/
def Registry.statistics {σ : Type} (r : Registry σ) : Statistics :=
  let ofKind (kind : UnitKind) : Nat := r.all.countP (·.unit.kind = kind)
  { units := r.size, files := (TextSet.ofList (r.all.filterMap (·.file))).size,
    functions := ofKind .function, classes := ofKind .class, modules := ofKind .module,
    searchRadius := r.settings.searchRadius, skips := r.skips }

end Lookalike
