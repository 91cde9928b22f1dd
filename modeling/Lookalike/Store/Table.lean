import Lookalike.Decimal.Reading
import Lookalike.Json.Printer
import Lookalike.Json.Reader
import Lookalike.Record.Format
import Lookalike.Store.Basic

/-! ### Records in a table

A table keeps one row for each record. A cell holds a number, a text or nothing, and a column
brings what is put into it into its own form where it can. The signature of a unit and the number
of its lines are not kept: they are made anew from a row, and a row that does not make a record
makes the whole answer fail. -/

namespace Lookalike

open Python

/-- The content of a cell. -/
inductive Cell where
  | null
  | integer (n : Int)
  | real (x : Float)
  | text (s : String)

/-- The columns of a table besides the one for the name. -/
inductive Column where
  | fingerprint
  | name
  | kind
  | file
  | firstLine
  | lastLine
  | source
  | features
  | registeredAt
  deriving DecidableEq

namespace Column

/-- All columns. -/
def all : List Column :=
  [.fingerprint, .name, .kind, .file, .firstLine, .lastLine, .source, .features, .registeredAt]

/-- The title of a column. -/
def title : Column → String
  | .fingerprint => "fingerprint"
  | .name => "name"
  | .kind => "kind"
  | .file => "file_path"
  | .firstLine => "start_line"
  | .lastLine => "end_line"
  | .source => "source"
  | .features => "features"
  | .registeredAt => "registered_at"

/-- Whether a column prefers numbers to texts. -/
def isNumeric : Column → Bool
  | .fingerprint => true
  | .firstLine => true
  | .lastLine => true
  | .registeredAt => true
  | _ => false

end Column

namespace Cell

/-- The text of a cell. -/
def text? : Cell → Option String
  | .text s => some s
  | _ => none

/-- The integer in a cell. -/
def integer? : Cell → Option Int
  | .integer n => some n
  | _ => none

/-- The number in a cell, if it is a natural number below `2 ^ 32`. -/
def lineNumber? : Cell → Option Nat
  | .integer n => if 0 ≤ n ∧ n < UInt32.size then some n.toNat else none
  | _ => none

/-- The text in a cell that may be empty. -/
def nullable? : Cell → Option (Option String)
  | .null => some none
  | .text s => some (some s)
  | _ => none

/-- The integer of sixty-four bits that a text writes. -/
def integerOfText? (s : String) : Option Int :=
  let (negative, digits) := Reading.sign s.toList
  if digits.isEmpty || !digits.all Reading.isDigit then none
  else
    let m : Int := Reading.ofDigits digits
    let n := if negative then -m else m
    if -(twoTo 63 : Int) ≤ n ∧ n < twoTo 63 then some n else none

/-- What becomes of a value in a column. -/
def inColumn (c : Column) (v : Cell) : Cell :=
  match v with
  | .null => .null
  | .integer n => if c.isNumeric then .integer n else .text (toString n)
  | .real x =>
    if c.isNumeric then
      if x == x.floor && x.abs < 9007199254740992.0 then .integer x.toInt64.toInt else .real x
    else .text (((Shortest.write? x).map fun (_, w) => w.text).getD "")
  | .text s =>
    if c.isNumeric then
      match integerOfText? (Text.trim s) with
      | some n => .integer n
      | none => .text s
    else .text s

/-- The order of cells: empty ones, numbers, texts. -/
def le : Cell → Cell → Bool
  | .null, _ => true
  | _, .null => false
  | .text s, .text t => decide (s ≤ t)
  | .text _, _ => false
  | _, .text _ => true
  | .integer m, .integer n => m ≤ n
  | .integer m, .real y => decide (Float.ofInt m ≤ y)
  | .real x, .integer n => decide (x ≤ Float.ofInt n)
  | .real x, .real y => decide (x ≤ y)

end Cell

/-- A row: a cell for each column. -/
abbrev Row := Column → Cell

namespace Row

/-- The row of a record. -/
def ofRecord (r : Record) : Row
  | .fingerprint => .integer r.fingerprint.toSigned
  | .name => .text r.unit.name
  | .kind => .text r.unit.kind.name
  | .file => r.unit.file.elim .null .text
  | .firstLine => .integer r.unit.firstLine
  | .lastLine => .integer r.unit.lastLine
  | .source => .text r.unit.source
  | .features => .text r.unit.features.toJson.compact
  | .registeredAt => .integer r.registeredAt

/-- The record of a row under its name. -/
def toRecord? (id : String) (row : Row) : Option Record := do
  let kind ← (row .kind).text?.bind UnitKind.ofName?
  let features ← ((row .features).text?.bind Json.read?).bind Features.ofJson?
  let firstLine ← (row .firstLine).lineNumber?
  let lastLine ← (row .lastLine).lineNumber?
  let fingerprint ← (row .fingerprint).integer?
  let name ← (row .name).text?
  let source ← (row .source).text?
  let file ← (row .file).nullable?
  let registeredAt ← (row .registeredAt).integer?
  some ⟨id, .ofSigned fingerprint,
    ⟨name, kind, source, firstLine, lastLine, file, features, features.signature⟩,
    registeredAt, lineSpan firstLine lastLine⟩

/-- Whether a row belongs to a file. -/
def isFrom (row : Row) (file : String) : Bool :=
  (row .file).text? = some file

/-- The row with another value in a column. -/
def set (row : Row) (c : Column) (v : Cell) : Row :=
  fun d => if d = c then v.inColumn c else row d

end Row

/-- A table: its rows by the names of their records. -/
structure Table where
  rows : TextMap Row

namespace Table

/-- The table without rows. -/
def empty : Table :=
  ⟨.empty⟩

/-- The records of some rows, if each of them makes one. -/
def records? (rows : List (String × Row)) : Except StoreError (List Record) :=
  match rows.mapM fun (entry : String × Row) => entry.2.toRecord? entry.1 with
  | some records => .ok records
  | none => .error .database

/-- The table with a row for a record, unless there is one of its name. -/
def insert (t : Table) (r : Record) : Bool × Table :=
  if t.rows.contains r.id then (false, t) else (true, ⟨t.rows.insert r.id (.ofRecord r)⟩)

/-- The record of a given name. -/
def get? (t : Table) (id : String) : Except StoreError (Option Record) :=
  match t.rows.get? id with
  | none => .ok none
  | some row =>
    match row.toRecord? id with
    | some r => .ok (some r)
    | none => .error .database

/-- The table without the rows of a file, and how many there were. -/
def removeFile (t : Table) (file : String) : Nat × Table :=
  let kept := t.rows.filter fun _ row => !row.isFrom file
  (t.rows.size - kept.size, ⟨kept⟩)

/-- The number of rows. -/
def count (t : Table) : Nat :=
  t.rows.size

/-- The records of a file in the order of their first lines, and of their names within a line. -/
def ofFile (t : Table) (file : String) : Except StoreError (List Record) :=
  let rows := t.rows.entries.filter fun (_, row) => row.isFrom file
  records? (rows.mergeSort fun x y => (x.2 .firstLine).le (y.2 .firstLine))

/-- The table with another value in a column of one row, and how many rows there are of that
name. Only the column for the file may be empty. -/
def update (t : Table) (id : String) (c : Column) (v : Cell) : Except StoreError (Nat × Table) :=
  match t.rows.get? id, v with
  | none, _ => .ok (0, t)
  | some row, .null =>
    if c = .file then .ok (1, ⟨t.rows.insert id (row.set c .null)⟩) else .error .database
  | some row, v => .ok (1, ⟨t.rows.insert id (row.set c v)⟩)

/-- The table with another name for one row, and how many rows there are of the old name. No two
rows have one name. -/
def rename (t : Table) (id new : String) : Except StoreError (Nat × Table) :=
  match t.rows.get? id with
  | none => .ok (0, t)
  | some row =>
    let others := t.rows.filter fun name _ => name ≠ id
    if others.contains new then .error .database else .ok (1, ⟨others.insert new row⟩)

instance : RecordStore Table where
  insert t r := .ok (t.insert r)
  all t := records? t.rows.entries
  get? := get?
  removeFile t file := .ok (t.removeFile file)
  clear _ := .ok empty

end Table

end Lookalike
