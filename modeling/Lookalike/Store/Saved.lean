import Lookalike.Json.Number
import Lookalike.Store.Table

/-! ### Tables in files

A table is kept in a file as a heading and one line for each row, which is an array of the name of
its record and the cells of its columns. -/

namespace Lookalike

namespace Cell

/-- A cell as a value. -/
def toJson : Cell → Json
  | .null => .null
  | .integer n => .ofInt n
  | .real x => .ofFloat x
  | .text s => .text s

/-- The cell that a value stands for. -/
def ofJson? : Json → Option Cell
  | .null => some .null
  | .number n =>
    if n.isWhole then
      let m : Int := Reading.ofDigits n.whole
      some (.integer (if n.negative then -m else m))
    else n.float?.map .real
  | .text s => some (.text s)
  | _ => none

end Cell

namespace Row

/-- A row as a value, under the name of its record. -/
def toJson (id : String) (row : Row) : Json :=
  .array (.text id :: Column.all.map fun c => (row c).toJson)

/-- The row whose columns hold some cells in their order. -/
def ofCells (cells : List Cell) : Row :=
  fun c => ((Column.all.zip cells).find? (·.1 = c)).elim .null (·.2)

/-- The row that a value stands for, with the name of its record. -/
def ofJson? : Json → Option (String × Row)
  | .array (.text id :: cells) =>
    if cells.length = Column.all.length then
      (cells.mapM Cell.ofJson?).map fun cells => (id, ofCells cells)
    else none
  | _ => none

end Row

namespace Table

/-- The first line of a file with a table. -/
def heading : String := "twinscan records"

/-- A table as a text. -/
def toText (t : Table) : String :=
  String.join ((heading :: t.rows.entries.map fun (id, row) => (Row.toJson id row).compact).map
    (· ++ "\n"))

/-- The table that a text stands for. -/
def ofText? (s : String) : Option Table :=
  match Text.lines s with
  | first :: rest =>
    if first = heading then
      (rest.mapM fun l => (Json.read? l).bind Row.ofJson?).map fun rows => ⟨.ofList rows⟩
    else none
  | [] => none

end Table

end Lookalike
