import Lookalike.FileTree.Saved
import Lookalike.Proofs.Json.OneLine
import Lookalike.Proofs.Store.Table

/-! ### Tables that are found again

A table without floating point numbers in its cells is found again in the bytes of its file: each
row stands on a line of its own, from which its name and its cells read back. The tables of records
are of this kind. -/

namespace Lookalike

namespace Cell

/-- Whether a cell holds no floating point number. -/
def IsExact : Cell → Prop
  | .real _ => False
  | _ => True

/-- The value of an exact cell is plain. -/
lemma IsExact.isPlain_toJson {c : Cell} (h : c.IsExact) : c.toJson.IsPlain := by
  cases c with
  | null => trivial
  | integer n => exact Numeral.isInteger_ofInt n
  | real x => exact absurd h id
  | text s => trivial

/-- The value of an exact cell stands for it. -/
lemma IsExact.ofJson?_toJson {c : Cell} (h : c.IsExact) : ofJson? c.toJson = some c := by
  cases c with
  | null => rfl
  | integer n =>
    have hdigits : Reading.ofDigits (Nat.toDigits 10 n.natAbs) = n.natAbs :=
      Numeral.ofDigits_toDigits n.natAbs
    have hsign : (if n < 0 then -(n.natAbs : Int) else n.natAbs) = n := by
      split <;> omega
    have hwhole : (Numeral.ofInt n).isWhole = true := rfl
    rw [toJson, Json.ofInt, ofJson?, if_pos hwhole]
    simp only [Numeral.ofInt, hdigits, decide_eq_true_eq, hsign]
  | real x => exact absurd h id
  | text s => rfl

end Cell

namespace Row

/-- Whether no cell of a row holds a floating point number. -/
def IsExact (row : Row) : Prop :=
  ∀ c, (row c).IsExact

/-- The row of a record holds no floating point numbers. -/
lemma isExact_ofRecord (x : Record) : (ofRecord x).IsExact := by
  intro c
  cases c with
  | file =>
    rw [ofRecord]
    cases x.unit.file <;> trivial
  | _ => trivial

/-- The columns of a row in their order make the row. -/
lemma ofCells_map (row : Row) : ofCells (Column.all.map row) = row := by
  funext c
  cases c <;> rfl

/-- The cells of an exact row read back one by one. -/
lemma IsExact.mapM_ofJson? {row : Row} (h : row.IsExact) (columns : List Column) :
    (columns.map fun c => (row c).toJson).mapM Cell.ofJson? = some (columns.map row) := by
  rw [mapM_eq_some_iff, List.forall₂_map_left_iff, List.forall₂_map_right_iff, List.forall₂_same]
  exact fun c _ => (h c).ofJson?_toJson

/-- The value of an exact row stands for it. -/
lemma IsExact.ofJson?_toJson {row : Row} (h : row.IsExact) (id : String) :
    ofJson? (toJson id row) = some (id, row) := by
  rw [toJson, ofJson?, if_pos (List.length_map _), h.mapM_ofJson?, Option.map_some, ofCells_map]

/-- The value of an exact row is plain. -/
lemma IsExact.isPlain_toJson {row : Row} (h : row.IsExact) (id : String) :
    (toJson id row).IsPlain := by
  have hcells (columns : List Column) : Json.ArePlain (columns.map fun c => (row c).toJson) := by
    induction columns with
    | nil => trivial
    | cons c columns ih => exact ⟨(h c).isPlain_toJson, ih⟩
  exact ⟨trivial, hcells _⟩

end Row

namespace Table

/-- Whether no cell of a table holds a floating point number. -/
def IsExact (t : Table) : Prop :=
  ∀ e ∈ t.rows.entries, e.2.IsExact

/-- The lines of the file of an exact table hold no line breaks. -/
lemma IsExact.isUnbroken {t : Table} (h : t.IsExact) :
    ∀ l ∈ heading :: t.rows.entries.map fun e => (Row.toJson e.1 e.2).compact,
      Text.IsUnbroken l.toList := by
  refine List.forall_mem_cons.2 ⟨?_, List.forall_mem_map.2 fun e he => ?_⟩
  · have hheading : Json.IsVisible heading.toList := by decide
    exact hheading.isUnbroken
  · exact Json.isUnbroken_compact ((h e he).isPlain_toJson e.1)

/-- An exact table is found again in its text. -/
theorem IsExact.ofText?_toText {t : Table} (h : t.IsExact) : ofText? t.toText = some t := by
  have hrows : (t.rows.entries.map fun e => (Row.toJson e.1 e.2).compact).mapM
      (fun l => (Json.read? l).bind Row.ofJson?) = some t.rows.entries := by
    rw [mapM_eq_some_iff, List.forall₂_map_left_iff, List.forall₂_same]
    intro e he
    rw [Json.read?_compact ((h e he).isPlain_toJson e.1), Option.bind_some,
      (h e he).ofJson?_toJson]
  rw [ofText?, toText, Text.lines_join h.isUnbroken]
  simp only [if_true, hrows, Option.map_some, TextMap.ofList_entries]

/-- An exact table is found again in the bytes of its file. -/
theorem IsExact.ofBytes_toText {t : Table} (h : t.IsExact) :
    Content.ofBytes t.toText.toUTF8 = .table t := by
  have hbytes : String.fromUTF8? t.toText.toUTF8 = some t.toText := by
    rw [String.toUTF8_eq_toByteArray, String.fromUTF8?, dif_pos t.toText.isValidUTF8]
    rfl
  rw [Content.ofBytes, hbytes, Option.bind_some, h.ofText?_toText]

end Table

end Lookalike
