import Lookalike.Json.Decode
import Lookalike.Json.Reader
import Lookalike.Report
import Lookalike.Similarity
import Lookalike.Text.Blank

/-! ### Verdicts

A verdict is a second opinion on two texts, given by someone who reads them. The pairs of a report
that are similar enough are shown to that reader one after another; a pair on which there is no
answer keeps its structural similarity alone. -/

namespace Lookalike

/-- A second opinion on two texts. -/
structure Verdict where
  similarity : Float
  confidence : Float
  reasoning : String

namespace Verdict

/-- The fields of a verdict. -/
def fieldNames : List String :=
  ["similarity", "confidence", "reasoning"]

/-- A verdict as a value. -/
def toJson (v : Verdict) : Json :=
  .object [("similarity", .ofFloat v.similarity), ("confidence", .ofFloat v.confidence),
    ("reasoning", .text v.reasoning)]

/-- The verdict that a value stands for, where the reasoning may be missing. -/
def ofJson? (v : Json) : Option Verdict :=
  match v.record? fieldNames 1 with
  | some [similarity, confidence, reasoning] => do
    let similarity ← Json.required? Json.float? similarity
    let confidence ← Json.required? Json.float? confidence
    let reasoning ← match reasoning with
      | none => some ""
      | some v => v.text?
    some ⟨similarity, confidence, reasoning⟩
  | _ => none

/-- A verdict with its numbers moved into the interval from zero to one. -/
def clamped (v : Verdict) : Verdict :=
  ⟨clampUnit v.similarity, clampUnit v.confidence, v.reasoning⟩

/-- The verdict that a text gives. -/
def parse? (text : String) : Option Verdict :=
  ((Json.read? (Text.trim text)).bind ofJson?).map clamped

end Verdict

/-- A pair with the verdict on it, if there is one. -/
structure JudgedPair where
  pair : Pair
  verdict : Option Verdict

/-- Someone who judges two texts: the answer may depend on how many questions came before. -/
abbrev Judge := Nat → String → String → Option Verdict

/-- The pairs with the verdicts of a judge, and the number of questions, of which `asked` came
before. Pairs of the lowest tier are not shown. -/
def judgeFrom (judge : Judge) : Nat → List Pair → List JudgedPair × Nat
  | asked, [] => ([], asked)
  | asked, p :: rest =>
    if p.tier = .low then
      let (judged, n) := judgeFrom judge asked rest
      (⟨p, none⟩ :: judged, n)
    else
      let (judged, n) := judgeFrom judge (asked + 1) rest
      (⟨p, judge asked p.a.unit.source p.b.unit.source⟩ :: judged, n)

/-- The pairs of a report with the verdicts of a judge, and the number of questions. -/
def Report.judge (r : Report) (judge : Judge) : List JudgedPair × Nat :=
  judgeFrom judge 0 r.pairs

end Lookalike
