import Lookalike.Json.Decode
import Lookalike.Record.Basic
import Lookalike.Report

/-! ### The written form of records

Records and what they are made of as values of the data format, and back. -/

namespace Lookalike

open Python

namespace Python.UnitKind

/-- A kind as a value. -/
def toJson (k : UnitKind) : Json :=
  .text k.name

/-- The kind that a value stands for. -/
def ofJson? (v : Json) : Option UnitKind :=
  v.name?.bind ofName?

end Python.UnitKind

namespace Mode

/-- A mode as a value. -/
def toJson (m : Mode) : Json :=
  .text m.name

/-- The mode that a value stands for. -/
def ofJson? (v : Json) : Option Mode :=
  v.name?.bind ofName?

end Mode

namespace Tier

/-- A tier as a value. -/
def toJson (t : Tier) : Json :=
  .text t.name

/-- The tier that a value stands for. -/
def ofJson? (v : Json) : Option Tier :=
  v.name?.bind ofName?

end Tier

namespace Fingerprint

/-- A fingerprint as a value. -/
def toJson (f : Fingerprint) : Json :=
  .ofNat f.bits.toNat

/-- The fingerprint that a value stands for. -/
def ofJson? (v : Json) : Option Fingerprint :=
  (v.natural? 64).map fun n => ⟨UInt64.ofNat n⟩

end Fingerprint

namespace Python.Features

/-- The fields of features. -/
def fieldNames : List String :=
  ["structure_tokens", "complexity", "dependencies", "calls", "control_flow", "annotations"]

/-- Features as a value. -/
def toJson (f : Features) : Json :=
  .object [("structure_tokens", .ofTexts f.structureTokens), ("complexity", .ofNat f.complexity),
    ("dependencies", .ofTexts f.dependencies.items), ("calls", .ofTexts f.calls),
    ("control_flow", .ofTexts f.controlFlow),
    ("annotations", .object (f.types.entries.map fun (k, t) => (k, .text t)))]

/-- The features that a value stands for. -/
def ofJson? (v : Json) : Option Features :=
  match v.record? fieldNames 0 with
  | some [structureTokens, complexity, dependencies, calls, controlFlow, types] => do
    let structureTokens ← Json.required? Json.texts? structureTokens
    let complexity ← Json.required? (Json.natural? 32) complexity
    let dependencies ← Json.required? Json.texts? dependencies
    let calls ← Json.required? Json.texts? calls
    let controlFlow ← Json.required? Json.texts? controlFlow
    let types ← Json.required? Json.textMap? types
    some ⟨structureTokens, complexity, .ofList dependencies, calls, controlFlow, types⟩
  | _ => none

end Python.Features

namespace Python.CodeUnit

/-- The fields of a unit. -/
def fieldNames : List String :=
  ["name", "kind", "source", "start_line", "end_line", "file_path", "features", "signature"]

/-- A unit as a value. -/
def toJson (u : CodeUnit) : Json :=
  .object [("name", .text u.name), ("kind", u.kind.toJson), ("source", .text u.source),
    ("start_line", .ofNat u.firstLine), ("end_line", .ofNat u.lastLine),
    ("file_path", .ofOption .text u.file), ("features", u.features.toJson),
    ("signature", .text u.signature)]

/-- The unit that a value stands for. -/
def ofJson? (v : Json) : Option CodeUnit :=
  match v.record? fieldNames 0 with
  | some [name, kind, source, firstLine, lastLine, file, features, signature] => do
    let name ← Json.required? Json.text? name
    let kind ← Json.required? UnitKind.ofJson? kind
    let source ← Json.required? Json.text? source
    let firstLine ← Json.required? (Json.natural? 32) firstLine
    let lastLine ← Json.required? (Json.natural? 32) lastLine
    let file ← Json.optional? Json.text? file
    let features ← Json.required? Features.ofJson? features
    let signature ← Json.required? Json.text? signature
    some ⟨name, kind, source, firstLine, lastLine, file, features, signature⟩
  | _ => none

end Python.CodeUnit

/-- What is known about a record besides its unit: when it came in, and the number of its lines. -/
structure RecordFacts where
  registeredAt : Int
  lines : Nat
  deriving DecidableEq

namespace RecordFacts

/-- The fields of the facts. -/
def fieldNames : List String :=
  ["registered_at", "lines"]

/-- Facts as a value. -/
def toJson (m : RecordFacts) : Json :=
  .object [("registered_at", .ofInt m.registeredAt), ("lines", .ofNat m.lines)]

/-- The facts that a value stands for. -/
def ofJson? (v : Json) : Option RecordFacts :=
  match v.record? fieldNames 0 with
  | some [registeredAt, lines] => do
    let registeredAt ← Json.required? Json.integer? registeredAt
    let lines ← Json.required? (Json.natural? 32) lines
    some ⟨registeredAt, lines⟩
  | _ => none

end RecordFacts

namespace Record

/-- The facts about a record. -/
def facts (r : Record) : RecordFacts :=
  ⟨r.registeredAt, r.lines⟩

/-- The fields of a record. -/
def fieldNames : List String :=
  ["id", "fingerprint", "unit", "metadata"]

/-- A record as a value. -/
def toJson (r : Record) : Json :=
  .object [("id", .text r.id), ("fingerprint", r.fingerprint.toJson), ("unit", r.unit.toJson),
    ("metadata", r.facts.toJson)]

/-- The record that a value stands for. -/
def ofJson? (v : Json) : Option Record :=
  match v.record? fieldNames 0 with
  | some [id, fingerprint, unit, facts] => do
    let id ← Json.required? Json.text? id
    let fingerprint ← Json.required? Fingerprint.ofJson? fingerprint
    let unit ← Json.required? CodeUnit.ofJson? unit
    let facts ← Json.required? RecordFacts.ofJson? facts
    some ⟨id, fingerprint, unit, facts.registeredAt, facts.lines⟩
  | _ => none

end Record

end Lookalike
