import Lookalike.Json.Number
import Lookalike.Ordered.TextSet

/-! ### Reading parts of values

A record is written as an object with its fields, in any order and among others, or as an array of
its fields in order. A field that is known stands at most once. -/

namespace Lookalike.Json

/-- A text. -/
def text? : Json → Option String
  | .text s => some s
  | _ => none

/-- A natural number below `2 ^ width`. -/
def natural? (width : Nat) : Json → Option Nat
  | .number n => n.natural? width
  | _ => none

/-- An integer of sixty-four bits. -/
def integer? : Json → Option Int
  | .number n => n.integer?
  | _ => none

/-- A floating point number. -/
def float? : Json → Option Float
  | .number n => n.float?
  | _ => none

/-- A value that may be null. -/
def nullable? {α : Type} (read : Json → Option α) : Json → Option (Option α)
  | .null => some none
  | v => (read v).map some

/-- A list of values. -/
def list? {α : Type} (read : Json → Option α) : Json → Option (List α)
  | .array items => items.mapM read
  | _ => none

/-- A list of texts. -/
def texts? : Json → Option (List String) :=
  list? text?

/-- A map from texts to texts, the last value at a key counting. -/
def textMap? : Json → Option (TextMap String)
  | .object fields => do
    let entries ← fields.mapM fun (field : String × Json) => (text? field.2).map (field.1, ·)
    some (TextMap.ofList entries)
  | _ => none

/-- A name, alone or as the only field of an object, with no value. -/
def name? : Json → Option String
  | .text s => some s
  | .object [(k, .null)] => some k
  | _ => none

/-- The value of a field: missing if the field is, and unreadable if it stands twice. -/
def field? (fields : List (String × Json)) (name : String) : Option (Option Json) :=
  match fields.filter (·.1 = name) with
  | [] => some none
  | [(_, v)] => some (some v)
  | _ => none

/-- The values of the fields of a record in their order. In an array, the last `spare` of them may
be missing. -/
def record? (names : List String) (spare : Nat) : Json → Option (List (Option Json))
  | .object fields => names.mapM (field? fields)
  | .array items =>
    if items.length ≤ names.length && names.length ≤ items.length + spare then
      some (items.map some ++ List.replicate (names.length - items.length) none)
    else none
  | _ => none

/-- The value of a field that has to be there. -/
def required? {α : Type} (read : Json → Option α) (v : Option Json) : Option α :=
  v.bind read

/-- The value of a field that may be missing or null. -/
def optional? {α : Type} (read : Json → Option α) : Option Json → Option (Option α)
  | none => some none
  | some v => nullable? read v

end Lookalike.Json
