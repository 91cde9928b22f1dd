import Mathlib.Tactic.Lemma
import Lookalike.Registry.Basic

/-! ### What comes of calls

How a unit, the records of a file, a text and a whole file come in or go is up to what is there and
to what the store answers. For each of these calls a relation says once what can come of it, and
what is shown of the calls elsewhere goes by its cases. -/

namespace Lookalike.Registry

open Python

variable {σ : Type} [RecordStore σ]

/-- Files are dropped one after another. -/
lemma dropFiles_cons_eq_ok_iff {s t : σ} {file : String} {rest : List String} :
    dropFiles s (file :: rest) = .ok t ↔
      ∃ removed s', RecordStore.removeFile s file = .ok (removed, s') ∧
        dropFiles s' rest = .ok t := by
  cases hremove : RecordStore.removeFile s file with
  | error e => simp [dropFiles, bind, Except.bind, hremove]
  | ok answer =>
    obtain ⟨removed, s'⟩ := answer
    rw [dropFiles, hremove]
    constructor
    · exact fun h => ⟨removed, s', rfl, h⟩
    · rintro ⟨_, _, ⟨⟩, h⟩
      exact h

/-- What comes of a unit. -/
inductive UnitComes (r : Registry σ) (now : Int) (u : CodeUnit) : Reply σ Record → Prop
  | known {x : Record} : r.records.get? u.contentHash = some x → UnitComes r now u (.ok x, r)
  | refused {cause : StoreError} :
      r.records.get? u.contentHash = none →
        RecordStore.insert r.store (.ofUnit now u) = .error cause →
          UnitComes r now u (.error (.store cause), r)
  | taken {fresh : Bool} {store : σ} :
      r.records.get? u.contentHash = none →
        RecordStore.insert r.store (.ofUnit now u) = .ok (fresh, store) →
          UnitComes r now u (.ok (.ofUnit now u), load { r with store := store } (.ofUnit now u))

/-- A unit is there already, is refused, or is taken in. -/
lemma unitComes {r r' : Registry σ} {now : Int} {u : CodeUnit}
    {answer : Except RegistryError Record} (h : r.registerUnit now u = (answer, r')) :
    UnitComes r now u (answer, r') := by
  rw [← h, registerUnit]
  split
  · rename_i hget
    exact .known hget
  · rename_i hget
    dsimp only
    split
    · rename_i hinsert
      exact .refused hget hinsert
    · rename_i hinsert
      exact .taken hget hinsert

/-- What comes of the records of a file that are to go. -/
inductive FileGoes (r : Registry σ) (file : String) : Reply σ Nat → Prop
  | refused {cause : StoreError} :
      RecordStore.removeFile r.store file = .error cause →
        FileGoes r file (.error (.store cause), r)
  | gone {removed : Nat} {store : σ} :
      RecordStore.removeFile r.store file = .ok (removed, store) →
        FileGoes r file
          (.ok (max removed (r.size - (r.dropFile file store).size)), r.dropFile file store)

/-- The records of a file go if the store lets them go. -/
lemma fileGoes {r r' : Registry σ} {file : String} {answer : Except RegistryError Nat}
    (h : r.removeFile file = (answer, r')) : FileGoes r file (answer, r') := by
  rw [← h, removeFile]
  split
  · rename_i hremove
    exact .refused hremove
  · rename_i hremove
    exact .gone hremove

/-- What comes of a text for a file whose records have gone. -/
inductive TextComes (r : Registry σ) (now : Int) (file source : String) :
    Reply σ Registration → Prop
  | passedOver {e : ParseError} :
      CodeUnit.extract source (some file) = .error e →
        TextComes r now file source
          (.ok { Registration.none with unparsable := 1 }, r.skipUnparsable)
  | brokenOff {units : List CodeUnit} {e : RegistryError} {r₁ : Registry σ} :
      CodeUnit.extract source (some file) = .ok units →
        registerUnits now r units .none = (.error e, r₁) →
          TextComes r now file source (.error e, r₁)
  | takenIn {units : List CodeUnit} {done : Registration} {r₁ : Registry σ} :
      CodeUnit.extract source (some file) = .ok units →
        registerUnits now r units .none = (.ok done, r₁) →
          TextComes r now file source
            (.ok done,
              { r₁ with
                skips :=
                  { r₁.skips with
                    oversized := r₁.skips.oversized + done.oversized
                    filtered := r₁.skips.filtered + done.filtered } })

/-- A text is passed over, breaks off, or is taken in. -/
lemma textComes {r r' : Registry σ} {now : Int} {file source : String}
    {answer : Except RegistryError Registration}
    (h : r.registerText now file source = (answer, r')) :
    TextComes r now file source (answer, r') := by
  rw [← h, registerText]
  split
  · rename_i hextract
    exact .passedOver hextract
  · rename_i units hextract
    split
    · rename_i hunits
      exact .brokenOff hextract hunits
    · rename_i hunits
      exact .takenIn hextract hunits

/-- What comes of a file. -/
inductive FileComes (r : Registry σ) (now : Int) (path : FilePath) (reader : SourceReader) :
    Reply σ Registration → Prop
  | unread {reason : String} :
      reader.read path = .error (.failed reason) →
        FileComes r now path reader (.error (.reading reason), r)
  | stuck {e : RegistryError} {r₁ : Registry σ} :
      r.removeFile path.text = (.error e, r₁) → FileComes r now path reader (.error e, r₁)
  | passedOver {removed : Nat} {r₁ : Registry σ} :
      reader.read path = .error .undecodable → r.removeFile path.text = (.ok removed, r₁) →
        FileComes r now path reader
          (.ok { Registration.none with unparsable := 1 }, r₁.skipUnparsable)
  | read {source : String} {removed : Nat} {r₁ : Registry σ} {reply : Reply σ Registration} :
      reader.read path = .ok source → r.removeFile path.text = (.ok removed, r₁) →
        r₁.registerText now path.text source = reply → FileComes r now path reader reply

/-- A file cannot be read, or its records cannot go, or they go and it is passed over or its text
comes in. -/
lemma fileComes {r r' : Registry σ} {now : Int} {path : FilePath} {reader : SourceReader}
    {answer : Except RegistryError Registration}
    (h : r.registerFile now path reader = (answer, r')) :
    FileComes r now path reader (answer, r') := by
  rw [← h, registerFile]
  split
  · rename_i hread
    exact .unread hread
  · rename_i hread
    split
    · rename_i hremove
      exact .stuck hremove
    · rename_i hremove
      exact .passedOver hread hremove
  · rename_i hread
    split
    · rename_i hremove
      exact .stuck hremove
    · rename_i hremove
      exact .read hread hremove rfl

end Lookalike.Registry
