import Lookalike.Proofs.Json.RoundTrip
import Lookalike.Proofs.Ordered.TextMap
import Lookalike.Record.Format

/-! ### Features in their written form

The features of a unit, written as a value in compact form, read back as the same features, if their
complexity fits into thirty-two bits. -/

namespace Lookalike

namespace Numeral

/-- The digits of a number have its value. -/
lemma ofDigits_toDigits (n : Nat) : ofDigits (Nat.toDigits 10 n) = n :=
  Nat.ofDigitChars_ten_toDigits

/-- A natural number that is small enough reads back. -/
lemma natural?_ofNat {width n : Nat} (hn : n < twoTo width) :
    (ofNat n).natural? width = some n := by
  simp [natural?, ofNat, isWhole, ofDigits_toDigits, hn]

/-- A natural number that is too large does not. -/
lemma natural?_ofNat_eq_none {width n : Nat} (hn : twoTo width ≤ n) :
    (ofNat n).natural? width = none := by
  simp [natural?, ofNat, isWhole, ofDigits_toDigits, hn]

end Numeral

namespace Json

/-- A natural number is plain. -/
lemma isPlain_ofNat (n : Nat) : (ofNat n).IsPlain :=
  Numeral.isInteger_ofNat n

/-- Texts are plain. -/
lemma arePlain_map_text (ss : List String) : ArePlain (ss.map Json.text) := by
  induction ss with
  | nil => trivial
  | cons s ss ih => exact ⟨trivial, ih⟩

/-- Fields that hold texts are plain. -/
lemma areFieldsPlain_map_text (entries : List (String × String)) :
    AreFieldsPlain (entries.map fun e => (e.1, Json.text e.2)) := by
  induction entries with
  | nil => trivial
  | cons e entries ih => exact ⟨trivial, ih⟩

/-- A list of texts reads back. -/
lemma texts?_ofTexts (ss : List String) : texts? (ofTexts ss) = some ss := by
  simp only [texts?, list?, ofTexts]
  induction ss with
  | nil => rfl
  | cons s ss ih => rw [List.map_cons, List.mapM_cons, ih]; rfl

/-- A map from texts to texts reads back. -/
lemma textMap?_entries (m : TextMap String) :
    textMap? (.object (m.entries.map fun e => (e.1, .text e.2))) = some m := by
  have hentries (entries : List (String × String)) :
      (entries.map fun e => (e.1, Json.text e.2)).mapM
        (fun (field : String × Json) => (text? field.2).map (field.1, ·)) = some entries := by
    induction entries with
    | nil => rfl
    | cons e entries ih => rw [List.map_cons, List.mapM_cons, ih]; rfl
  simp only [textMap?, hentries]
  rw [Option.bind_eq_bind, Option.bind_some, TextMap.ofList_entries]

end Json

namespace Python.Features

/-- The written form of features is plain. -/
lemma isPlain_toJson (f : Features) : f.toJson.IsPlain :=
  ⟨Json.arePlain_map_text _, Json.isPlain_ofNat _, Json.arePlain_map_text _,
    Json.arePlain_map_text _, Json.arePlain_map_text _, Json.areFieldsPlain_map_text _, trivial⟩

/-- The fields of the value of features. -/
lemma record?_toJson (f : Features) :
    f.toJson.record? fieldNames 0 =
      some [some (.ofTexts f.structureTokens), some (.ofNat f.complexity),
        some (.ofTexts f.dependencies.items), some (.ofTexts f.calls),
        some (.ofTexts f.controlFlow),
        some (.object (f.types.entries.map fun e => (e.1, .text e.2)))] := by
  simp [toJson, Json.record?, fieldNames, Json.field?]

/-- The value of features stands for them. -/
lemma ofJson?_toJson {f : Features} (hf : f.complexity < UInt32.size) :
    ofJson? f.toJson = some f := by
  have hnumber : (Json.ofNat f.complexity).natural? 32 = some f.complexity :=
    Numeral.natural?_ofNat hf
  simp only [ofJson?, record?_toJson, Json.required?, Option.bind_eq_bind, Option.bind_some,
    Json.texts?_ofTexts, hnumber, Json.textMap?_entries, TextSet.ofList_items]

/-- The value of features whose complexity is too large stands for none. -/
lemma ofJson?_toJson_eq_none {f : Features} (hf : UInt32.size ≤ f.complexity) :
    ofJson? f.toJson = none := by
  have hnumber : (Json.ofNat f.complexity).natural? 32 = none :=
    Numeral.natural?_ofNat_eq_none hf
  simp only [ofJson?, record?_toJson, Json.required?, Option.bind_eq_bind, Option.bind_some,
    Json.texts?_ofTexts, hnumber, Option.bind_none]

/-- Features in compact form read back. -/
lemma read?_compact {f : Features} (hf : f.complexity < UInt32.size) :
    (Json.read? f.toJson.compact).bind ofJson? = some f := by
  rw [Json.read?_compact f.isPlain_toJson, Option.bind_some, ofJson?_toJson hf]

/-- Features whose compact form can be read have a small complexity. -/
lemma complexity_lt_of_read?_compact {f g : Features}
    (h : (Json.read? f.toJson.compact).bind ofJson? = some g) : f.complexity < UInt32.size := by
  refine Nat.lt_of_not_ge fun hf => ?_
  rw [Json.read?_compact f.isPlain_toJson, Option.bind_some, ofJson?_toJson_eq_none hf] at h
  cases h

end Python.Features

end Lookalike
