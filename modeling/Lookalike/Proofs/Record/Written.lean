import Lookalike.Proofs.Store.Table

/-! ### Records in their written form

Records, and the units, features and facts that they are made of, read back from the text that they
are written as, if their numbers fit into the widths of their fields. What is read from any text
fits, since the reader looks at the widths; so it reads back from the text that it is written as in
its turn, even where that is not the text that it was read from. -/

namespace Lookalike

open Python

/-! #### Written forms -/

/-- A written form of a type: what fits is the element that its own value stands for, and what any
value stands for fits. -/
structure WrittenForm {α : Type} (toJson : α → Json) (ofJson? : Json → Option α)
    (Fits : α → Prop) : Prop where
  isPlain (a : α) : (toJson a).IsPlain
  ofJson?_toJson {a : α} : Fits a → ofJson? (toJson a) = some a
  fits {v : Json} {a : α} : ofJson? v = some a → Fits a

/-- Whether what fits reads back from the text that it is written as, and whether what is read from
any text does so too. -/
def RoundTrips {α : Type} (toJson : α → Json) (ofJson? : Json → Option α) (Fits : α → Prop) :
    Prop :=
  (∀ a, Fits a → (Json.read? (toJson a).compact).bind ofJson? = some a) ∧
    ∀ s a, (Json.read? s).bind ofJson? = some a →
      (Json.read? (toJson a).compact).bind ofJson? = some a

namespace WrittenForm

variable {α : Type} {toJson : α → Json} {ofJson? : Json → Option α} {Fits : α → Prop}

/-- What fits reads back. -/
lemma read?_compact (h : WrittenForm toJson ofJson? Fits) {a : α} (ha : Fits a) :
    (Json.read? (toJson a).compact).bind ofJson? = some a := by
  rw [Json.read?_compact (h.isPlain a), Option.bind_some, h.ofJson?_toJson ha]

/-- A written form makes the round trip. -/
lemma roundTrips (h : WrittenForm toJson ofJson? Fits) : RoundTrips toJson ofJson? Fits := by
  refine ⟨fun a => h.read?_compact, fun s a hread => ?_⟩
  obtain ⟨v, -, hv⟩ := Option.bind_eq_some_iff.1 hread
  exact h.read?_compact (h.fits hv)

end WrittenForm

/-! #### Numbers -/

namespace Numeral

/-- The digits of an integer are read with its sign. -/
lemma integer?_ofInt_eq (i : Int) :
    (ofInt i).integer? =
      if i < 0 then if 0 < i.natAbs ∧ i.natAbs ≤ twoTo 63 then some (-(i.natAbs : Int)) else none
      else if i.natAbs < twoTo 63 then some (i.natAbs : Int) else none := by
  have hwhole : (ofInt i).isWhole = true := rfl
  have hdigits : ofDigits (ofInt i).whole = i.natAbs := ofDigits_toDigits i.natAbs
  have hnegative : (ofInt i).negative = decide (i < 0) := rfl
  simp only [integer?, hwhole, hdigits, hnegative, Bool.not_true, Bool.false_eq_true, if_false,
    decide_eq_true_eq, Bool.and_eq_true]

/-- An integer that fits into sixty-four bits reads back. -/
lemma integer?_ofInt {i : Int} (hi : -(twoTo 63 : Int) ≤ i ∧ i < twoTo 63) :
    (ofInt i).integer? = some i := by
  rw [integer?_ofInt_eq]
  by_cases hneg : i < 0
  · rw [if_pos hneg, if_pos (by omega)]
    exact congrArg some (by omega)
  · rw [if_neg hneg, if_pos (by omega)]
    exact congrArg some (by omega)

/-- An integer that is read fits into sixty-four bits. -/
lemma bounds_of_integer?_eq_some {n : Numeral} {i : Int} (h : n.integer? = some i) :
    -(twoTo 63 : Int) ≤ i ∧ i < twoTo 63 := by
  have hpos : 0 < twoTo 63 := by decide
  simp only [integer?] at h
  split_ifs at h with hwhole hneg hfits hfits
  · obtain rfl := Option.some.inj h
    rw [Bool.and_eq_true, decide_eq_true_eq, decide_eq_true_eq] at hfits
    omega
  · obtain rfl := Option.some.inj h
    omega

/-- A natural number that is read is within its width. -/
lemma lt_of_natural?_eq_some {n : Numeral} {width m : Nat} (h : n.natural? width = some m) :
    m < twoTo width := by
  simp only [natural?] at h
  split_ifs at h with hfits
  obtain rfl := Option.some.inj h
  exact of_decide_eq_true (Bool.and_eq_true_iff.1 hfits).2

end Numeral

namespace Json

/-- A field with a natural number that is read is within its width. -/
lemma lt_of_required?_natural?_eq_some {v : Option Json} {width m : Nat}
    (h : required? (natural? width) v = some m) : m < twoTo width := by
  obtain ⟨w, -, hw⟩ := Option.bind_eq_some_iff.1 h
  cases w with
  | number n => exact Numeral.lt_of_natural?_eq_some hw
  | _ => cases hw

/-- A text that may be missing reads back. -/
lemma optional?_ofOption_text (s : Option String) :
    optional? text? (some (ofOption .text s)) = some s := by
  cases s <;> rfl

end Json

/-! #### The parts of a record -/

/-- A kind reads back. -/
lemma Python.UnitKind.ofJson?_toJson (k : UnitKind) : ofJson? k.toJson = some k :=
  ofName?_name k

/-- A fingerprint reads back, whatever its bits are. -/
lemma Fingerprint.ofJson?_toJson (f : Fingerprint) : ofJson? f.toJson = some f := by
  have hnumber : (Json.ofNat f.bits.toNat).natural? 64 = some f.bits.toNat :=
    Numeral.natural?_ofNat f.bits.toNat_lt
  rw [ofJson?, toJson, hnumber, Option.map_some, UInt64.ofNat_toNat]

namespace Python.Features

/-- Whether the complexity of features fits into thirty-two bits. -/
def IsNarrow (f : Features) : Prop :=
  f.complexity < UInt32.size

/-- The written form of features. -/
lemma writtenForm : WrittenForm toJson ofJson? IsNarrow where
  isPlain := isPlain_toJson
  ofJson?_toJson := ofJson?_toJson
  fits := by
    intro v f h
    rw [ofJson?] at h
    split at h
    · simp only [Option.bind_eq_bind, Option.bind_eq_some_iff] at h
      obtain ⟨_, _, _, hcomplexity, _, _, _, _, _, _, _, _, hf⟩ := h
      obtain rfl := Option.some.inj hf
      exact Json.lt_of_required?_natural?_eq_some hcomplexity
    · cases h

end Python.Features

namespace Python.CodeUnit

/-- The fields of the value of a unit. -/
lemma record?_toJson (u : CodeUnit) :
    u.toJson.record? fieldNames 0 =
      some [some (.text u.name), some u.kind.toJson, some (.text u.source),
        some (.ofNat u.firstLine), some (.ofNat u.lastLine), some (.ofOption .text u.file),
        some u.features.toJson, some (.text u.signature)] := by
  simp [toJson, Json.record?, fieldNames, Json.field?]

/-- The written form of units. -/
lemma writtenForm : WrittenForm toJson ofJson? IsNarrow where
  isPlain u := by
    have hfile : (Json.ofOption .text u.file).IsPlain := by cases u.file <;> trivial
    exact ⟨trivial, trivial, trivial, Json.isPlain_ofNat _, Json.isPlain_ofNat _, hfile,
      u.features.isPlain_toJson, trivial, trivial⟩
  ofJson?_toJson := by
    intro u hu
    have hfirst : (Json.ofNat u.firstLine).natural? 32 = some u.firstLine :=
      Numeral.natural?_ofNat hu.firstLine
    have hlast : (Json.ofNat u.lastLine).natural? 32 = some u.lastLine :=
      Numeral.natural?_ofNat hu.lastLine
    simp only [ofJson?, record?_toJson, Json.required?, Option.bind_eq_bind, Option.bind_some,
      Json.text?, UnitKind.ofJson?_toJson, hfirst, hlast, Json.optional?_ofOption_text,
      Features.ofJson?_toJson hu.complexity]
  fits := by
    intro v u h
    rw [ofJson?] at h
    split at h
    · simp only [Option.bind_eq_bind, Option.bind_eq_some_iff] at h
      obtain ⟨_, _, _, _, _, _, _, hfirst, _, hlast, _, _, _, hfeatures, _, _, hu⟩ := h
      obtain rfl := Option.some.inj hu
      obtain ⟨w, -, hw⟩ := Option.bind_eq_some_iff.1 hfeatures
      exact ⟨Json.lt_of_required?_natural?_eq_some hfirst,
        Json.lt_of_required?_natural?_eq_some hlast, Features.writtenForm.fits hw⟩
    · cases h

end Python.CodeUnit

namespace RecordFacts

/-- Whether the time fits into sixty-four bits with a sign and the number of lines into
thirty-two. -/
structure Fits (m : RecordFacts) : Prop where
  registeredAt : -(twoTo 63 : Int) ≤ m.registeredAt ∧ m.registeredAt < twoTo 63
  lines : m.lines < UInt32.size

/-- The fields of the value of facts. -/
lemma record?_toJson (m : RecordFacts) :
    m.toJson.record? fieldNames 0 = some [some (.ofInt m.registeredAt), some (.ofNat m.lines)] := by
  simp [toJson, Json.record?, fieldNames, Json.field?]

/-- The written form of facts. -/
lemma writtenForm : WrittenForm toJson ofJson? Fits where
  isPlain m := ⟨Numeral.isInteger_ofInt m.registeredAt, Json.isPlain_ofNat m.lines, trivial⟩
  ofJson?_toJson := by
    intro m hm
    have htime : (Json.ofInt m.registeredAt).integer? = some m.registeredAt :=
      Numeral.integer?_ofInt hm.registeredAt
    have hlines : (Json.ofNat m.lines).natural? 32 = some m.lines :=
      Numeral.natural?_ofNat hm.lines
    simp only [ofJson?, record?_toJson, Json.required?, Option.bind_eq_bind, Option.bind_some,
      htime, hlines]
  fits := by
    intro v m h
    rw [ofJson?] at h
    split at h
    · simp only [Option.bind_eq_bind, Option.bind_eq_some_iff] at h
      obtain ⟨_, htime, _, hlines, hm⟩ := h
      obtain rfl := Option.some.inj hm
      obtain ⟨w, -, hw⟩ := Option.bind_eq_some_iff.1 htime
      refine ⟨?_, Json.lt_of_required?_natural?_eq_some hlines⟩
      cases w with
      | number n => exact Numeral.bounds_of_integer?_eq_some hw
      | _ => cases hw
    · cases h

end RecordFacts

/-! #### Records -/

namespace Record

/-- Whether the numbers of a record fit into their fields. -/
structure Fits (x : Record) : Prop where
  unit : x.unit.IsNarrow
  facts : x.facts.Fits

/-- The fields of the value of a record. -/
lemma record?_toJson (x : Record) :
    x.toJson.record? fieldNames 0 =
      some [some (.text x.id), some x.fingerprint.toJson, some x.unit.toJson,
        some x.facts.toJson] := by
  simp [toJson, Json.record?, fieldNames, Json.field?]

/-- The written form of records. -/
lemma writtenForm : WrittenForm toJson ofJson? Fits where
  isPlain x :=
    ⟨trivial, Json.isPlain_ofNat _, CodeUnit.writtenForm.isPlain x.unit,
      RecordFacts.writtenForm.isPlain x.facts, trivial⟩
  ofJson?_toJson := by
    intro x hx
    simp only [ofJson?, record?_toJson, Json.required?, Option.bind_eq_bind, Option.bind_some,
      Json.text?, Fingerprint.ofJson?_toJson, CodeUnit.writtenForm.ofJson?_toJson hx.unit,
      RecordFacts.writtenForm.ofJson?_toJson hx.facts]
    rfl
  fits := by
    intro v x h
    rw [ofJson?] at h
    split at h
    · simp only [Option.bind_eq_bind, Option.bind_eq_some_iff] at h
      obtain ⟨_, _, _, _, _, hunit, _, hfacts, hx⟩ := h
      obtain rfl := Option.some.inj hx
      obtain ⟨v, -, hv⟩ := Option.bind_eq_some_iff.1 hunit
      obtain ⟨w, -, hw⟩ := Option.bind_eq_some_iff.1 hfacts
      exact ⟨CodeUnit.writtenForm.fits hv, RecordFacts.writtenForm.fits hw⟩
    · cases h

/-- Records, units, features and facts make the round trip through their compact texts: whatever
their texts, lists, sets and maps hold, they read back as they are, and what is read from any text
reads back from the text that it is written as. -/
theorem roundTrips_written :
    RoundTrips toJson ofJson? Fits ∧
      RoundTrips CodeUnit.toJson CodeUnit.ofJson? CodeUnit.IsNarrow ∧
      RoundTrips Features.toJson Features.ofJson? Features.IsNarrow ∧
      RoundTrips RecordFacts.toJson RecordFacts.ofJson? RecordFacts.Fits :=
  ⟨writtenForm.roundTrips, CodeUnit.writtenForm.roundTrips, Features.writtenForm.roundTrips,
    RecordFacts.writtenForm.roundTrips⟩

end Record

/-- A record with line breaks and marks in its texts, without a file, and with the greatest
fingerprint. -/
def oddRecord : Record :=
  ⟨"ab", ⟨18446744073709551615⟩,
    ⟨"naïve 😀", .function, "def f():\r\n\tpass \x22\\\x00", 7, 3, none,
      ⟨["FUNC:0", "\n"], 1, .ofList ["os"], [], ["IF@1"], .ofList [("f.return", "int")]⟩,
      "FUNC:0|\n"⟩, -5, 1⟩

/-- The odd record reads back, and so do facts that were read from an array with blanks in it. -/
theorem Record.roundTrips_written_oddRecord :
    oddRecord.Fits ∧ (Json.read? oddRecord.toJson.compact).bind ofJson? = some oddRecord ∧
      (Json.read? "[ -5,1 ] ").bind RecordFacts.ofJson? = some ⟨-5, 1⟩ ∧
      (Json.read? (RecordFacts.toJson ⟨-5, 1⟩).compact).bind RecordFacts.ofJson? =
        some ⟨-5, 1⟩ := by
  have hfits : oddRecord.Fits :=
    ⟨⟨by decide, by decide, by decide⟩, ⟨by decide, by decide⟩⟩
  have htext : "[ -5,1 ] ".toList = ['[', ' ', '-', '5', ',', '1', ' ', ']', ' '] := by rfl
  have hread : (Json.read? "[ -5,1 ] ").bind RecordFacts.ofJson? = some ⟨-5, 1⟩ := by
    rw [Json.read?, htext]
    rfl
  refine ⟨hfits, roundTrips_written.1.1 oddRecord hfits, hread, ?_⟩
  exact roundTrips_written.2.2.2.2 _ _ hread

end Lookalike
