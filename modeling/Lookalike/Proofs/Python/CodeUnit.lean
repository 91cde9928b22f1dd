import Mathlib.Tactic.Lemma
import Lookalike.Python.CodeUnit

/-! ### Units of texts

Every unit of a text is of the file that the text is said to come from, and its signature is that of
its features. The unit that stands for a text is one of its units. -/

namespace Lookalike.Python.CodeUnit

/-- The unit that stands for a text is among its units. -/
lemma mem_of_primary?_eq_some {units : List CodeUnit} {u : CodeUnit}
    (h : primary? units = some u) : u ∈ units := by
  rw [primary?, Option.or_eq_some_iff] at h
  obtain h | ⟨-, h⟩ := h
  · exact List.mem_of_find?_eq_some h
  · exact List.mem_of_find?_eq_some h

/-- A unit of a text is made of a tree. -/
lemma exists_ofTree_of_mem_extract {source : String} {file : Option String}
    {units : List CodeUnit} (h : extract source file = .ok units) {u : CodeUnit} (hu : u ∈ units) :
    ∃ tree name kind text, u = ofTree tree name kind text file := by
  unfold extract extractWith at h
  cases hparse : parse source with
  | error e => rw [hparse] at h; cases h
  | ok tree =>
    rw [hparse] at h
    obtain rfl : ofModule tree source file = units := Except.ok.inj h
    obtain rfl | hinner := List.mem_cons.1 hu
    · exact ⟨_, _, _, _, rfl⟩
    · obtain ⟨t, -, ht⟩ := List.mem_filterMap.1 hinner
      obtain ⟨⟨name, kind⟩, -, rfl⟩ := Option.map_eq_some_iff.1 ht
      exact ⟨_, _, _, _, rfl⟩

/-- A unit of a text is of the file of the text. -/
lemma file_eq_of_mem_extract {source : String} {file : Option String} {units : List CodeUnit}
    (h : extract source file = .ok units) {u : CodeUnit} (hu : u ∈ units) : u.file = file := by
  obtain ⟨_, _, _, _, rfl⟩ := exists_ofTree_of_mem_extract h hu
  rfl

/-- A unit of a text has the signature of its features. -/
lemma signature_eq_of_mem_extract {source : String} {file : Option String} {units : List CodeUnit}
    (h : extract source file = .ok units) {u : CodeUnit} (hu : u ∈ units) :
    u.signature = u.features.signature := by
  obtain ⟨_, _, _, _, rfl⟩ := exists_ofTree_of_mem_extract h hu
  rfl

/-- A unit that is extracted from some text. -/
def IsExtracted (u : CodeUnit) : Prop :=
  ∃ source file units, extract source file = .ok units ∧ u ∈ units

end Lookalike.Python.CodeUnit
