import Mathlib.Data.List.Basic
import Mathlib.Tactic.Lemma
import Lookalike.Python.Phrase

/-! ### Sound phrases

Not every tree over words is a phrase. What comes after the grammar relies on a few facts about the
phrases that it reads: no phrase is without parts; in definitions, choices and assignments the parts
that have parts of their own stand in certain roles; a decorated definition ends with what it
decorates, and an assignment with what it assigns; and nothing is called inside an import. A phrase
is sound if this holds of it and of all phrases inside it. -/

namespace Lookalike.Python

/-! #### Parts by their roles -/

/-- The kind of a phrase that has parts. -/
def Phrase.kind? : Phrase → Option PhraseKind
  | .node kind _ => some kind
  | _ => none

/-- A leaf has no kind of a phrase. -/
@[simp]
lemma Phrase.kind?_leaf (kind : LeafKind) : (Phrase.leaf kind).kind? = none :=
  rfl

/-- A mark has no kind of a phrase. -/
@[simp]
lemma Phrase.kind?_mark (m : Mark) : (Phrase.mark m).kind? = none :=
  rfl

namespace PhraseKind

/-- Whether a decorated definition may have a part in a role: decorators and a definition. -/
def isDecoratedPart (role : Role) : Option PhraseKind → Bool
  | none => true
  | some .decorator => role = .part
  | some .functionDefinition => role = .definition
  | some .classDefinition => role = .definition
  | some _ => false

/-- Whether a phrase may have a part in a role, where the part has the given kind if it has parts of
its own. -/
def mayHold : PhraseKind → Role × Option PhraseKind → Bool
  | .functionDefinition, (role, kind) =>
    kind.isNone || [.part, .parameters, .returnType, .body].contains role
  | .classDefinition, (role, kind) => kind.isNone || [.part, .superclasses, .body].contains role
  | .decoratedDefinition, (role, kind) => isDecoratedPart role kind
  | .ifStatement, (role, kind) =>
    kind.isNone || [.condition, .consequence, .alternative].contains role
  | .assignment, (role, kind) => kind.isNone || [.left, .type, .right].contains role
  | .augmentedAssignment, (role, kind) => kind.isNone || [.left, .right].contains role
  | .breakStatement, (_, kind) => kind.isNone
  | .continueStatement, (_, kind) => kind.isNone
  | .passStatement, (_, kind) => kind.isNone
  | _, _ => true

/-- Whether a phrase may have the second part somewhere after the first one. -/
def mayFollow : PhraseKind → Role × Option PhraseKind → Role × Option PhraseKind → Bool
  | .decoratedDefinition, a, b => a.1 != .definition || b.2.isNone
  | .assignment, a, b => a.1 != .right || b.2.isNone
  | _, _, _ => true

/-- Whether a phrase is an import. -/
def isImport : PhraseKind → Bool
  | .importStatement => true
  | .importFromStatement => true
  | .futureImportStatement => true
  | _ => false

/-- Whether nothing is asked of the parts of a phrase. -/
def isFree : PhraseKind → Bool
  | .functionDefinition => false
  | .classDefinition => false
  | .decoratedDefinition => false
  | .ifStatement => false
  | .assignment => false
  | .augmentedAssignment => false
  | .breakStatement => false
  | .continueStatement => false
  | .passStatement => false
  | .importStatement => false
  | .importFromStatement => false
  | .futureImportStatement => false
  | _ => true

variable {kind : PhraseKind}

/-- Every phrase may have leaves. -/
@[simp]
lemma mayHold_leaf (role : Role) : kind.mayHold (role, none) = true := by
  cases kind <;> rfl

/-- Leaves may follow anything. -/
lemma mayFollow_leaf (a : Role × Option PhraseKind) (role : Role) :
    kind.mayFollow a (role, none) = true := by
  cases kind <;> simp [mayFollow]

/-- Anything may follow a part without a role. -/
lemma mayFollow_part (k : Option PhraseKind) (b : Role × Option PhraseKind) :
    kind.mayFollow (.part, k) b = true := by
  cases kind <;> rfl

/-- A phrase that is free to hold anything may hold every part. -/
lemma mayHold_of_isFree (h : kind.isFree = true) (a : Role × Option PhraseKind) :
    kind.mayHold a = true := by
  cases kind <;> first | rfl | simp [isFree] at h

/-- In a phrase that is free to hold anything, every part may follow every other one. -/
lemma mayFollow_of_isFree (h : kind.isFree = true) (a b : Role × Option PhraseKind) :
    kind.mayFollow a b = true := by
  cases kind <;> first | rfl | simp [isFree] at h

/-- An import is not free to hold anything. -/
lemma isImport_of_isFree (h : kind.isFree = true) : kind.isImport = false := by
  cases kind <;> first | rfl | simp [isFree] at h

/-- Under decorators stand decorators and, in its role, one definition. -/
lemma cases_of_isDecoratedPart {role : Role} (h : isDecoratedPart role (some kind) = true) :
    kind = .decorator ∧ role = .part ∨
      (kind = .functionDefinition ∨ kind = .classDefinition) ∧ role = .definition := by
  unfold isDecoratedPart at h
  split at h <;> simp_all

end PhraseKind

/-! #### Soundness -/

namespace Phrase

/-- A phrase in which nothing is called. -/
inductive IsCallFree : Phrase → Prop
  | leaf (kind : LeafKind) : IsCallFree (.leaf kind)
  | mark (m : Mark) : IsCallFree (.mark m)
  | node {kind : PhraseKind} {parts : List (Role × Phrase)} (hkind : kind ≠ .call)
      (hparts : ∀ p ∈ parts, IsCallFree p.2) : IsCallFree (.node kind parts)

/-- The role and the kind of a part. -/
def outline (p : Role × Phrase) : Role × Option PhraseKind :=
  (p.1, p.2.kind?)

/-- A sound phrase. -/
inductive IsSound : Phrase → Prop
  | leaf (kind : LeafKind) : IsSound (.leaf kind)
  | mark (m : Mark) : IsSound (.mark m)
  | node {kind : PhraseKind} {parts : List (Role × Phrase)} (hne : parts ≠ [])
      (hhold : ∀ p ∈ parts, kind.mayHold (outline p) = true)
      (hfollow : parts.Pairwise fun p q => kind.mayFollow (outline p) (outline q) = true)
      (himport : kind.isImport = true → ∀ p ∈ parts, p.2.IsCallFree)
      (hparts : ∀ p ∈ parts, IsSound p.2) : IsSound (.node kind parts)

/-- Some parts of a phrase are sound. -/
def AreSound (parts : List (Role × Phrase)) : Prop :=
  ∀ p ∈ parts, p.2.IsSound

/-- There are some parts of a phrase, and they are sound. -/
def Fill (parts : List (Role × Phrase)) : Prop :=
  parts ≠ [] ∧ AreSound parts

section Parts

variable {p : Role × Phrase} {ps qs : List (Role × Phrase)}

/-- No parts are sound parts. -/
@[simp, grind .]
lemma areSound_nil : AreSound [] := by
  simp [AreSound]

/-- Parts are sound if the first one and the others are. -/
@[simp, grind =]
lemma areSound_cons : AreSound (p :: ps) ↔ p.2.IsSound ∧ AreSound ps := by
  simp [AreSound]

/-- Parts in two lists are sound if those in each list are. -/
@[simp, grind =]
lemma areSound_append : AreSound (ps ++ qs) ↔ AreSound ps ∧ AreSound qs := by
  simp only [AreSound, List.forall_mem_append]

/-- Sound parts are sound in the opposite order. -/
@[simp, grind =]
lemma areSound_reverse : AreSound ps.reverse ↔ AreSound ps := by
  simp [AreSound]

/-- A sound part is sound as often as it stands there. -/
@[simp]
lemma areSound_replicate (n : Nat) (hp : p.2.IsSound) : AreSound (List.replicate n p) := by
  intro q hq
  rw [(List.mem_replicate.1 hq).2]
  exact hp

/-- A leaf is sound. -/
@[simp, grind .]
lemma isSound_leaf (kind : LeafKind) : (Phrase.leaf kind).IsSound :=
  .leaf kind

/-- A mark is sound. -/
@[simp, grind .]
lemma isSound_mark (m : Mark) : (Phrase.mark m).IsSound :=
  .mark m

/-- A token is sound. -/
@[simp, grind .]
lemma isSound_token : token.2.IsSound :=
  .leaf _

/-- What is seen of a part is its role and the kind of its phrase. -/
@[simp]
lemma outline_mk (role : Role) (x : Phrase) : outline (role, x) = (role, x.kind?) :=
  rfl

/-- What is seen of a plain part is the kind of its phrase. -/
@[simp]
lemma outline_part (x : Phrase) : outline (part x) = (.part, x.kind?) :=
  rfl

/-- Of a token no kind is seen. -/
@[simp]
lemma outline_token : outline token = (.part, none) :=
  rfl

/-- A name is sound. -/
@[simp, grind .]
lemma isSound_namePart : namePart.2.IsSound :=
  .leaf _

/-- A plain part is its phrase. -/
@[simp, grind =]
lemma snd_part (x : Phrase) : (part x).2 = x :=
  rfl

/-- A phrase other than an import is sound if its parts are and may stand where they do. -/
lemma IsSound.of_parts {kind : PhraseKind} (himport : kind.isImport = false) (h : Fill ps)
    (hhold : ∀ p ∈ ps, kind.mayHold (outline p) = true)
    (hfollow : ps.Pairwise fun p q => kind.mayFollow (outline p) (outline q) = true) :
    (Phrase.node kind ps).IsSound := by
  refine .node h.1 hhold hfollow (fun htrue => ?_) h.2
  rw [himport] at htrue
  exact absurd htrue Bool.false_ne_true

/-- A phrase of a kind of whose parts nothing is asked is sound if its parts are. -/
lemma IsSound.free {kind : PhraseKind} (hkind : kind.isFree = true) (h : Fill ps) :
    (Phrase.node kind ps).IsSound := by
  refine .of_parts (PhraseKind.isImport_of_isFree hkind) h ?_ ?_
  · exact fun q _ => PhraseKind.mayHold_of_isFree hkind _
  · exact List.pairwise_of_forall fun _ _ => PhraseKind.mayFollow_of_isFree hkind _ _

/-- The parts of a sound phrase are sound, and there are some. -/
lemma IsSound.fill {kind : PhraseKind} (h : (Phrase.node kind ps).IsSound) : Fill ps := by
  cases h with
  | node hne _ _ _ hparts => exact ⟨hne, hparts⟩

/-- A phrase of no kind of its own is sound if sound parts fill it. -/
@[simp, grind =]
lemma isSound_other : (other ps).IsSound ↔ Fill ps :=
  ⟨IsSound.fill, .free rfl⟩

/-- Parts fill a phrase if the first one and the others are sound. -/
@[simp, grind =]
lemma fill_cons : Fill (p :: ps) ↔ p.2.IsSound ∧ AreSound ps := by
  simp [Fill]

/-- Parts that fill a phrase fill it in the opposite order. -/
@[simp, grind =]
lemma fill_reverse : Fill ps.reverse ↔ Fill ps := by
  simp [Fill]

end Parts

/-! #### Parts that a phrase may have -/

/-- Some parts are sound, and a phrase of the given kind may have them. -/
def Suit (kind : PhraseKind) (parts : List (Role × Phrase)) : Prop :=
  ∀ p ∈ parts, kind.mayHold (outline p) = true ∧ p.2.IsSound

section Suit

variable {kind : PhraseKind} {p : Role × Phrase} {ps qs : List (Role × Phrase)}

/-- No parts suit any phrase. -/
@[simp]
lemma suit_nil : Suit kind [] := by
  simp [Suit]

/-- Parts suit a phrase if the first one and the others do. -/
@[simp]
lemma suit_cons :
    Suit kind (p :: ps) ↔ (kind.mayHold (outline p) = true ∧ p.2.IsSound) ∧ Suit kind ps := by
  simp [Suit]

/-- Parts in two lists suit a phrase if those in each list do. -/
@[simp]
lemma suit_append : Suit kind (ps ++ qs) ↔ Suit kind ps ∧ Suit kind qs := by
  simp only [Suit, List.forall_mem_append]

/-- A phrase whose parts may stand in any order is sound if they suit it. -/
lemma Suit.isSound (himport : kind.isImport = false) (hfollow : ∀ a b, kind.mayFollow a b = true)
    (hne : ps ≠ []) (h : Suit kind ps) : (Phrase.node kind ps).IsSound :=
  .of_parts himport ⟨hne, fun q hq => (h q hq).2⟩ (fun q hq => (h q hq).1)
    (List.pairwise_of_forall fun _ _ => hfollow _ _)

end Suit

/-! #### Parts of imports -/

/-- A sound phrase in which nothing is called. -/
def IsInert (x : Phrase) : Prop :=
  x.IsSound ∧ x.IsCallFree

/-- Some parts of a phrase are sound, and nothing is called in them. -/
def AreInert (parts : List (Role × Phrase)) : Prop :=
  ∀ p ∈ parts, p.2.IsInert

section Inert

variable {p : Role × Phrase} {ps qs : List (Role × Phrase)}

/-- Nothing is called in no parts. -/
@[simp, grind .]
lemma areInert_nil : AreInert [] := by
  simp [AreInert]

/-- Nothing is called in parts if nothing is called in the first one and in the others. -/
@[simp, grind =]
lemma areInert_cons : AreInert (p :: ps) ↔ p.2.IsInert ∧ AreInert ps := by
  simp [AreInert]

/-- Nothing is called in parts in two lists if nothing is called in those in each list. -/
@[simp, grind =]
lemma areInert_append : AreInert (ps ++ qs) ↔ AreInert ps ∧ AreInert qs := by
  simp only [AreInert, List.forall_mem_append]

/-- Nothing is called in parts in the opposite order if nothing is called in them. -/
@[simp, grind =]
lemma areInert_reverse : AreInert ps.reverse ↔ AreInert ps := by
  simp [AreInert]

/-- Nothing is called in a leaf. -/
@[simp, grind .]
lemma isInert_leaf (kind : LeafKind) : (Phrase.leaf kind).IsInert :=
  ⟨.leaf kind, .leaf kind⟩

/-- Nothing is called in a token. -/
@[simp, grind .]
lemma isInert_token : token.2.IsInert :=
  isInert_leaf _

/-- Nothing is called in a name. -/
@[simp, grind .]
lemma isInert_namePart : namePart.2.IsInert :=
  isInert_leaf _

/-- A phrase other than a call is inert if its parts are and nothing else is asked of them. -/
lemma IsInert.free {kind : PhraseKind} (hkind : kind.isFree = true) (hcall : kind ≠ .call)
    (hne : ps ≠ []) (h : AreInert ps) : (Phrase.node kind ps).IsInert :=
  ⟨.free hkind ⟨hne, fun q hq => (h q hq).1⟩, .node hcall fun q hq => (h q hq).2⟩

/-- An import is sound if its parts are inert. -/
lemma IsSound.of_import {kind : PhraseKind} (himport : kind.isImport = true) (hne : ps ≠ [])
    (h : AreInert ps) : (Phrase.node kind ps).IsSound := by
  have hhold : ∀ a, kind.mayHold a = true := by
    cases kind <;> first | exact fun _ => rfl | simp [PhraseKind.isImport] at himport
  have hfollow : ∀ a b, kind.mayFollow a b = true := by
    cases kind <;> first | exact fun _ _ => rfl | simp [PhraseKind.isImport] at himport
  exact .node hne (fun q _ => hhold _) (List.pairwise_of_forall fun _ _ => hfollow _ _)
    (fun _ q hq => (h q hq).2) (fun q hq => (h q hq).1)

end Inert

end Phrase

end Lookalike.Python
