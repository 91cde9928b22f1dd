import Lookalike.Python.Grammar.Statement
import Lookalike.Proofs.Python.Grammar.Simple
import Lookalike.Proofs.Python.Grammar.Matching

/-! ### Sound programs

Compound statements, their clauses and their blocks are sound, given that the expressions and the
suites in them are. By induction on how deep the blocks are nested, a program that can be read is
sound. -/

namespace Lookalike.Python.Grammar

open Phrase

/-! #### What statements give

As with readings, a statement that does not fit gives nothing. -/

section Logic

variable {α β : Type} {P : α → Prop} {Q : β → Prop}

/-- Whatever a statement gives has a property. -/
def Gives (P : α → Prop) (r : Except Nat (α × Words)) : Prop :=
  ∀ a ws, r = .ok (a, ws) → P a

/-- Whatever a clause that may be missing gives has a property. -/
def MayGive (P : α → Prop) (r : Except Nat (Option (α × Words))) : Prop :=
  ∀ a ws, r = .ok (some (a, ws)) → P a

/-- What a statement gives has a property if it is given. -/
@[simp]
lemma gives_ok {a : α} {ws : Words} : Gives P (.ok (a, ws)) ↔ P a := by
  simp [Gives]

/-- A statement that fails gives nothing. -/
@[simp]
lemma gives_error {n : Nat} : Gives P (.error n) := by
  simp [Gives]

/-- What a clause gives has a property if it is given. -/
@[simp]
lemma mayGive_some {a : α} {ws : Words} : MayGive P (.ok (some (a, ws))) ↔ P a := by
  simp [MayGive]

/-- A clause that is missing gives nothing. -/
@[simp]
lemma mayGive_none : MayGive P (.ok none) := by
  simp [MayGive]

/-- A clause that fails gives nothing. -/
@[simp]
lemma mayGive_error {n : Nat} : MayGive P (.error n) := by
  simp [MayGive]

/-- If two steps succeed one after the other, each of them does. -/
lemma exists_of_bind_eq_ok {γ δ : Type} {r : Except Nat γ} {f : γ → Except Nat δ} {c : δ}
    (h : r >>= f = .ok c) : ∃ a, r = .ok a ∧ f a = .ok c := by
  cases r with
  | error => cases h
  | ok a => exact ⟨a, rfl, h⟩

/-- What has a property has a weaker one. -/
lemma Gives.mono {P' : α → Prop} {r : Except Nat (α × Words)} (h : Gives P r)
    (himp : ∀ a, P a → P' a) : Gives P' r :=
  fun a ws hr => himp a (h a ws hr)

/-- What is given after something that has a property. -/
lemma Gives.bind {r : Except Nat (α × Words)} {f : α × Words → Except Nat (β × Words)}
    (h : Gives P r) (hf : ∀ a ws, P a → Gives Q (f (a, ws))) : Gives Q (r >>= f) := by
  intro b ws hb
  obtain ⟨⟨a, ws'⟩, hr, hfa⟩ := exists_of_bind_eq_ok hb
  exact hf a ws' (h a ws' hr) b ws hfa

/-- What is given passes its property on to a clause that may be missing. -/
lemma Gives.bind_mayGive {r : Except Nat (α × Words)}
    {f : α × Words → Except Nat (Option (β × Words))}
    (h : Gives P r) (hf : ∀ a ws, P a → MayGive Q (f (a, ws))) : MayGive Q (r >>= f) := by
  intro b ws hb
  obtain ⟨⟨a, ws'⟩, hr, hfa⟩ := exists_of_bind_eq_ok hb
  exact hf a ws' (h a ws' hr) b ws hfa

/-- What is given after words that only have to be there. -/
lemma gives_bind {γ : Type} {r : Except Nat γ} {f : γ → Except Nat (β × Words)}
    (hf : ∀ c, Gives Q (f c)) : Gives Q (r >>= f) := by
  intro b ws hb
  obtain ⟨c, -, hfc⟩ := exists_of_bind_eq_ok hb
  exact hf c b ws hfc

/-- A statement that depends on a condition gives what both ways give under theirs. -/
lemma gives_ite {c : Prop} [Decidable c] {r r' : Except Nat (α × Words)} :
    Gives P (if c then r else r') ↔ (c → Gives P r) ∧ (¬c → Gives P r') := by
  by_cases hc : c <;> simp [hc]

/-- What is read has its property also where it must not be missing. -/
lemma Yields.fitting {r : Option (α × Words)} (h : Yields P r) (head : Words) :
    Gives P (fitting head r) := by
  cases r with
  | none => exact gives_error
  | some x => exact gives_ok.2 (h x.1 x.2 rfl)

/-- Parts that a step finds have the property that the step gives them. -/
lemma gives_repeated {Q : Role × Phrase → Prop}
    {step : Words → Except Nat (Option ((Role × Phrase) × Words))}
    (hstep : ∀ ws, MayGive Q (step ws)) :
    ∀ (n : Nat) {done : List (Role × Phrase)} (ws : Words), (∀ q ∈ done, Q q) →
      Gives (fun parts => ∀ q ∈ parts, Q q) (repeated step n done ws)
  | 0, done, ws, hdone => gives_ok.2 fun q hq => hdone q (List.mem_reverse.1 hq)
  | n + 1, done, ws, hdone => by
    intro parts ws' h
    obtain ⟨next, hnext, h⟩ := exists_of_bind_eq_ok h
    match next, h with
    | none, h =>
      cases h
      exact fun q hq => hdone q (List.mem_reverse.1 hq)
    | some (x, rest), h =>
      have hx : Q x := hstep ws x rest hnext
      exact gives_repeated hstep n rest (List.forall_mem_cons.2 ⟨hx, hdone⟩) parts ws' h

end Logic

variable {d : Depth} {p : Place} {ws head : Words} {suite : Suite} {indent : Nat}

/-- Whatever a suite gives is sound. -/
def Suite.IsSound (suite : Suite) : Prop :=
  ∀ indent ws, Gives Phrase.IsSound (suite indent ws)

/-- A suite behind its colon is sound. -/
lemma gives_colonSuite (hsuite : suite.IsSound) :
    Gives IsSound (colonSuite suite indent head ws) :=
  gives_bind fun _ => hsuite _ _

/-! #### Clauses -/

/-- A part in a role is sound. -/
def IsSoundIn (role : Role) (x : Role × Phrase) : Prop :=
  x.1 = role ∧ x.2.IsSound

/-- A clause of a keyword and a suite is sound in its role. -/
lemma gives_plainClause (hsuite : suite.IsSound) (keyword : String) (role : Role)
    {kind : PhraseKind} (hkind : kind.isFree = true) :
    Gives (fun parts => ∀ x ∈ parts, IsSoundIn role x)
      (plainClause suite indent keyword role kind ws) := by
  refine gives_ite.2 ⟨fun _ => ?_, fun _ => by simp⟩
  refine (gives_colonSuite hsuite).bind fun body rest hbody => gives_ok.2 ?_
  have hclause : (Phrase.node kind [token, token, (.body, body)]).IsSound :=
    .free hkind (by simpa using hbody)
  simpa [IsSoundIn] using hclause

/-- The clause that stands for all other cases is a sound alternative. -/
lemma gives_elseClause (hsuite : suite.IsSound) :
    Gives (fun parts => ∀ x ∈ parts, IsSoundIn .alternative x) (elseClause suite indent ws) :=
  gives_plainClause hsuite _ _ rfl

/-- A clause with a further condition is a sound alternative. -/
lemma mayGive_elifClause (hd : d.IsSound) (hsuite : suite.IsSound) :
    MayGive (IsSoundIn .alternative) (elifClause d suite indent ws) := by
  unfold elifClause
  split
  · refine ((hd _ _ _).fitting _).bind_mayGive fun condition rest hcondition => ?_
    refine (gives_colonSuite hsuite).bind_mayGive fun body rest hbody => mayGive_some.2 ⟨rfl, ?_⟩
    exact .free rfl (by simpa using ⟨hcondition, hbody⟩)
  · exact mayGive_none

/-- What a handler catches is made of sound parts. -/
lemma yields_caught (hd : d.IsSound) : Yields AreSound (caught d p ws) := by
  unfold caught
  refine yields_ite.2 ⟨fun _ => by simp, fun _ => ?_⟩
  dsimp only
  refine (hd _ _ _).bind fun error ws herror => ?_
  refine yields_ite.2 ⟨fun _ => ?_, fun _ => yields_some.2 (by grind)⟩
  refine (hd _ _ _).bind fun name ws hname => yields_some.2 ?_
  grind

/-- A handler of errors is a sound part. -/
lemma mayGive_exceptClause (hd : d.IsSound) (hsuite : suite.IsSound) :
    MayGive (fun x => x.2.IsSound) (exceptClause d suite indent ws) := by
  unfold exceptClause
  split
  · refine ((yields_caught hd).fitting _).bind_mayGive fun parts rest hparts => ?_
    refine (gives_colonSuite hsuite).bind_mayGive fun body rest hbody => mayGive_some.2 ?_
    exact .free rfl (by simpa using ⟨hparts, hbody⟩)
  · exact mayGive_none

/-! #### Compound statements -/

/-- What follows its keyword makes a sound choice. -/
lemma gives_ifRest (hd : d.IsSound) (hsuite : suite.IsSound) :
    Gives IsSound (ifRest d suite indent head ws) := by
  refine ((hd _ _ _).fitting _).bind fun condition ws hcondition => ?_
  refine (gives_colonSuite hsuite).bind fun body ws hbody => ?_
  refine (gives_repeated (fun _ => mayGive_elifClause hd hsuite) _ _ (by simp)).bind
    fun elifs ws helifs => ?_
  refine (gives_elseClause hsuite).bind fun otherwise ws hotherwise => gives_ok.2 ?_
  have hclauses : Suit .ifStatement (elifs ++ otherwise) := fun x hx => by
    obtain ⟨hrole, hsound⟩ := List.forall_mem_append.2 ⟨helifs, hotherwise⟩ x hx
    exact ⟨by simp [PhraseKind.mayHold, outline, hrole], hsound⟩
  refine Suit.isSound rfl (fun _ _ => rfl) (by simp) ?_
  rw [List.append_assoc, suit_append]
  exact ⟨by simp [PhraseKind.mayHold, hcondition, hbody], hclauses⟩

/-- What follows its keyword makes a sound loop over items. -/
lemma gives_forRest (hd : d.IsSound) (hsuite : suite.IsSound) {opening : List (Role × Phrase)}
    (hopening : AreSound opening) : Gives IsSound (forRest d suite indent opening head ws) := by
  refine ((yields_targets fun _ => hd .target _ _).fitting _).bind fun left ws hleft => ?_
  refine gives_bind fun ws => ?_
  refine ((yields_expressions hd).fitting _).bind fun right ws hright => ?_
  refine (gives_colonSuite hsuite).bind fun body ws hbody => ?_
  refine (gives_elseClause hsuite).bind fun otherwise ws hotherwise => gives_ok.2 ?_
  have hotherwise : AreSound otherwise := fun x hx => (hotherwise x hx).2
  exact .free rfl (by simp [Fill, hopening, hleft, hright, hbody, hotherwise])

/-- What follows its keyword makes a sound loop under a condition. -/
lemma gives_whileRest (hd : d.IsSound) (hsuite : suite.IsSound) :
    Gives IsSound (whileRest d suite indent head ws) := by
  refine ((hd _ _ _).fitting _).bind fun condition ws hcondition => ?_
  refine (gives_colonSuite hsuite).bind fun body ws hbody => ?_
  refine (gives_elseClause hsuite).bind fun otherwise ws hotherwise => gives_ok.2 ?_
  have hotherwise : AreSound otherwise := fun x hx => (hotherwise x hx).2
  exact .free rfl (by simp [hcondition, hbody, hotherwise])

/-- What follows its keyword makes a sound attempt. -/
lemma gives_tryRest (hd : d.IsSound) (hsuite : suite.IsSound) :
    Gives IsSound (tryRest d suite indent head ws) := by
  unfold tryRest
  refine (gives_colonSuite hsuite).bind fun body ws hbody => ?_
  refine (gives_repeated (fun _ => mayGive_exceptClause hd hsuite) _ _ (by simp)).bind
    fun handlers ws hhandlers => ?_
  dsimp -zetaHave only
  extract_lets rest
  have hrest : ∀ otherwise ws, (∀ x ∈ otherwise, IsSoundIn .alternative x) →
      Gives IsSound (rest (otherwise, ws)) := by
    intro otherwise ws hotherwise
    refine (gives_plainClause hsuite _ _ rfl).bind fun last ws hlast => ?_
    refine gives_ite.2 ⟨fun _ => gives_error, fun _ => gives_ok.2 (.free rfl ?_)⟩
    have hotherwise : AreSound otherwise := fun x hx => (hotherwise x hx).2
    have hlast : AreSound last := fun x hx => (hlast x hx).2
    have hhandlers : AreSound handlers := hhandlers
    simp [hbody, hhandlers, hotherwise, hlast]
  split
  · exact hrest _ _ (by simp)
  · exact (gives_elseClause hsuite).bind hrest

/-- An item of a context is a sound part. -/
lemma yields_contextItem (hd : d.IsSound) :
    Yields (fun x => x.2.IsSound) (contextItem d p ws) := by
  refine (hd _ _ _).bind fun x ws hx => yields_some.2 ?_
  exact .free rfl (by simpa using hx)

/-- The items of a context are sound, in parentheses or without. -/
lemma yields_context (hd : d.IsSound) : Yields IsSound (context d p ws) := by
  have hstep : ∀ done ws, Fill done → (contextStep d p done ws).Yields Fill := by
    intro done ws hdone parts rest h
    have hdone : AreSound done := hdone.2
    have hitem : ∀ x rest, contextItem d p ws.tail = some (x, rest) → x.2.IsSound :=
      yields_contextItem hd
    grind [contextStep]
  have hparenthesized : Yields Fill (parenthesizedContext d p ws) := by
    refine yields_bind fun ws _ => ?_
    refine yields_ite.2 ⟨fun _ => yields_none, fun _ => ?_⟩
    refine (yields_itemsUntil (fun _ => yields_contextItem hd) _ _ _ (by simp)).bind
      fun parts ws hparts => ?_
    exact yields_ite.2 ⟨fun _ => yields_some.2 hparts, fun _ => yields_none⟩
  unfold context
  split
  · next parts rest hparts =>
    exact yields_some.2 (.free rfl (hparenthesized _ _ hparts))
  · refine (yields_contextItem hd).bind fun x ws hx => ?_
    refine (yields_iterate hstep _ _ (by simpa using hx)).bind fun parts ws hparts => ?_
    exact yields_some.2 (.free rfl (fill_reverse.2 hparts))

/-- What follows its keyword makes a sound statement with a context. -/
lemma gives_withRest (hd : d.IsSound) (hsuite : suite.IsSound) {opening : List (Role × Phrase)}
    (hopening : AreSound opening) : Gives IsSound (withRest d suite indent opening head ws) := by
  refine ((yields_context hd).fitting _).bind fun clause ws hclause => ?_
  refine (gives_colonSuite hsuite).bind fun body ws hbody => gives_ok.2 (.free rfl ?_)
  simp [Fill, hopening, hclause, hbody]

/-! #### Definitions -/

/-- A sound definition of a function or a class. -/
def IsSoundDefinition (x : Phrase) : Prop :=
  x.IsSound ∧ (x.kind? = some .functionDefinition ∨ x.kind? = some .classDefinition)

/-- There is at most one part with the parameters of types, and it is sound. -/
lemma yields_typeParameters (hd : d.IsSound) :
    Yields (fun parts => parts = [] ∨ ∃ x, x.IsSound ∧ parts = [part x])
      (typeParameters d p ws) := by
  refine yields_ite.2 ⟨fun _ => ?_, fun _ => by simp⟩
  refine yields_ite.2 ⟨fun _ => yields_none, fun _ => ?_⟩
  refine (yields_itemsUntil (fun _ => yields_asPart (hd _ _ _)) _ _ _ (by simp)).bind
    fun parts ws hparts => ?_
  exact yields_some.2 (.inr ⟨_, isSound_other.2 hparts, rfl⟩)

/-- The parameters of a function in their parentheses are sound. -/
lemma yields_parameters (hd : d.IsSound) : Yields IsSound (parameters d p ws) := by
  refine yields_bind fun ws _ => ?_
  refine
    (yields_itemsUntil (fun _ => yields_asPart (yields_parameter hd true)) _ _ _ (by simp)).bind
      fun parts ws hparts => ?_
  simpa using hparts

/-- The type of a result suits the definition of a function. -/
lemma yields_resultType (hd : d.IsSound) :
    Yields (Suit .functionDefinition) (resultType d p ws) := by
  refine yields_ite.2 ⟨fun _ => ?_, fun _ => by simp⟩
  refine (hd _ _ _).bind fun type ws htype => ?_
  simpa [PhraseKind.mayHold] using htype

/-- The name, the parameters and the type of a result suit the definition of a function. -/
lemma yields_functionHead (hd : d.IsSound) :
    Yields (Suit .functionDefinition) (functionHead d p ws) := by
  refine yields_bind fun ws _ => ?_
  refine (yields_typeParameters hd).bind fun types ws htypes => ?_
  refine (yields_parameters hd).bind fun parameters ws hparameters => ?_
  refine (yields_resultType hd).bind fun result ws hresult => yields_some.2 ?_
  have htypes : Suit .functionDefinition types := by
    obtain rfl | ⟨x, hx, rfl⟩ := htypes
    · exact suit_nil
    · simpa [PhraseKind.mayHold] using hx
  simp [PhraseKind.mayHold, htypes, hparameters, hresult]

/-- What follows its keyword makes a sound definition of a function. -/
lemma gives_functionRest (hd : d.IsSound) (hsuite : suite.IsSound)
    {opening : List (Role × Phrase)} (hopening : Suit .functionDefinition opening) :
    Gives IsSoundDefinition (functionRest d suite indent opening head ws) := by
  refine ((yields_functionHead hd).fitting _).bind fun parts ws hparts => ?_
  refine (gives_colonSuite hsuite).bind fun body ws hbody => gives_ok.2 ⟨?_, .inl rfl⟩
  refine Suit.isSound rfl (fun _ _ => rfl) (by simp) ?_
  simp [PhraseKind.mayHold, hopening, hparts, hbody]

/-- The bases of a class suit its definition. -/
lemma yields_superclasses (hd : d.IsSound) :
    Yields (Suit .classDefinition) (superclasses d p ws) := by
  refine yields_ite.2 ⟨fun _ => ?_, fun _ => by simp⟩
  refine (yields_argumentList hd).bind fun bases ws hbases => ?_
  simpa [PhraseKind.mayHold] using hbases

/-- The name, the type parameters and the bases suit the definition of a class. -/
lemma yields_classHead (hd : d.IsSound) : Yields (Suit .classDefinition) (classHead d p ws) := by
  refine yields_bind fun ws _ => ?_
  refine (yields_typeParameters hd).bind fun types ws htypes => ?_
  refine (yields_superclasses hd).bind fun bases ws hbases => yields_some.2 ?_
  have htypes : Suit .classDefinition types := by
    obtain rfl | ⟨x, hx, rfl⟩ := htypes
    · exact suit_nil
    · simpa [PhraseKind.mayHold] using hx
  simp [PhraseKind.mayHold, htypes, hbases]

/-- What follows its keyword makes a sound definition of a class. -/
lemma gives_classRest (hd : d.IsSound) (hsuite : suite.IsSound) :
    Gives IsSoundDefinition (classRest d suite indent head ws) := by
  refine ((yields_classHead hd).fitting _).bind fun parts ws hparts => ?_
  refine (gives_colonSuite hsuite).bind fun body ws hbody => gives_ok.2 ⟨?_, .inr rfl⟩
  refine Suit.isSound rfl (fun _ _ => rfl) (by simp) ?_
  simp [PhraseKind.mayHold, hparts, hbody]

/-- A part is a sound decorator. -/
def IsSoundDecorator (x : Role × Phrase) : Prop :=
  x.2.IsSound ∧ outline x = (.part, some .decorator)

/-- A decorator is sound, and in its role. -/
lemma mayGive_decorator (hd : d.IsSound) : MayGive IsSoundDecorator (decorator d indent ws) := by
  unfold decorator
  split
  · refine ((hd _ _ _).fitting _).bind_mayGive fun x rest hx => ?_
    dsimp only
    split
    · exact mayGive_some.2 ⟨.free rfl (by simpa using hx), rfl⟩
    · exact mayGive_error
  · exact mayGive_none

/-- Decorators with a definition under them are sound. -/
lemma isSound_decorated {decorators : List (Role × Phrase)} {definition : Phrase}
    (hdecorators : ∀ x ∈ decorators, IsSoundDecorator x)
    (hdefinition : IsSoundDefinition definition) :
    (Phrase.node .decoratedDefinition (decorators ++ [(.definition, definition)])).IsSound := by
  have hfollow : ∀ x ∈ decorators, ∀ b,
      PhraseKind.mayFollow .decoratedDefinition (outline x) b = true := by
    intro x hx b
    rw [(hdecorators x hx).2]
    exact PhraseKind.mayFollow_part _ b
  refine .of_parts rfl ⟨by simp, ?_⟩ ?_ ?_
  · refine areSound_append.2 ⟨fun x hx => (hdecorators x hx).1, ?_⟩
    simpa using hdefinition.1
  · refine List.forall_mem_append.2 ⟨fun x hx => ?_, fun x hx => ?_⟩
    · rw [(hdecorators x hx).2]
      rfl
    · obtain rfl := List.mem_singleton.1 hx
      rw [outline_mk]
      obtain hkind | hkind := hdefinition.2 <;> rw [hkind] <;> rfl
  · refine List.pairwise_append.2 ⟨?_, List.pairwise_singleton _ _, fun x hx y _ => hfollow x hx _⟩
    exact List.pairwise_of_forall_mem_list fun x hx y _ => hfollow x hx _

/-- Decorators with the definition under them are sound, since the definition comes last. -/
lemma gives_decorated (hd : d.IsSound) (hsuite : suite.IsSound) :
    Gives IsSound (decorated d suite indent ws) := by
  refine (gives_repeated (fun _ => mayGive_decorator hd) _ _ (by simp)).bind
    fun decorators ws hdecorators => ?_
  dsimp -zetaHave only
  extract_lets p rest
  have hrest : ∀ definition ws, IsSoundDefinition definition →
      Gives IsSound (rest (definition, ws)) := fun _ _ hdefinition =>
    gives_ok.2 (isSound_decorated hdecorators hdefinition)
  split
  · exact (gives_functionRest hd hsuite (by simp)).bind hrest
  · split
    · exact (gives_classRest hd hsuite).bind hrest
    · split
      · exact (gives_functionRest hd hsuite (by simp)).bind hrest
      · exact gives_error

/-! #### Matching -/

/-- The subjects that are matched are sound parts. -/
lemma yields_subjects (hd : d.IsSound) : Yields AreSound (subjects d p ws) := by
  have hstep : ∀ done ws, AreSound done → (subjectStep d p done ws).Yields AreSound := by
    intro done ws hdone parts rest h
    grind [subjectStep]
  refine (hd _ _ _).bind fun x ws hx => ?_
  refine (yields_iterate hstep _ _ (by simpa using hx)).bind fun parts ws hparts => ?_
  refine yields_bind fun ws _ => ?_
  simpa using hparts

/-- A case is a sound part. -/
lemma mayGive_caseClause (hd : d.IsSound) (hsuite : suite.IsSound) :
    MayGive (fun x => x.2.IsSound) (caseClause d suite indent ws) := by
  unfold caseClause
  split
  · split
    · exact mayGive_none
    · split
      · refine ((yields_caseHead hd).fitting _).bind_mayGive fun parts rest hparts => ?_
        refine (hsuite _ _).bind_mayGive fun body rest hbody => mayGive_some.2 ?_
        exact .free rfl (by simp [Fill, hparts, hbody])
      · exact mayGive_error
  · exact mayGive_error

/-- What follows its keyword makes a sound choice between patterns. -/
lemma gives_matchRest (hd : d.IsSound) (hsuite : suite.IsSound) :
    Gives IsSound (matchRest d suite indent head ws) := by
  refine ((yields_subjects hd).fitting _).bind fun parts ws hparts => ?_
  have hmatch : ∀ block : Phrase, block.IsSound →
      (Phrase.node .matchStatement (token :: parts ++ [(.body, block)])).IsSound :=
    fun block hblock => .free rfl (by simp [hparts, hblock])
  dsimp only
  split
  · exact gives_error
  · refine gives_ite.2 ⟨fun _ => ?_, fun _ => gives_ok.2 (hmatch _ (.free rfl (by simp)))⟩
    refine (gives_repeated (fun _ => mayGive_caseClause hd hsuite) _ _ (by simp)).bind
      fun cases ws hcases => gives_ok.2 (hmatch _ (.free rfl ?_))
    have hcases : AreSound cases := hcases
    simp [hcases]

/-! #### Statements and blocks -/

/-- A sound statement with a suite is a sound part by itself. -/
lemma Gives.compound {r : Except Nat (Phrase × Words)} (h : Gives IsSound r) :
    Gives AreSound (r.map fun (x, ws) => ([part x], ws)) := by
  intro parts rest hparts
  cases r with
  | error => cases hparts
  | ok x =>
    cases hparts
    simpa using h x.1 x.2 rfl

/-- A statement, or the simple ones on one line, are sound parts. -/
lemma gives_statement (hd : d.IsSound) (hsuite : suite.IsSound) :
    Gives AreSound (statement d suite indent ws) := by
  unfold statement
  extract_lets compound line p opening
  have hline : Gives AreSound line :=
    ((yields_simpleLine hd _ _ areSound_nil).fitting ws).mono fun _ hparts => hparts.2
  have hone : AreSound [token] := by simp
  have htwo : AreSound opening := by simp [opening]
  split
  · exact gives_error
  · split
    · exact (gives_decorated hd hsuite).compound
    · split
      · split
        · exact (gives_ifRest hd hsuite).compound
        · exact (gives_forRest hd hsuite hone).compound
        · exact (gives_whileRest hd hsuite).compound
        · exact (gives_tryRest hd hsuite).compound
        · exact (gives_withRest hd hsuite hone).compound
        · exact ((gives_functionRest hd hsuite (by simp)).mono fun _ hx => hx.1).compound
        · exact ((gives_classRest hd hsuite).mono fun _ hx => hx.1).compound
        · split
          · exact (gives_matchRest hd hsuite).compound
          · exact hline
        · split
          · refine Gives.compound ?_
            exact (gives_functionRest hd hsuite (by simp [opening])).mono fun _ hx => hx.1
          · split
            · exact (gives_forRest hd hsuite htwo).compound
            · split
              · exact (gives_withRest hd hsuite htwo).compound
              · exact hline
        · exact hline
      · exact hline

/-- Statements one after another are sound parts. The induction is on the number of words. -/
lemma gives_statements {read : Words → Except Nat (List (Role × Phrase) × Words)}
    (hread : ∀ ws, Gives AreSound (read ws)) (ends : Word → Bool) :
    ∀ (n : Nat) {done : List (Role × Phrase)} (ws : Words), AreSound done →
      Gives AreSound (statements read ends n done ws)
  | 0, _, _, _ => gives_error
  | n + 1, done, ws, hdone => by
    unfold statements
    split
    · refine gives_ite.2 ⟨fun _ => gives_ok.2 (areSound_reverse.2 hdone), fun _ => ?_⟩
      refine (hread _).bind fun parts ws hparts => gives_statements hread ends n ws ?_
      simpa using ⟨hparts, hdone⟩
    · exact gives_error

/-- A suite is sound, if the suites inside it are. -/
lemma gives_suiteWith (hd : d.IsSound) (hsuite : suite.IsSound) :
    Gives IsSound (suiteWith d suite indent ws) := by
  unfold suiteWith
  split
  · refine ((yields_simpleLine hd _ _ areSound_nil).fitting _).bind fun parts ws hparts => ?_
    exact gives_ok.2 (.free rfl hparts)
  · refine gives_ite.2 ⟨fun _ => ?_, fun _ => gives_ok.2 (.free rfl (by simp))⟩
    refine (gives_statements (fun _ => gives_statement hd hsuite) _ _ _ areSound_nil).bind
      fun parts ws hparts => gives_ok.2 (.free rfl ?_)
    simp [hparts]

/-- The suites of each depth are sound. -/
lemma isSound_readSuite (hd : d.IsSound) : ∀ n, (readSuite d n).IsSound
  | 0 => fun _ _ => gives_error
  | n + 1 => fun _ _ => gives_suiteWith hd (isSound_readSuite hd n)

/-- The parts of a program that can be read are sound. -/
theorem areSound_of_readProgram {x : Phrase} (h : readProgram ws = .ok x) :
    ∃ parts, x = .other parts ∧ AreSound parts := by
  have hd := isSound_depth (20 * (ws.length + 5))
  obtain ⟨⟨parts, rest⟩, hparts, h⟩ := exists_of_bind_eq_ok h
  dsimp only at h
  split at h
  · cases h
    exact ⟨parts, rfl, gives_statements (fun _ => gives_statement hd (isSound_readSuite hd _)) _ _ _
      areSound_nil parts rest hparts⟩
  · cases h

/-- So are those of a whole program. -/
theorem areSound_of_program {x : Phrase} (h : program ws = .ok x) :
    ∃ parts, x = .other parts ∧ AreSound parts := by
  obtain ⟨-, -, h⟩ := exists_of_bind_eq_ok h
  exact areSound_of_readProgram h

end Lookalike.Python.Grammar
