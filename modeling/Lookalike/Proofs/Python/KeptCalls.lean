import Lookalike.Proofs.Python.CallSites
import Lookalike.Proofs.Python.Collecting

/-! ### Calls in features

The calls in what a tree is lowered to are those that are kept of the tree. In the features of a
program each of them has a token, and its name if what is called has one. -/

namespace Lookalike.Python

open ConcreteTree

/-! #### Calls in what a tree is lowered to -/

/-- Whether a construct is a call. -/
def Construct.isCall : Construct → Bool
  | .call _ _ _ => true
  | _ => false

namespace SyntaxTree

/-- The construct at the root of a tree, with its lines. -/
def head (t : SyntaxTree) : Head :=
  ⟨t.construct, t.firstLine, t.lastLine⟩

/-- The calls in some trees, with their lines. -/
def callsIn (ts : List SyntaxTree) : List Head :=
  ((ts.flatMap walk).filter (·.construct.isCall)).map head

end SyntaxTree

open SyntaxTree

namespace ConcreteTree

/-- What a call is lowered to, apart from what is inside it. -/
def callHead (call : ConcreteTree) : Head :=
  call.headWith (.call (calleeOf call) (argumentCounts call).1 (argumentCounts call).2)

end ConcreteTree

/-- The calls in what some trees are lowered to are those of each tree. -/
lemma callsIn_flatMap_lower (ts : List ConcreteTree) :
    callsIn (ts.flatMap lower) = ts.flatMap fun t => callsIn (lower t) := by
  induction ts with
  | nil => rfl
  | cons t ts ih =>
    rw [List.flatMap_cons, List.flatMap_cons, ← ih, callsIn, List.flatMap_append,
      List.filter_append,
      List.map_append]
    rfl

/-- The calls in a tree are the tree itself, if it is a call, and those inside it. -/
lemma callsIn_singleton (c : Construct) (first last : Nat) (inner : List SyntaxTree) :
    callsIn [.node c first last inner] =
      (if c.isCall then [⟨c, first, last⟩] else []) ++ callsIn inner := by
  have hwalk : (SyntaxTree.node c first last inner).walk =
      .node c first last inner :: inner.flatMap walk := walk_eq_cons _
  have hcall : (SyntaxTree.node c first last inner).construct.isCall = c.isCall := rfl
  rw [callsIn, List.flatMap_singleton, hwalk, List.filter_cons, hcall]
  cases c.isCall <;> rfl

/-- A definition is no call. -/
lemma isCall_definitionHead (kind : PhraseKind) (decorators : Nat) (t : ConcreteTree) :
    (definitionHead kind decorators t).isCall = false := by
  unfold definitionHead
  split <;> rfl

/-- Only calls have constructs that are calls. -/
lemma isCall_of_head? {kind : PhraseKind} (hkind : kind ≠ .call)
    {children : List (Role × ConcreteTree)} {head : Head}
    (h : (ConcreteTree.node kind children).head? = some head) : head.construct.isCall = false := by
  cases kind
  case call => exact absurd rfl hkind
  case decoratedDefinition =>
    obtain ⟨⟨kind, inner⟩, -, rfl⟩ := Option.map_eq_some_iff.1 h
    exact isCall_definitionHead _ _ _
  all_goals cases h <;> rfl

/-- The calls in what a tree is lowered to are the tree itself, if it is a call, and those inside
it. -/
lemma callsIn_wrap (t : ConcreteTree) (inner : List SyntaxTree) :
    callsIn (wrap t.head? inner) =
      (if t.is .call then [t.callHead] else []) ++ callsIn inner := by
  match t with
  | .leaf _ _ | .comment _ | .joint _ | .mark _ _ => rfl
  | .node kind children =>
    have his : (ConcreteTree.node kind children).is .call = decide (kind = .call) := by
      simp [is, kind?]
    rw [his]
    by_cases hkind : kind = .call
    · subst hkind
      exact callsIn_singleton _ _ _ inner
    · rw [decide_eq_false hkind, if_neg Bool.false_ne_true, List.nil_append]
      cases hhead : (ConcreteTree.node kind children).head? with
      | none => rfl
      | some head =>
        rw [wrap, callsIn_singleton, isCall_of_head? hkind hhead]
        rfl

/-- **Calls that are kept.** -/
theorem callsIn_lower {t : ConcreteTree} (h : t.IsSound) :
    callsIn (lower t) = t.keptCalls.map callHead := by
  induction t using inside_induction with
  | h t ih =>
    rw [lower_eq_wrap, callsIn_wrap, callsIn_flatMap_lower, h.keptCalls_eq, List.map_append,
      List.map_flatMap]
    congr 1
    · split <;> rfl
    · exact List.flatMap_congr fun u hu => ih u hu (h.insides u hu)

/-! #### Closed constructs -/

/-- Something counts inside a definition. -/
lemma isClosed_definitionHead (kind : PhraseKind) (decorators : Nat) (t : ConcreteTree) :
    (definitionHead kind decorators t).isClosed = false := by
  unfold definitionHead
  split <;> rfl

/-- Nothing counts inside an import and inside statements of one keyword alone. -/
lemma cases_of_isClosed {kind : PhraseKind} {children : List (Role × ConcreteTree)} {head : Head}
    (h : (ConcreteTree.node kind children).head? = some head)
    (hclosed : head.construct.isClosed = true) :
    kind.isImport = true ∨ kind = .breakStatement ∨ kind = .continueStatement ∨
      kind = .passStatement := by
  cases kind
  case importStatement | importFromStatement | futureImportStatement => exact .inl rfl
  case breakStatement => exact .inr (.inl rfl)
  case continueStatement => exact .inr (.inr (.inl rfl))
  case passStatement => exact .inr (.inr (.inr rfl))
  case decoratedDefinition =>
    obtain ⟨⟨kind, inner⟩, -, rfl⟩ := Option.map_eq_some_iff.1 h
    rw [isClosed_definitionHead] at hclosed
    cases hclosed
  all_goals cases h <;> cases hclosed

/-- Imports have no insides, and breaks, continues and passes have no parts with parts. -/
lemma lower_insides_of_isClosed {t : ConcreteTree} (h : t.IsSound) {head : Head}
    (hhead : t.head? = some head) (hclosed : head.construct.isClosed = true) :
    t.insides.flatMap lower = [] := by
  cases h with
  | @single t h =>
    match t with
    | .leaf _ _ | .comment _ | .joint _ | .mark _ _ => cases hhead
    | .node _ _ => cases h
  | @node kind children _ hhold _ _ _ =>
    have hleaves (hleaf : ∀ a : Role × Option PhraseKind, kind.mayHold a = a.2.isNone) :
        (children.map (·.2)).flatMap lower = [] := by
      rw [List.flatMap_map, List.flatMap_eq_nil_iff]
      intro p hp
      have hnone := hhold p hp
      rw [hleaf, Option.isNone_iff_eq_none] at hnone
      exact lower_of_kind? hnone
    obtain himport | rfl | rfl | rfl := cases_of_isClosed hhead hclosed
    · cases kind <;> first | rfl | cases himport
    · exact hleaves fun _ => rfl
    · exact hleaves fun _ => rfl
    · exact hleaves fun _ => rfl

/-- In what a sound tree is lowered to nothing stands inside closed constructs. -/
lemma children_eq_nil_of_isClosed {t : ConcreteTree} (h : t.IsSound) :
    ∀ s ∈ (lower t).flatMap walk, s.construct.isClosed = true → s.children = [] := by
  induction t using inside_induction with
  | h t ih =>
    have hinner : ∀ s ∈ (t.insides.flatMap lower).flatMap walk,
        s.construct.isClosed = true → s.children = [] := by
      intro s hs
      rw [List.flatMap_assoc] at hs
      obtain ⟨u, hu, hs⟩ := List.mem_flatMap.1 hs
      exact ih u hu (h.insides u hu) s hs
    rw [lower_eq_wrap]
    cases hhead : t.head? with
    | none => exact hinner
    | some head =>
      intro s hs hclosed
      rw [wrap, List.flatMap_singleton, walk_eq_cons] at hs
      obtain rfl | hs := List.mem_cons.1 hs
      · exact lower_insides_of_isClosed h hhead hclosed
      · exact hinner s hs hclosed

/-! #### Tokens of calls -/

/-- Whether a structure token is that of a call. -/
def isCallToken (token : String) : Bool :=
  "CALL_ARGS:".toList.isPrefixOf token.toList

/-- The tokens of a construct that are those of a call. -/
def Construct.callTokens : Construct → List String
  | .call _ arguments _ => [counted "CALL_ARGS" arguments]
  | _ => []

/-- A token is not that of a call if it begins in another way. -/
lemma isCallToken_append {a : String}
    (ha : "CALL_ARGS:".toList.take a.toList.length ≠ a.toList.take 10) (b : String) :
    isCallToken (a ++ b) = false := by
  rw [isCallToken, Bool.eq_false_iff, ne_eq, List.isPrefixOf_iff_prefix, String.toList_append]
  rintro ⟨rest, hrest⟩
  apply ha
  have htake := congrArg (List.take 10) hrest
  rw [List.take_append_of_le_length (by decide), List.take_of_length_le (by decide)] at htake
  rw [htake, List.take_take, Nat.min_comm, ← List.take_take, List.take_left]

/-- A counted token is none of a call if its tag does not begin like that of one. -/
lemma isCallToken_counted {tag : String}
    (htag : "CALL_ARGS:".toList.take tag.toList.length ≠ tag.toList.take 10) (n : Nat) :
    isCallToken (counted tag n) = false := by
  rw [counted, String.append_assoc]
  exact isCallToken_append htag _

/-- A token that is none of a call is none whether it applies or not. -/
lemma filter_tokenIf {token : String} (h : isCallToken token = false) (applies : Bool) :
    (tokenIf applies token).filter isCallToken = [] := by
  cases applies <;> simp [tokenIf, h]

/-- Of the tokens of a construct the one that a call has is that of a call. -/
lemma filter_ownTokens (t : SyntaxTree) :
    t.ownTokens.filter isCallToken = t.construct.callTokens := by
  obtain ⟨c, first, last, children⟩ := t
  change (c.findings 0 children).structureTokens.filter isCallToken = c.callTokens
  cases c
  case call callee arguments keywords =>
    have hcall : isCallToken (counted "CALL_ARGS" arguments) = true := by
      rw [isCallToken, counted, List.isPrefixOf_iff_prefix, String.toList_append]
      exact List.prefix_append _ _
    change (counted "CALL_ARGS" arguments :: tokenIf (keywords != 0) _).filter isCallToken = _
    rw [List.filter_cons_of_pos hcall, filter_tokenIf (isCallToken_counted (by decide) _)]
    rfl
  case function head =>
    change (FunctionHead.tokens head).filter isCallToken = []
    rw [FunctionHead.tokens, List.filter_cons_of_neg (by simp [isCallToken_counted]),
      List.filter_append, List.filter_append, List.filter_append, filter_tokenIf (by decide),
      filter_tokenIf (by decide), filter_tokenIf (isCallToken_counted (by decide) _),
      filter_tokenIf (by decide)]
    rfl
  case «class» head =>
    change (classTokens head children).filter isCallToken = []
    rw [classTokens, List.filter_append, filter_tokenIf (isCallToken_counted (by decide) _)]
    simp (disch := decide) [isCallToken_counted]
  case assignment targets value =>
    change (assignmentTokens targets value).filter isCallToken = []
    rw [assignmentTokens, List.filter_cons_of_neg (by simp (disch := decide) [isCallToken_append]),
      List.filter_eq_nil_iff]
    intro token htoken
    obtain ⟨target, -, htarget⟩ := List.mem_filterMap.1 htoken
    split at htarget
    · cases htarget
      simp (disch := decide) [isCallToken_counted]
    · cases htarget
  -- No other construct has counted tokens that begin like those of a call.
  all_goals
    simp (disch := decide) [Construct.findings, Construct.callTokens, Findings.tokens,
      Findings.control, Findings.none, isCallToken_counted, isCallToken_append, String.append_assoc]

/-! #### Programs -/

/-- The visits to a tree in which nothing stands inside closed constructs are to the trees that a
walk meets. -/
lemma flatMap_visits {β : Type} {t : SyntaxTree}
    (h : ∀ s ∈ t.walk, s.construct.isClosed = true → s.children = []) (f : SyntaxTree → List β) :
    t.visits.flatMap (fun v => f v.tree) = t.walk.flatMap f := by
  rw [walk_eq_preorder] at h ⊢
  rw [← t.map_tree_visits h, List.flatMap_map]

/-- Where nothing stands inside closed constructs, the structure tokens are those of all trees on a
walk. -/
lemma structureTokens_ofTree {t : SyntaxTree}
    (h : ∀ s ∈ t.walk, s.construct.isClosed = true → s.children = []) :
    (Features.ofTree t).structureTokens = t.walk.flatMap SyntaxTree.ownTokens := by
  rw [← flatMap_visits h, ← structureTokens_gather 0, ← findings_eq_gather]
  rfl

/-- Where nothing stands inside closed constructs, the callees are those of all trees on a walk. -/
lemma calls_ofTree {t : SyntaxTree}
    (h : ∀ s ∈ t.walk, s.construct.isClosed = true → s.children = []) :
    (Features.ofTree t).calls = t.walk.flatMap (·.construct.calledText?.toList) := by
  rw [← flatMap_visits h, ← calls_gather 0, ← findings_eq_gather]
  rfl

/-- What is collected from the calls among some trees alone. -/
lemma flatMap_eq_of_calls {β : Type} (f : Construct → List β)
    (hf : ∀ c, c.isCall = false → f c = []) (ts : List SyntaxTree) :
    ts.flatMap (fun s => f s.construct) =
      ((ts.filter (·.construct.isCall)).map head).flatMap fun h => f h.construct := by
  induction ts with
  | nil => rfl
  | cons t ts ih =>
    rw [List.flatMap_cons, ih, List.filter_cons]
    cases hcall : t.construct.isCall with
    | false => rw [hf _ hcall, List.nil_append]; rfl
    | true => rfl

section Program

variable (source : String) {t : ConcreteTree}

/-- The calls in the syntax tree of a program are those of its concrete tree that are kept. -/
lemma ConcreteTree.IsProgram.callsIn_moduleTree (h : t.IsProgram) :
    callsIn [moduleTree source t] = t.keptCalls.map callHead := by
  obtain ⟨hkind, -, hempty | hsound⟩ := h
  · rw [hkind, hempty]
    exact callsIn_singleton _ _ _ _
  · rw [← callsIn_lower hsound]
    exact callsIn_singleton _ _ _ _

/-- Nothing stands inside the closed constructs of a program. -/
lemma ConcreteTree.IsProgram.children_eq_nil (h : t.IsProgram) :
    ∀ s ∈ (moduleTree source t).walk, s.construct.isClosed = true → s.children = [] := by
  intro s hs hclosed
  rw [walk_eq_cons] at hs
  obtain rfl | hs := List.mem_cons.1 hs
  · cases hclosed
  · obtain ⟨hkind, -, hempty | hsound⟩ := h
    · rw [hkind, hempty] at hs
      cases hs
    · exact children_eq_nil_of_isClosed hsound s hs hclosed

/-- The structure tokens of calls in a program are those of the calls that are kept. -/
lemma ConcreteTree.IsProgram.filter_structureTokens (h : t.IsProgram) :
    (Features.ofTree (moduleTree source t)).structureTokens.filter isCallToken =
      t.keptCalls.map fun call => counted "CALL_ARGS" (argumentCounts call).1 := by
  have hcallTokens : ∀ c : Construct, c.isCall = false → c.callTokens = [] := by
    intro c hc
    cases c <;> first | rfl | cases hc
  have hcalls := h.callsIn_moduleTree source
  rw [callsIn, List.flatMap_singleton] at hcalls
  rw [structureTokens_ofTree (h.children_eq_nil source), List.filter_flatMap,
    List.flatMap_congr fun s _ => filter_ownTokens s, flatMap_eq_of_calls _ hcallTokens, hcalls,
    List.flatMap_map]
  exact List.map_eq_flatMap.symm

/-- The names of what is called in a program are those of the calls that are kept. -/
lemma ConcreteTree.IsProgram.calls_eq (h : t.IsProgram) :
    (Features.ofTree (moduleTree source t)).calls =
      t.keptCalls.filterMap fun call => (calleeOf call).text? := by
  have hcalled : ∀ c : Construct, c.isCall = false → c.calledText?.toList = [] := by
    intro c hc
    cases c <;> first | rfl | cases hc
  have hcalls := h.callsIn_moduleTree source
  rw [callsIn, List.flatMap_singleton] at hcalls
  rw [calls_ofTree (h.children_eq_nil source), flatMap_eq_of_calls _ hcalled, hcalls,
    List.flatMap_map, List.filterMap_eq_flatMap_toList]
  rfl

/-- If no call stands in a part that is left out, all calls are kept. -/
lemma keptCalls_eq_of_isLost_eq_false (h : ∀ s ∈ t.callSites false, s.isLost = false) :
    t.keptCalls = (t.callSites false).map (·.call) := by
  rw [keptCalls, List.filter_eq_self.2]
  simpa using h

end Program

/-- A tree without a construct passes on what its children are lowered to. -/
lemma lower_of_head?_eq_none {kind : PhraseKind} (hkind : kind ≠ .decoratedDefinition)
    {children : List (Role × ConcreteTree)}
    (h : (ConcreteTree.node kind children).head? = none) :
    lower (.node kind children) = children.flatMap fun p => lower p.2 := by
  have hinsides : insidesOf children kind = children.map (·.2) := by
    cases kind <;> first | rfl | cases h | exact absurd rfl hkind
  rw [lower_eq_wrap, h, wrap, insides, hinsides, List.flatMap_map]

/-- **Calls that are kept, whatever the parser.** The calls in the syntax tree of a sound concrete
tree are the calls in that tree, each of them once and in the order in which they begin, but for
those in the parts that are left out. -/
theorem calls_of_isProgram {t : ConcreteTree} (h : t.IsProgram) (source : String) :
    callsIn [moduleTree source t] = t.keptCalls.map callHead ∧
      (Features.ofTree (moduleTree source t)).structureTokens.filter isCallToken =
        t.keptCalls.map (fun call => counted "CALL_ARGS" (argumentCounts call).1) ∧
      (Features.ofTree (moduleTree source t)).calls =
        t.keptCalls.filterMap (fun call => (calleeOf call).text?) ∧
      ((∀ s ∈ t.callSites false, s.isLost = false) →
        t.keptCalls = (t.callSites false).map (·.call)) :=
  ⟨h.callsIn_moduleTree source, h.filter_structureTokens source, h.calls_eq source,
    keptCalls_eq_of_isLost_eq_false⟩

/-- **Calls of a program.** The calls in the syntax tree of a program are the calls in its concrete
tree, each of them once and in the order in which they begin, but for those in the type parameters
and result types of definitions and in the targets and types of assignments. The structure tokens of
calls and the names of what is called are theirs. If no call stands in one of these parts, then none
is lost. A tree without a construct of its own passes on what is inside it. -/
theorem calls_of_parsed {source : String} {tree : SyntaxTree} (h : parse source = .ok tree) :
    ∃ t, concreteTree source = .ok t ∧
      callsIn [tree] = t.keptCalls.map callHead ∧
      (Features.ofTree tree).structureTokens.filter isCallToken =
        t.keptCalls.map (fun call => counted "CALL_ARGS" (argumentCounts call).1) ∧
      (Features.ofTree tree).calls =
        t.keptCalls.filterMap (fun call => (calleeOf call).text?) ∧
      ((∀ s ∈ t.callSites false, s.isLost = false) →
        t.keptCalls = (t.callSites false).map (·.call)) ∧
      ∀ kind children, kind ≠ .decoratedDefinition →
        (ConcreteTree.node kind children).head? = none →
          lower (.node kind children) = children.flatMap fun p => lower p.2 := by
  obtain ⟨t, ht, rfl⟩ := exists_concreteTree_of_parse h
  obtain ⟨hcalls, htokens, hcalled, hkept⟩ := calls_of_isProgram (isProgram_concreteTree ht) source
  exact ⟨t, ht, hcalls, htokens, hcalled, hkept,
    fun kind children hkind => lower_of_head?_eq_none hkind⟩

/-- A function with calls in a decorator, in a default value and in a subscript. -/
def callingFunction : String :=
  "@c(1)\ndef f(a=g()):\n  return a[k.l()]\n"

/-- The calls in a decorator, in a default value and in a subscript have their tokens and their
names. -/
theorem calls_of_parsed_callingFunction :
    ∃ tree, parse callingFunction = .ok tree ∧
      (Features.ofTree tree).structureTokens.filter isCallToken =
        ["CALL_ARGS:1", "CALL_ARGS:0", "CALL_ARGS:0"] ∧
      (Features.ofTree tree).calls = ["c", "g", "k.l"] := by
  have hkept : (concreteTree callingFunction).toOption.map (fun t =>
      (t.keptCalls.map (fun call => counted "CALL_ARGS" (argumentCounts call).1),
        t.keptCalls.filterMap (fun call => (calleeOf call).text?))) =
      some (["CALL_ARGS:1", "CALL_ARGS:0", "CALL_ARGS:0"], ["c", "g", "k.l"]) := by
    decide +kernel
  obtain ⟨t, ht, hkept⟩ := exists_of_toOption_map hkept
  obtain ⟨hcounts, hcalled⟩ := Prod.mk.inj hkept
  have hparse : parse callingFunction = .ok (moduleTree callingFunction t) := by
    rw [parse, ht]
    rfl
  obtain ⟨t', ht', -, htokens, hnames, -⟩ := calls_of_parsed hparse
  obtain rfl : t = t' := Except.ok.inj (ht.symm.trans ht')
  exact ⟨_, hparse, htokens.trans hcounts, hnames.trans hcalled⟩

/-- **A call that is lost.** The only call of this program stands in the target of an assignment,
and its features have no token and no name for it. -/
theorem calls_lost_in_target :
    ((concreteTree "f()[0] += 1\n").toOption.map fun t =>
        (t.callSites false).map fun s => ((calleeOf s.call).text?, s.isLost)) =
        some [(some "f", true)] ∧
      ((parse "f()[0] += 1\n").toOption.map fun tree =>
          ((Features.ofTree tree).structureTokens, (Features.ofTree tree).calls)) =
        some (["AUGASSIGN:Add"], []) := by
  decide +kernel

end Lookalike.Python
