import Lookalike.Proofs.Python.TidyTree

/-! ### Constructs of tidy trees

The construct of a tidy tree is that of its bare tree. Heads of functions and classes agree in what
their tokens show. -/

namespace Lookalike.Python

open ConcreteTree

variable {kind : PhraseKind} {children : List (Role × ConcreteTree)}

/-! ### Calls -/

/-- A tidy call calls the same without its layout. -/
lemma calleeOf_bare (h : (node .call children).isTidy = true) :
    calleeOf (node .call children).bare = calleeOf (node .call children) := by
  rw [calleeOf, calleeOf, child?_bare (by decide)]
  cases hf : (node .call children).child? .function with
  | none => rfl
  | some f =>
    cases hname : f.isIdentifier with
    | true => simp [hname, text_bare_of_isIdentifier hname]
    | false =>
      cases hmember : f.is .member with
      | true => simp [hname, hmember, memberNames_bare (isTidy_of_child? h hf) hmember]
      | false => simp [hname, hmember]

/-- Without joints among them, the named children that are no comments are those of the bare
tree. -/
lemma filter_not_isComment_bare {t : ConcreteTree} (h : ∀ p ∈ t.parts, p.2.isJoint = false) :
    t.bare.namedChildren.filter (!·.isComment) =
      (t.namedChildren.filter (!·.isComment)).map bare := by
  apply filter_namedChildren_bare
  · intro t
    rw [isComment_bare]
  · intro p hp hextra
    obtain ⟨x, rfl⟩ | ⟨x, rfl⟩ := eq_of_isExtra hextra
    · simp [isComment]
    · exact absurd (h _ hp) (by simp [isJoint])

/-- In a tree without joints no part is one. -/
lemma isJoint_eq_false_of_isJointFree {t : ConcreteTree} (h : t.isJointFree = true) :
    ∀ p ∈ t.parts, p.2.isJoint = false := by
  intro p hp
  simpa using List.all_eq_true.1 h p hp

/-- The numbers of arguments do not depend on comments. -/
lemma argumentCounts_bare (h : (node .call children).isTidy = true) :
    argumentCounts (node .call children).bare = argumentCounts (node .call children) := by
  rw [argumentCounts, argumentCounts, child?_bare (by decide)]
  cases hx : (node .call children).child? .arguments with
  | none => rfl
  | some arguments =>
    have hfree : arguments.isJointFree = true := isTidyPart_of_child? h hx
    have hfilter := filter_not_isComment_bare (isJoint_eq_false_of_isJointFree hfree)
    cases hlist : arguments.is .argumentList with
    | true =>
      simp only [Option.map_some, is_bare, hlist, if_true, hfilter, List.filter_map,
        List.length_map, Function.comp_def]
    | false => simp [hlist]

/-! ### Heads of functions -/

section Heads

variable {head head' : FunctionHead}

/-- Heads of one shape are of one shape with one more parameter each. -/
lemma shape_addPlain (h : head.shape = head'.shape) (p p' : Parameter) :
    FunctionHead.shape { head with parameters := head.parameters ++ [p] } =
      FunctionHead.shape { head' with parameters := head'.parameters ++ [p'] } := by
  simp only [FunctionHead.shape, FunctionHead.mk.injEq, List.map_append] at h ⊢
  simp [h]

/-- Heads of one shape are of one shape when both collect the remaining arguments. -/
lemma shape_collectsRest (h : head.shape = head'.shape) :
    FunctionHead.shape { head with collectsRest := true } =
      FunctionHead.shape { head' with collectsRest := true } := by
  simp only [FunctionHead.shape, FunctionHead.mk.injEq] at h ⊢
  simp [h]

/-- Heads of one shape are of one shape when both collect the named arguments. -/
lemma shape_collectsNamed (h : head.shape = head'.shape) :
    FunctionHead.shape { head with collectsNamed := true } =
      FunctionHead.shape { head' with collectsNamed := true } := by
  simp only [FunctionHead.shape, FunctionHead.mk.injEq] at h ⊢
  simp [h]

/-- Comments and joints are no parameters. -/
lemma addParameter_of_isExtra (head : FunctionHead) {p : Role × ConcreteTree}
    (h : isExtra p = true) : addParameter head p.2 = head := by
  obtain ⟨x, rfl⟩ | ⟨x, rfl⟩ := eq_of_isExtra h <;> rfl

/-- If no layout comes first, the first named child is the same in the bare tree. -/
lemma head?_namedChildren_bare {t : ConcreteTree} (h : opensPlainly t.parts = true) :
    t.bare.namedChildren.head? = t.namedChildren.head?.map bare := by
  rw [namedChildren, namedChildren, parts_bare]
  generalize t.parts = ps at h
  induction ps with
  | nil => rfl
  | cons p ps ih =>
    cases hnamed : p.2.isNamed with
    | true =>
      have hextra : isExtra p = false := by simpa [opensPlainly, hnamed] using h
      simp [bareParts, hextra, hnamed]
    | false =>
      have hextra : isExtra p = false := isExtra_eq_false_of_not_isNamed hnamed
      have hps : opensPlainly ps = true := by simpa [opensPlainly, hnamed] using h
      simp [bareParts, hextra, hnamed, ih hps]

/-- A tidy parameter with a type opens with a part that is no extra. -/
lemma opensPlainly_of_typedParameter {t : ConcreteTree} (ht : t.isTidy = true)
    (hkind : t.kind? = some .typedParameter) : opensPlainly t.parts = true := by
  cases t with
  | node kind children =>
    obtain rfl : kind = .typedParameter := by simpa [kind?] using hkind
    rw [isTidy, Bool.and_eq_true] at ht
    exact opensPlainly_of_isTidyNode (.inr rfl) ht.1
  | _ => simp [kind?] at hkind

/-- A parameter adds the same to a head with and without its layout. -/
lemma shape_addParameter_bare (h : head.shape = head'.shape) {t : ConcreteTree}
    (ht : t.isTidy = true) : (addParameter head t.bare).shape = (addParameter head' t).shape := by
  rw [addParameter, addParameter, isIdentifier_bare, kind?_bare]
  cases t.isIdentifier with
  | true => exact shape_addPlain h _ _
  | false =>
    cases hkind : t.kind? with
    | none => exact h
    | some kind =>
      cases kind with
      | typedParameter =>
        have hfirst := head?_namedChildren_bare (opensPlainly_of_typedParameter ht hkind)
        cases hnamed : t.namedChildren with
        | nil =>
          rw [hnamed, List.head?_nil, Option.map_none, List.head?_eq_none_iff] at hfirst
          rw [hfirst]
          exact h
        | cons x xs =>
          rw [hnamed, List.head?_cons, Option.map_some, List.head?_eq_some_iff] at hfirst
          obtain ⟨xs', hfirst⟩ := hfirst
          rw [hfirst]
          simp only [is_bare]
          cases x.is .listSplatPattern with
          | true => exact shape_collectsRest h
          | false =>
            cases x.is .dictionarySplatPattern with
            | true => exact shape_collectsNamed h
            | false => exact shape_addPlain h _ _
      | defaultParameter => exact shape_addPlain h _ _
      | typedDefaultParameter => exact shape_addPlain h _ _
      | listSplatPattern => exact shape_collectsRest h
      | dictionarySplatPattern => exact shape_collectsNamed h
      | _ => exact h

/-- All parameters together add the same to a head with and without layout. -/
lemma shape_foldl_addParameter {t : ConcreteTree} (ht : t.isTidy = true)
    (h : head.shape = head'.shape) :
    (t.bare.namedChildren.foldl addParameter head).shape =
      (t.namedChildren.foldl addParameter head').shape := by
  have hparts : ∀ p ∈ t.parts, p.2.isTidy = true := by
    cases t with
    | node kind children => exact fun p hp => isTidy_of_mem ht hp
    | _ => simp [parts]
  rw [namedChildren, namedChildren, parts_bare]
  generalize t.parts = ps at hparts
  induction ps generalizing head head' with
  | nil => exact h
  | cons p ps ih =>
    have hps : ∀ p ∈ ps, p.2.isTidy = true := fun p hp => hparts p (List.mem_cons_of_mem _ hp)
    cases hextra : isExtra p with
    | true =>
      have hskip := addParameter_of_isExtra head' hextra
      cases hnamed : p.2.isNamed <;> simp [bareParts, hextra, hnamed, hskip, ih h hps]
    | false =>
      have hp := shape_addParameter_bare h (hparts p List.mem_cons_self)
      cases hnamed : p.2.isNamed <;> simp [bareParts, hextra, hnamed, ih hp hps, ih h hps]

end Heads

/-- A test that comments and joints do not pass is passed by the same parts of a bare tree. -/
lemma any_bareParts {q : Role × ConcreteTree → Bool} (hq : ∀ role t, q (role, t.bare) = q (role, t))
    (hextra : ∀ p, isExtra p = true → q p = false) (ps : List (Role × ConcreteTree)) :
    (bareParts ps).any q = ps.any q := by
  induction ps with
  | nil => rfl
  | cons p ps ih =>
    cases hp : isExtra p with
    | true => simp [bareParts, hp, hextra p hp, ih]
    | false => simp [bareParts, hp, hq, ih]

/-- The mark of an asynchronous construct is there without the layout if it was there with it. -/
lemma opensAsync_bare (t : ConcreteTree) : opensAsync t.bare = opensAsync t := by
  rw [opensAsync, opensAsync, parts_bare]
  apply any_bareParts
  · intro role t
    cases t with
    | leaf kind x => cases kind <;> rfl
    | _ => rfl
  · intro p hp
    obtain ⟨x, rfl⟩ | ⟨x, rfl⟩ := eq_of_isExtra hp <;> rfl

/-- The head of a function shows the same with and without its layout. -/
lemma shape_functionHead_bare (decorators : Nat) (h : (node kind children).isTidy = true) :
    (functionHead decorators (node kind children).bare).shape =
      (functionHead decorators (node kind children)).shape := by
  rw [functionHead, functionHead, opensAsync_bare,
    child?_bare (by decide : Role.parameters ≠ .part)]
  cases hx : (node kind children).child? .parameters with
  | none => rfl
  | some parameters => exact shape_foldl_addParameter (isTidy_of_child? h hx) rfl

/-! ### Heads of classes -/

/-- The head of a class shows the same with and without its layout. -/
lemma shape_classHead_bare (decorators : Nat) (h : (node .classDefinition children).isTidy = true) :
    (classHead decorators (node .classDefinition children).bare).shape =
      (classHead decorators (node .classDefinition children)).shape := by
  rw [classHead, classHead, child?_bare (by decide)]
  cases hx : (node .classDefinition children).child? .superclasses with
  | none => rfl
  | some list =>
    have hfree : list.isJointFree = true := isTidyPart_of_child? h hx
    have hfilter := filter_not_isComment_bare (isJoint_eq_false_of_isJointFree hfree)
    simp only [Option.map_some, ← List.filter_filter, hfilter, List.filter_map, Function.comp_def,
      is_bare, ClassHead.shape, List.map_map]

/-- A tidy definition has a head of the same shape without its layout. -/
lemma shape_definitionHead_bare (decorators : Nat) (h : (node kind children).isTidy = true) :
    (definitionHead kind decorators (node kind children).bare).shape =
      (definitionHead kind decorators (node kind children)).shape := by
  by_cases hkind : kind = .classDefinition
  · subst hkind
    exact congrArg Construct.class (shape_classHead_bare decorators h)
  · have hfunction (t : ConcreteTree) :
        definitionHead kind decorators t = .function (functionHead decorators t) := by
      cases kind <;> first | rfl | exact absurd rfl hkind
    rw [hfunction, hfunction]
    exact congrArg Construct.function (shape_functionHead_bare decorators h)

/-! ### Imports -/

/-- A tidy import imports the same modules without its layout. -/
lemma importedModules_bare (h : (node .importStatement children).isTidy = true) :
    importedModules (node .importStatement children).bare =
      importedModules (node .importStatement children) := by
  have hname : ∀ x ∈ (node .importStatement children).childrenIn .name,
      (if x.bare.is .aliasedImport then childText x.bare .name else x.bare.text) =
        if x.is .aliasedImport then childText x .name else x.text := by
    intro x hx
    have hmem := mem_parts_of_mem_childrenIn hx
    have htidy : (x.is .aliasedImport || x.isOnePiece) = true := isTidyPart_of_mem h hmem
    rw [is_bare]
    cases halias : x.is .aliasedImport with
    | true =>
      obtain ⟨inner, rfl⟩ := exists_eq_node_of_is halias
      exact childText_bare (by decide) fun y hy =>
        (isTidyPart_of_child? (isTidy_of_mem h hmem) hy :)
    | false =>
      rw [halias, Bool.false_or] at htidy
      exact text_bare htidy
  rw [importedModules, importedModules, childrenIn_bare (by decide), List.map_map]
  exact congrArg (List.filter _) (List.map_congr_left hname)

/-- A tidy node has the same closed construct without its layout. -/
lemma closedConstruct?_bare (h : (node kind children).isTidy = true) :
    closedConstruct? (node kind children).bare kind =
      closedConstruct? (node kind children) kind := by
  cases kind with
  | importStatement => simp only [closedConstruct?, importedModules_bare h]
  | importFromStatement =>
    simp only [closedConstruct?, child?_bare (by decide : Role.moduleName ≠ .part)]
    cases hx : (node .importFromStatement children).child? .moduleName with
    | none => rfl
    | some x => simp [withoutSpaces_text_bare (isTidyPart_of_child? h hx)]
  | _ => rfl

/-! ### Other constructs -/

/-- The named children of a kind are those of the bare tree. -/
lemma filter_is_bare (kind : PhraseKind) (t : ConcreteTree) :
    t.bare.namedChildren.filter (·.is kind) = (t.namedChildren.filter (·.is kind)).map bare := by
  apply filter_namedChildren_bare fun t => is_bare t kind
  intro p _ hextra
  obtain ⟨x, rfl⟩ | ⟨x, rfl⟩ := eq_of_isExtra hextra <;> rfl

/-- As many children are of a kind without the layout. -/
lemma countKind_bare (t : ConcreteTree) (kind : PhraseKind) :
    countKind t.bare kind = countKind t kind := by
  rw [countKind, countKind, filter_is_bare, List.length_map]

/-- The named children of one kind inside those of another kind are counted as in the bare tree. -/
lemma length_flatMap_filter_is_bare (outer inner : PhraseKind) (t : ConcreteTree) :
    ((t.bare.namedChildren.filter (·.is outer)).flatMap
        (·.namedChildren.filter (·.is inner))).length =
      ((t.namedChildren.filter (·.is outer)).flatMap
        (·.namedChildren.filter (·.is inner))).length := by
  rw [filter_is_bare, List.flatMap_map]
  simp only [filter_is_bare, List.length_flatMap, List.length_map]

/-- A choice has the same clauses without its layout. -/
lemma branchOf_bare (t : ConcreteTree) : branchOf t.bare = branchOf t := by
  rw [branchOf, branchOf, childrenIn_bare (by decide), List.filter_map, List.length_map,
    List.any_map]
  simp only [Function.comp_def, is_bare]

/-- What a statement returns is the first of its parts that is no comment. -/
lemma returned_bare (h : (node .returnStatement children).isTidy = true) :
    ((node .returnStatement children).bare.namedChildren.find? (!·.isComment)).map operandOf =
      ((node .returnStatement children).namedChildren.find? (!·.isComment)).map operandOf := by
  have hjoint : ∀ p ∈ (node .returnStatement children).parts, p.2.isJoint = false := by
    intro p hp
    have htidy : (!p.2.isJoint) = true := isTidyPart_of_mem h hp
    simpa using htidy
  have hfilter := filter_not_isComment_bare hjoint
  rw [← List.head?_filter, ← List.head?_filter, hfilter, List.head?_map, Option.map_map]
  cases hx : ((node .returnStatement children).namedChildren.filter (!·.isComment)).head? with
  | none => rfl
  | some x =>
    obtain ⟨role, hmem⟩ :=
      mem_parts_of_mem_namedChildren (List.mem_filter.1 (List.mem_of_head? hx)).1
    exact congrArg some (operandOf_bare x (isTidy_of_mem h hmem))

/-- A tidy comparison has the same operators without its layout. -/
lemma comparison_bare (h : (node .comparison children).isTidy = true) :
    ((node .comparison children).bare.childrenIn .operators).map (fun x => comparisonLabel x.text) =
      ((node .comparison children).childrenIn .operators).map fun x => comparisonLabel x.text := by
  rw [childrenIn_bare (by decide), List.map_map]
  apply List.map_congr_left
  intro x hx
  have htext := text_bare (isTidyPart_of_mem h (mem_parts_of_mem_childrenIn hx) :)
  exact congrArg comparisonLabel htext

/-- A tidy tree has the construct of its bare tree. -/
lemma construct?_bare (h : (node kind children).isTidy = true) :
    construct? (node kind children).bare kind = construct? (node kind children) kind := by
  have hoperator (hkind : ∀ x, isTidyPart kind (.operator, x) = x.isOnePiece) :
      childText (node kind children).bare .operator = childText (node kind children) .operator :=
    childText_bare (by decide) fun x hx => hkind x ▸ isTidyPart_of_child? h hx
  have halternative : ((node kind children).bare.child? .alternative).isSome =
      ((node kind children).child? .alternative).isSome := by
    rw [child?_bare (by decide), Option.isSome_map]
  cases kind with
  | forStatement => simp only [construct?, halternative]
  | whileStatement => simp only [construct?, halternative]
  | tryStatement => simp only [construct?, countKind_bare]
  | withStatement =>
    exact congrArg (some ∘ Construct.context) (length_flatMap_filter_is_bare _ _ _)
  | matchStatement =>
    exact congrArg (some ∘ Construct.matching) (length_flatMap_filter_is_bare _ _ _)
  | call => simp only [construct?, calleeOf_bare h, argumentCounts_bare h]
  | binaryOperator =>
    have hleft := childOperand_bare h (by decide : Role.left ≠ .part)
    have hright := childOperand_bare h (by decide : Role.right ≠ .part)
    simp only [construct?, hoperator fun _ => rfl, hleft, hright]
  | comparison => simp only [construct?, comparison_bare h]
  | booleanOperator => simp only [construct?, hoperator fun _ => rfl]
  | unaryOperator => simp only [construct?, hoperator fun _ => rfl]
  | returnStatement => simp only [construct?, returned_bare h]
  | _ => rfl

end Lookalike.Python
