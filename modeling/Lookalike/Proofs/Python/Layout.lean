import Lookalike.Proofs.Python.TidyConstruct

/-! ### Layout and features

The syntax tree of a tidy tree has the shape of that of its bare tree. Hence two programs with the
same words have the same features, types aside, unless layout stands where it counts. -/

namespace Lookalike.Python

open ConcreteTree SyntaxTree

/-! ### Kinds of trees -/

/-- The kinds of trees that do not have all their parts inside their construct. -/
def partialKinds : List PhraseKind :=
  [.functionDefinition, .classDefinition, .decoratedDefinition, .ifStatement, .assignment,
    .augmentedAssignment]

/-- A tree of any other kind has its construct with all its parts inside, hides them, or has no
construct. -/
lemma lower_node {kind : PhraseKind} (h : kind ∉ partialKinds)
    (children : List (Role × ConcreteTree)) :
    lower (.node kind children) =
      match closedConstruct? (.node kind children) kind with
      | some c => [.node c (node kind children).firstRow (node kind children).lastRow []]
      | none =>
        match construct? (.node kind children) kind with
        | some c =>
          [.node c (node kind children).firstRow (node kind children).lastRow (lowerAll children)]
        | none => lowerAll children := by
  cases kind <;> first | rfl | simp [partialKinds] at h

/-- An assignment is lowered with the targets along its chain and with its last value. -/
lemma lower_assignment (children : List (Role × ConcreteTree)) :
    lower (.node .assignment children) =
      [.node
        (.assignment (assignmentChain (.node .assignment children)).1
          ((assignmentChain (.node .assignment children)).2.map operandOf))
        (node .assignment children).firstRow (node .assignment children).lastRow
        (lowerValue children)] :=
  rfl

/-- An extra is lowered to nothing. -/
lemma lower_of_isExtra {p : Role × ConcreteTree} (h : isExtra p = true) : lower p.2 = [] := by
  obtain ⟨x, rfl⟩ | ⟨x, rfl⟩ := eq_of_isExtra h <;> rfl

/-- Trees of constructs of one shape, with insides of one shape, are of one shape. -/
lemma shapes_singleton {c c' : Construct} (hc : c.shape = c'.shape) {ts ts' : List SyntaxTree}
    (hts : shapes ts = shapes ts') (first last first' last' : Nat) :
    shapes [.node c first last ts] = shapes [.node c' first' last' ts'] := by
  simp [shapes, shape, hc, hts]

/-! ### Parts by their roles -/

/-- The value of an assignment is lowered, unless it is an assignment again. -/
lemma lowerValue_right {t : ConcreteTree} (h : t.is .assignment = false)
    (rest : List (Role × ConcreteTree)) : lowerValue ((.right, t) :: rest) = lower t := by
  apply lowerValue.eq_3
  rintro inner rfl
  simp [is, kind?] at h

/-- A child in another role is passed over when a value is lowered. -/
lemma lowerValue_of_ne_right {role : Role} (h : role ≠ .right) (t : ConcreteTree)
    (rest : List (Role × ConcreteTree)) : lowerValue ((role, t) :: rest) = lowerValue rest := by
  apply lowerValue.eq_4
  · rintro inner ⟨⟩
    exact h rfl
  · rintro t' ⟨⟩
    exact h rfl

/-- A child that is no decorator is passed over when decorators are lowered. -/
lemma lowerDecorators_of_not_is {t : ConcreteTree} (h : t.is .decorator = false) (role : Role)
    (rest : List (Role × ConcreteTree)) :
    lowerDecorators ((role, t) :: rest) = lowerDecorators rest := by
  apply lowerDecorators.eq_3
  rintro role' inner ⟨⟩
  simp [is, kind?] at h

/-- A child in another role is passed over when a definition under decorators is lowered. -/
lemma lowerDecorated_of_ne_definition {role : Role} (h : role ≠ .definition)
    (first decorators : Nat) (opening : List SyntaxTree) (t : ConcreteTree)
    (rest : List (Role × ConcreteTree)) :
    lowerDecorated first decorators opening ((role, t) :: rest) =
      lowerDecorated first decorators opening rest := by
  apply lowerDecorated.eq_3
  rintro kind inner ⟨⟩
  exact h rfl

/-! ### Assignments -/

/-- The value of a chain of assignments is a part of it, so that it is tidy if the chain is. -/
lemma isTidy_of_chainOf (ps : List (Role × ConcreteTree)) (targets : List Target)
    (value : Option ConcreteTree) (h : ∀ p ∈ ps, p.2.isTidy = true)
    (hvalue : ∀ x ∈ value, x.isTidy = true) :
    ∀ x ∈ (assignmentChain.chainOf ps targets value).2, x.isTidy = true := by
  induction ps, targets, value using assignmentChain.chainOf.induct with
  | case1 =>
    rw [assignmentChain.chainOf]
    exact hvalue
  | case2 t rest targets value ih =>
    rw [assignmentChain.chainOf]
    exact ih (fun p hp => h p (List.mem_cons_of_mem _ hp)) hvalue
  | case3 inner tail targets _ more value hinner ih =>
    have ht : (node .assignment inner).isTidy = true := h _ List.mem_cons_self
    have hchain := ih (fun p hp => isTidy_of_mem ht hp) (by simp)
    rw [assignmentChain.chainOf, hinner]
    rwa [hinner] at hchain
  | case4 t rest targets _ hkind ih =>
    have ht : t.isTidy = true := h _ List.mem_cons_self
    rw [assignmentChain.chainOf.eq_4 _ _ _ _ hkind]
    exact ih (fun p hp => h p (List.mem_cons_of_mem _ hp)) (by simpa using ht)
  | case5 p rest targets value hleft hinner hright ih =>
    rw [assignmentChain.chainOf.eq_5 _ _ _ _ hleft hinner hright]
    exact ih (fun p hp => h p (List.mem_cons_of_mem _ hp)) hvalue

/-- What is assigned to and the coarse type of the value do not depend on layout. -/
lemma assignmentChain_bare {children : List (Role × ConcreteTree)}
    (h : (node .assignment children).isTidy = true) :
    (assignmentChain (node .assignment children).bare).1 =
        (assignmentChain (node .assignment children)).1 ∧
      (assignmentChain (node .assignment children).bare).2.map operandOf =
        (assignmentChain (node .assignment children)).2.map operandOf := by
  have hchain : assignmentChain (node .assignment children).bare =
      ((assignmentChain (node .assignment children)).1,
        (assignmentChain (node .assignment children)).2.map bare) :=
    chainOf_bareParts children [] none fun p hp => ⟨isTidyPart_of_mem h hp, isTidy_of_mem h hp⟩
  have hvalue : ∀ x ∈ (assignmentChain (node .assignment children)).2, x.isTidy = true :=
    isTidy_of_chainOf children [] none (fun p hp => isTidy_of_mem h hp) (by simp)
  rw [hchain, Option.map_map]
  refine ⟨rfl, ?_⟩
  cases hx : (assignmentChain (node .assignment children)).2 with
  | none => rfl
  | some x => exact congrArg some (operandOf_bare x (hvalue x hx))

/-- A tree of one of the kinds that have some of their parts inside them, given that its parts have
their shapes. -/
lemma shapes_lower_of_mem_partialKinds {kind : PhraseKind} {children : List (Role × ConcreteTree)}
    (hkind : kind ∈ partialKinds) (h : (node kind children).isTidy = true)
    (hin : ∀ roles : List Role, .part ∉ roles →
      shapes (lowerIn roles (bareParts children)) = shapes (lowerIn roles children))
    (hvalue : shapes (lowerValue (bareParts children)) = shapes (lowerValue children))
    (hdecorated : ∀ first first' decorators,
      shapes (lowerDecorated first decorators (lowerDecorators (bareParts children))
          (bareParts children)) =
        shapes (lowerDecorated first' decorators (lowerDecorators children) children)) :
    shapes (lower (node kind children).bare) = shapes (lower (node kind children)) := by
  simp only [partialKinds, List.mem_cons, List.not_mem_nil, or_false] at hkind
  obtain rfl | rfl | rfl | rfl | rfl | rfl := hkind
  · exact shapes_singleton (shape_definitionHead_bare 0 h) (hin _ (by decide)) _ _ _ _
  · exact shapes_singleton (shape_definitionHead_bare 0 h) (hin _ (by decide)) _ _ _ _
  · have hcount := countKind_bare (node .decoratedDefinition children) .decorator
    rw [bare] at hcount ⊢
    rw [lower, lower, hcount]
    exact hdecorated _ _ _
  · have hparts := hin [.condition, .consequence, .alternative] (by decide)
    have hbranch := branchOf_bare (node .ifStatement children)
    exact shapes_singleton (congrArg Construct.shape hbranch) hparts _ _ _ _
  · obtain ⟨htargets, hoperand⟩ := assignmentChain_bare h
    have hbare : (node .assignment children).bare = .node .assignment (bareParts children) := rfl
    rw [hbare, lower_assignment, lower_assignment, ← hbare, htargets, hoperand]
    exact shapes_singleton rfl hvalue _ _ _ _
  · have hoperator : childText (node .augmentedAssignment children).bare .operator =
        childText (node .augmentedAssignment children) .operator :=
      childText_bare (by decide) fun x hx => (isTidyPart_of_child? h hx :)
    let augmented (text : String) : Construct := .augmented (binaryLabel (augmentingOperator text))
    have hconstruct := congrArg (fun text => (augmented text).shape) hoperator
    exact shapes_singleton hconstruct (hin [.right] (by decide)) _ _ _ _

/-! ### The lowering

One theorem for each of the functions that lower trees and their parts. Comments and joints have no
role and no constructs, so that each of the functions passes over them. -/

mutual

/-- The constructs of a tidy tree have the shapes of those of its bare tree. -/
theorem shapes_lower_bare :
    ∀ t : ConcreteTree, t.isTidy = true → shapes (lower t.bare) = shapes (lower t)
  | .leaf _ _, _ => rfl
  | .comment _, _ => rfl
  | .joint _, _ => rfl
  | .mark _ _, _ => rfl
  | .node kind children, h => by
    have hparts := areTidy_children h
    by_cases hkind : kind ∈ partialKinds
    · apply shapes_lower_of_mem_partialKinds hkind h
      · intro roles hroles
        exact shapes_lowerIn_bare roles hroles children hparts
      · exact shapes_lowerValue_bare children hparts
      · intro first first' decorators
        exact shapes_lowerDecorated_bare first first' decorators _ _
          (shapes_lowerDecorators_bare children hparts) children hparts
    · have hall := shapes_lowerAll_bare children hparts
      have hbare : (node kind children).bare = .node kind (bareParts children) := rfl
      rw [hbare, lower_node hkind, lower_node hkind, ← hbare, closedConstruct?_bare h,
        construct?_bare h]
      cases closedConstruct? (node kind children) kind with
      | some c => exact shapes_singleton rfl rfl _ _ _ _
      | none =>
        cases construct? (node kind children) kind with
        | some c => exact shapes_singleton rfl hall _ _ _ _
        | none => exact hall

/-- Tidy parts are lowered to the same shapes with and without their layout. -/
theorem shapes_lowerAll_bare :
    ∀ ps : List (Role × ConcreteTree), areTidy ps = true →
      shapes (lowerAll (bareParts ps)) = shapes (lowerAll ps)
  | [], _ => rfl
  | (role, t) :: rest, h => by
    rw [areTidy, Bool.and_eq_true] at h
    have ht := shapes_lower_bare t h.1
    have hrest := shapes_lowerAll_bare rest h.2
    cases hextra : isExtra (role, t) with
    | true =>
      have hnone : lower t = [] := lower_of_isExtra hextra
      rw [bareParts_cons_of_isExtra hextra, lowerAll, hnone, List.nil_append, hrest]
    | false =>
      rw [bareParts_cons_of_not_isExtra hextra, lowerAll, lowerAll, shapes_append, shapes_append,
        ht, hrest]

/-- Tidy parts in some roles are lowered to the same shapes with and without their layout. -/
theorem shapes_lowerIn_bare (roles : List Role) (hroles : .part ∉ roles) :
    ∀ ps : List (Role × ConcreteTree), areTidy ps = true →
      shapes (lowerIn roles (bareParts ps)) = shapes (lowerIn roles ps)
  | [], _ => rfl
  | (role, t) :: rest, h => by
    rw [areTidy, Bool.and_eq_true] at h
    have ht := shapes_lower_bare t h.1
    have hrest := shapes_lowerIn_bare roles hroles rest h.2
    cases hrole : roles.contains role with
    | true =>
      have hpart : role ≠ .part := by
        rintro rfl
        exact hroles (by simpa using hrole)
      rw [bareParts_cons hpart, lowerIn, lowerIn, if_pos hrole, if_pos hrole, shapes_append,
        shapes_append, ht, hrest]
    | false =>
      have hskip (x : ConcreteTree) (ps : List (Role × ConcreteTree)) :
          lowerIn roles ((role, x) :: ps) = lowerIn roles ps := by
        rw [lowerIn, if_neg (Bool.eq_false_iff.1 hrole)]
      rw [hskip]
      cases hextra : isExtra (role, t) with
      | true => rw [bareParts_cons_of_isExtra hextra, hrest]
      | false => rw [bareParts_cons_of_not_isExtra hextra, hskip, hrest]

/-- A tidy value is lowered to the same shapes with and without its layout. -/
theorem shapes_lowerValue_bare :
    ∀ ps : List (Role × ConcreteTree), areTidy ps = true →
      shapes (lowerValue (bareParts ps)) = shapes (lowerValue ps)
  | [], _ => rfl
  | (role, t) :: rest, h => by
    rw [areTidy, Bool.and_eq_true] at h
    have ht := shapes_lower_bare t h.1
    have hrest := shapes_lowerValue_bare rest h.2
    by_cases hright : role = .right
    · subst hright
      rw [bareParts_cons (by decide)]
      match t, h.1, ht with
      | .node kind inner, htidy, ht =>
        by_cases hkind : kind = .assignment
        · subst hkind
          exact shapes_lowerValue_bare inner (areTidy_children htidy)
        · have hassign : (node kind inner).is .assignment = false := by simp [is, kind?, hkind]
          rw [lowerValue_right ((is_bare _ _).trans hassign), lowerValue_right hassign, ht]
      | .leaf _ _, _, ht => exact ht
      | .comment _, _, ht => exact ht
      | .joint _, _, ht => exact ht
      | .mark _ _, _, ht => exact ht
    · rw [lowerValue_of_ne_right hright]
      cases hextra : isExtra (role, t) with
      | true => rw [bareParts_cons_of_isExtra hextra, hrest]
      | false =>
        rw [bareParts_cons_of_not_isExtra hextra, lowerValue_of_ne_right hright, hrest]

/-- Tidy decorators are lowered to the same shapes with and without their layout. -/
theorem shapes_lowerDecorators_bare :
    ∀ ps : List (Role × ConcreteTree), areTidy ps = true →
      shapes (lowerDecorators (bareParts ps)) = shapes (lowerDecorators ps)
  | [], _ => rfl
  | (role, t) :: rest, h => by
    rw [areTidy, Bool.and_eq_true] at h
    have hrest := shapes_lowerDecorators_bare rest h.2
    match t, h.1 with
    | .node kind inner, htidy =>
      have hextra : isExtra (role, .node kind inner) = false := by cases role <;> rfl
      rw [bareParts_cons_of_not_isExtra hextra]
      by_cases hkind : kind = .decorator
      · subst hkind
        have hall := shapes_lowerAll_bare inner (areTidy_children htidy)
        rw [bare, lowerDecorators, lowerDecorators, shapes_append, shapes_append, hall, hrest]
      · have hdecorator : (node kind inner).is .decorator = false := by simp [is, kind?, hkind]
        rw [lowerDecorators_of_not_is ((is_bare _ _).trans hdecorator),
          lowerDecorators_of_not_is hdecorator, hrest]
    | .leaf _ _, _ => cases role <;> exact hrest
    | .comment _, _ => cases role <;> exact hrest
    | .joint _, _ => cases role <;> exact hrest
    | .mark _ _, _ => cases role <;> exact hrest

/-- A tidy definition under decorators is lowered to the same shapes with and without its layout. -/
theorem shapes_lowerDecorated_bare (first first' decorators : Nat)
    (opening opening' : List SyntaxTree) (hopening : shapes opening = shapes opening') :
    ∀ ps : List (Role × ConcreteTree), areTidy ps = true →
      shapes (lowerDecorated first decorators opening (bareParts ps)) =
        shapes (lowerDecorated first' decorators opening' ps)
  | [], _ => hopening
  | (role, t) :: rest, h => by
    rw [areTidy, Bool.and_eq_true] at h
    have hrest :=
      shapes_lowerDecorated_bare first first' decorators opening opening' hopening rest h.2
    by_cases hrole : role = .definition
    · subst hrole
      rw [bareParts_cons (by decide)]
      match t, h.1 with
      | .node kind inner, htidy =>
        have hin :=
          shapes_lowerIn_bare definitionRoles (by decide) inner (areTidy_children htidy)
        rw [bare, lowerDecorated, lowerDecorated]
        apply shapes_singleton (shape_definitionHead_bare decorators htidy)
        rw [shapes_append, shapes_append, hopening, hin]
      | .leaf _ _, _ => exact hrest
      | .comment _, _ => exact hrest
      | .joint _, _ => exact hrest
      | .mark _ _, _ => exact hrest
    · rw [lowerDecorated_of_ne_definition hrole]
      cases hextra : isExtra (role, t) with
      | true => rw [bareParts_cons_of_isExtra hextra, hrest]
      | false =>
        rw [bareParts_cons_of_not_isExtra hextra, lowerDecorated_of_ne_definition hrole, hrest]

end

/-! ### Programs with the same words -/

/-- Whether a text, if it is a program, has no layout where layout would count. -/
def hasTidyLayout (source : String) : Bool :=
  (concreteTree source).toOption.all (·.isTidy)

/-- A program has a concrete tree, which its syntax tree is made of. -/
lemma exists_concreteTree_of_parse {source : String} {tree : SyntaxTree}
    (h : parse source = .ok tree) :
    ∃ t, concreteTree source = .ok t ∧ tree = moduleTree source t := by
  rw [parse] at h
  cases ht : concreteTree source with
  | error e => rw [ht] at h; cases h
  | ok t =>
    rw [ht] at h
    exact ⟨t, rfl, (Except.ok.inj h).symm⟩

/-- What a text is read as, given what can be computed from it. -/
lemma exists_of_toOption_map {α β : Type} {r : Except ParseError α} {f : α → β} {b : β}
    (h : r.toOption.map f = some b) : ∃ a, r = .ok a ∧ f a = b := by
  cases r with
  | error => cases h
  | ok a => exact ⟨a, rfl, Option.some.inj h⟩

/-- A text that is found to be a program has a syntax tree. -/
lemma exists_parse_eq_ok {source : String} (h : (parse source).toOption.isSome = true) :
    ∃ tree, parse source = .ok tree := by
  cases ht : parse source with
  | error e => rw [ht] at h; cases h
  | ok tree => exact ⟨tree, rfl⟩

/-- The tree of a program with tidy layout has the shape of the tree that its words alone make. -/
lemma shape_moduleTree {source : String} {t : ConcreteTree} (h : t.isTidy = true) :
    (moduleTree source t).shape = .node .module 0 0 (shapes (lower t.bare)) := by
  rw [moduleTree, shape, shapes_lower_bare t h]
  rfl

/-- The concrete tree of a text with a tidy layout is tidy. -/
lemma isTidy_of_hasTidyLayout {source : String} (h : hasTidyLayout source = true)
    {t : ConcreteTree} (ht : concreteTree source = .ok t) : t.isTidy = true := by
  simpa [hasTidyLayout, ht, Except.toOption] using h

/-- **Tidy layout does not change features.** Two programs with the same words, which may differ in
comments, joined lines, line breaks inside brackets and blanks inside lines, have the same features
but for the types that they state, provided that neither has layout where layout counts. -/
theorem features_eq_of_sameWords {source source' : String} {tree tree' : SyntaxTree}
    (hparse : parse source = .ok tree) (hparse' : parse source' = .ok tree')
    (hwords : SameWords source source') (htidy : hasTidyLayout source = true)
    (htidy' : hasTidyLayout source' = true) :
    (Features.ofTree tree).structureTokens = (Features.ofTree tree').structureTokens ∧
      (Features.ofTree tree).controlFlow = (Features.ofTree tree').controlFlow ∧
      (Features.ofTree tree).complexity = (Features.ofTree tree').complexity ∧
      (Features.ofTree tree).calls = (Features.ofTree tree').calls ∧
      (Features.ofTree tree).dependencies = (Features.ofTree tree').dependencies := by
  obtain ⟨t, ht, rfl⟩ := exists_concreteTree_of_parse hparse
  obtain ⟨t', ht', rfl⟩ := exists_concreteTree_of_parse hparse'
  have hbare : t.bare = t'.bare := bare_concreteTree hwords ht ht'
  have hshape : (moduleTree source t).shape = (moduleTree source' t').shape := by
    rw [shape_moduleTree (isTidy_of_hasTidyLayout htidy ht),
      shape_moduleTree (isTidy_of_hasTidyLayout htidy' ht'), hbare]
  have hfeatures := congrArg Features.ofTree hshape
  rw [Features.ofTree_shape, Features.ofTree_shape, Features.mk.injEq] at hfeatures
  obtain ⟨htokens, hcomplexity, hdependencies, hcalls, hcontrol, -⟩ := hfeatures
  exact ⟨htokens, hcontrol, hcomplexity, hcalls, hdependencies⟩

/-- A function with comments, a line break inside parentheses and a joined line. -/
def spreadFunction : String :=
  "def f(a, b): # sum\n# of both\n  return g(a, # first\n    b) + \\\n    1\n"

/-- The same function on two lines. -/
def plainFunction : String :=
  "def f(a, b):\n  return g(a, b) + 1\n"

/-- A function that is spread over lines with comments, and the same one without them. -/
theorem features_eq_of_sameWords_spreadFunction :
    SameWords spreadFunction plainFunction ∧ hasTidyLayout spreadFunction = true ∧
      hasTidyLayout plainFunction = true ∧
      ∃ tree tree', parse spreadFunction = .ok tree ∧ parse plainFunction = .ok tree' ∧
        (Features.ofTree tree).structureTokens = (Features.ofTree tree').structureTokens ∧
        (Features.ofTree tree).controlFlow = (Features.ofTree tree').controlFlow ∧
        (Features.ofTree tree).complexity = (Features.ofTree tree').complexity ∧
        (Features.ofTree tree).calls = (Features.ofTree tree').calls ∧
        (Features.ofTree tree).dependencies = (Features.ofTree tree').dependencies := by
  have hwords : SameWords spreadFunction plainFunction := by decide +kernel
  have htidy : hasTidyLayout spreadFunction = true := by decide +kernel
  have htidy' : hasTidyLayout plainFunction = true := by decide +kernel
  obtain ⟨tree, hparse⟩ : ∃ tree, parse spreadFunction = .ok tree :=
    exists_parse_eq_ok (by decide +kernel)
  obtain ⟨tree', hparse'⟩ : ∃ tree, parse plainFunction = .ok tree :=
    exists_parse_eq_ok (by decide +kernel)
  exact ⟨hwords, htidy, htidy', tree, tree', hparse, hparse',
    features_eq_of_sameWords hparse hparse' hwords htidy htidy'⟩

/-- **Layout that counts.** A comment that comes first inside parentheses hides the type of what is
returned: the two texts have the same words, and their tokens differ. -/
theorem features_ne_of_sameWords_comment :
    SameWords "return ( # sum\n  a + b)\n" "return (\n  a + b)\n" ∧
      ((parse "return ( # sum\n  a + b)\n").toOption.map fun tree =>
          (Features.ofTree tree).structureTokens) =
        some ["RETURN", "RETURN_VALUE:expr", "BINOP:Add", "BINOP_TYPES:var_Add_var"] ∧
      ((parse "return (\n  a + b)\n").toOption.map fun tree =>
          (Features.ofTree tree).structureTokens) =
        some ["RETURN", "RETURN_VALUE:binop", "BINOP:Add", "BINOP_TYPES:var_Add_var"] := by
  decide +kernel

end Lookalike.Python
