import Lookalike.Proofs.Python.Layout
import Lookalike.Proofs.Python.SoundTree

/-! ### What is inside a construct

Whether or not a concrete tree has a construct of its own, what it is lowered to is made from what
some trees inside it are lowered to. These are its insides: its children, as far as they count, or
children of its children where two trees share one construct. `lower_eq_wrap` says so for all trees,
so that a property of lowering needs no more than the step from the insides of a tree to the tree.
-/

namespace Lookalike.Python

namespace ConcreteTree

/-! #### Parts by their roles -/

/-- The children in some roles. -/
def childrenAmong (roles : List Role) (children : List (Role × ConcreteTree)) :
    List ConcreteTree :=
  (children.filter fun p => roles.contains p.1).map (·.2)

/-- The value that an assignment assigns, if it has one: that of the last assignment in a chain. -/
def assignedValues : List (Role × ConcreteTree) → List ConcreteTree
  | [] => []
  | (.right, .node .assignment inner) :: _ => assignedValues inner
  | (.right, t) :: _ => [t]
  | _ :: rest => assignedValues rest

/-- The children of the decorators among some children. -/
def decoratorParts (children : List (Role × ConcreteTree)) : List ConcreteTree :=
  (children.filter fun p => p.2.is .decorator).flatMap fun p => p.2.parts.map (·.2)

/-- The kind and the children of the definition among some children. -/
def definition? : List (Role × ConcreteTree) →
    Option (PhraseKind × List (Role × ConcreteTree))
  | [] => none
  | (.definition, .node kind inner) :: _ => some (kind, inner)
  | _ :: rest => definition? rest

/-- A child in another role is passed over when a definition is looked for. -/
lemma definition?_of_ne_definition {role : Role} (h : role ≠ .definition) (t : ConcreteTree)
    (rest : List (Role × ConcreteTree)) : definition? ((role, t) :: rest) = definition? rest := by
  apply definition?.eq_3
  rintro kind inner ⟨⟩
  exact h rfl

/-- What stands on the right of an assignment is its value, unless it is an assignment again. -/
lemma assignedValues_right {t : ConcreteTree} (h : t.is .assignment = false)
    (rest : List (Role × ConcreteTree)) : assignedValues ((.right, t) :: rest) = [t] := by
  apply assignedValues.eq_3
  rintro inner rfl
  simp [is, kind?] at h

/-- A child in another role is no value of an assignment. -/
lemma assignedValues_of_ne_right {role : Role} (h : role ≠ .right) (t : ConcreteTree)
    (rest : List (Role × ConcreteTree)) :
    assignedValues ((role, t) :: rest) = assignedValues rest := by
  apply assignedValues.eq_4
  · rintro inner ⟨⟩
    exact h rfl
  · rintro t' ⟨⟩
    exact h rfl

end ConcreteTree

open ConcreteTree

section Lowering

variable (children : List (Role × ConcreteTree))

/-- To lower all children is to lower one after another. -/
lemma lowerAll_eq : lowerAll children = (children.map (·.2)).flatMap lower := by
  induction children with
  | nil => rfl
  | cons p rest ih => rw [lowerAll, ih, List.map_cons, List.flatMap_cons]

/-- To lower the children in some roles is to lower these one after another. -/
lemma lowerIn_eq (roles : List Role) :
    lowerIn roles children = (childrenAmong roles children).flatMap lower := by
  induction children with
  | nil => rfl
  | cons p rest ih =>
    rw [lowerIn, ih, childrenAmong, childrenAmong, List.filter_cons]
    split <;> rfl

/-- To lower the decorators is to lower what is in them, one after another. -/
lemma lowerDecorators_eq : lowerDecorators children = (decoratorParts children).flatMap lower := by
  induction children with
  | nil => rfl
  | cons p rest ih =>
    obtain ⟨role, t⟩ := p
    cases h : t.is .decorator with
    | false =>
      rw [lowerDecorators_of_not_is h, ih, decoratorParts, decoratorParts, List.filter_cons_of_neg]
      simp [h]
    | true =>
      obtain ⟨inner, rfl⟩ := exists_eq_node_of_is h
      have hparts : decoratorParts ((role, .node .decorator inner) :: rest) =
          inner.map (·.2) ++ decoratorParts rest := rfl
      rw [lowerDecorators, ih, lowerAll_eq, hparts, List.flatMap_append]

/-- The constructs of a chain of assignments are those of its value. -/
lemma lowerValue_eq : ∀ children : List (Role × ConcreteTree),
    lowerValue children = (assignedValues children).flatMap lower
  | [] => by rw [lowerValue, assignedValues, List.flatMap_nil]
  | (role, t) :: rest => by
    by_cases hrole : role = .right
    · subst hrole
      cases h : t.is .assignment with
      | true =>
        obtain ⟨inner, rfl⟩ := exists_eq_node_of_is h
        rw [lowerValue, assignedValues, lowerValue_eq inner]
      | false =>
        rw [lowerValue_right h, assignedValues_right h, List.flatMap_singleton]
    · rw [lowerValue_of_ne_right hrole, assignedValues_of_ne_right hrole, lowerValue_eq rest]

end Lowering

/-! #### Heads and insides -/

/-- What a construct is apart from what is inside it. -/
structure Head where
  construct : Construct
  firstLine : Nat
  lastLine : Nat

/-- The syntax trees of what may have a construct, given those of its insides. -/
def wrap : Option Head → List SyntaxTree → List SyntaxTree
  | some head, inner => [.node head.construct head.firstLine head.lastLine inner]
  | none, inner => inner

namespace ConcreteTree

/-- The construct of a tree over all its lines. -/
def headWith (t : ConcreteTree) (c : Construct) : Head :=
  ⟨c, t.firstRow, t.lastRow⟩

/-- The construct of its own that a tree has, if it has one. A definition under decorators begins on
the line of the first decorator. -/
def head? : ConcreteTree → Option Head
  | .node kind children =>
    let t := ConcreteTree.node kind children
    match kind with
    | .functionDefinition => some (t.headWith (definitionHead kind 0 t))
    | .classDefinition => some (t.headWith (definitionHead kind 0 t))
    | .decoratedDefinition =>
      (definition? children).map fun (kind, inner) =>
        let definition := ConcreteTree.node kind inner
        ⟨definitionHead kind (countKind t .decorator) definition, t.firstRow, definition.lastRow⟩
    | .ifStatement => some (t.headWith (branchOf t))
    | .assignment =>
      some (t.headWith
        (.assignment (assignmentChain t).1 ((assignmentChain t).2.map operandOf)))
    | .augmentedAssignment =>
      some (t.headWith
        (.augmented (binaryLabel (augmentingOperator (childText t .operator)))))
    | _ => ((closedConstruct? t kind).or (construct? t kind)).map t.headWith
  | _ => none

/-- The insides of a tree of a given kind. -/
def insidesOf (children : List (Role × ConcreteTree)) : PhraseKind → List ConcreteTree
  | .functionDefinition => childrenAmong definitionRoles children
  | .classDefinition => childrenAmong definitionRoles children
  | .decoratedDefinition =>
    decoratorParts children ++
      ((definition? children).map fun d => childrenAmong definitionRoles d.2).getD []
  | .ifStatement => childrenAmong [.condition, .consequence, .alternative] children
  | .assignment => assignedValues children
  | .augmentedAssignment => childrenAmong [.right] children
  | kind => if kind.isImport then [] else children.map (·.2)

/-- The trees whose constructs stand directly in that of a tree. -/
def insides : ConcreteTree → List ConcreteTree
  | .node kind children => insidesOf children kind
  | _ => []

end ConcreteTree

/-- The definition under decorators has the constructs of the decorators before its own. -/
lemma lowerDecorated_eq (line decorators : Nat) (opening : List SyntaxTree)
    (children : List (Role × ConcreteTree)) :
    lowerDecorated line decorators opening children =
      wrap
        ((definition? children).map fun (kind, inner) =>
          let definition := ConcreteTree.node kind inner
          ⟨definitionHead kind decorators definition, line, definition.lastRow⟩)
        (opening ++ (((definition? children).map fun d =>
          childrenAmong definitionRoles d.2).getD []).flatMap lower) := by
  induction children with
  | nil => simp [lowerDecorated, definition?, wrap]
  | cons p rest ih =>
    obtain ⟨role, t⟩ := p
    by_cases hrole : role = .definition
    · subst hrole
      match t with
      | .node kind inner => simp [lowerDecorated, definition?, wrap, lowerIn_eq]
      | .leaf _ _ | .comment _ | .joint _ | .mark _ _ =>
        simpa [lowerDecorated, definition?] using ih
    · rw [lowerDecorated_of_ne_definition hrole, definition?_of_ne_definition hrole, ih]

/-- **Lowering by insides.** A tree is lowered to its own construct, if it has one, with all that
its insides are lowered to in it, and to that alone if it has none. -/
theorem lower_eq_wrap (t : ConcreteTree) :
    lower t = wrap t.head? (t.insides.flatMap lower) := by
  match t with
  | .leaf _ _ | .comment _ | .joint _ | .mark _ _ => rfl
  | .node kind children =>
    by_cases hkind : kind ∈ partialKinds
    -- Of six kinds only some parts are lowered, each kind with a reader of its own.
    · simp only [partialKinds, List.mem_cons, List.not_mem_nil, or_false] at hkind
      obtain rfl | rfl | rfl | rfl | rfl | rfl := hkind
      · rw [lower, lowerIn_eq]
        rfl
      · rw [lower, lowerIn_eq]
        rfl
      · rw [lower, lowerDecorators_eq, lowerDecorated_eq, ← List.flatMap_append]
        rfl
      · rw [lower, lowerIn_eq]
        rfl
      · rw [lower_assignment, lowerValue_eq]
        rfl
      · rw [lower, lowerIn_eq]
        rfl
    -- Of all others every part is lowered, unless the construct is closed.
    · have hhead : (ConcreteTree.node kind children).head? =
          ((closedConstruct? (.node kind children) kind).or
            (construct? (.node kind children) kind)).map
              (ConcreteTree.node kind children).headWith := by
        cases kind <;> first | rfl | simp [partialKinds] at hkind
      have hinsides : (ConcreteTree.node kind children).insides =
          if (closedConstruct? (.node kind children) kind).isSome then []
          else children.map (·.2) := by
        cases kind <;> first | rfl | simp [partialKinds] at hkind
      rw [lower_node hkind, hhead, hinsides]
      cases closedConstruct? (.node kind children) kind with
      | some c => rfl
      | none =>
        cases construct? (.node kind children) kind with
        | some c => simp [wrap, headWith, lowerAll_eq]
        | none => simp [wrap, lowerAll_eq]

/-- What is no node is lowered to nothing. -/
lemma lower_of_kind? {t : ConcreteTree} (h : t.kind? = none) : lower t = [] := by
  match t with
  | .leaf _ _ | .comment _ | .joint _ | .mark _ _ => rfl
  | .node _ _ => cases h

/-! #### From the insides of a tree to the tree -/

namespace ConcreteTree

variable {P : ConcreteTree → Prop}

/-- A definition that is found is among the children. -/
lemma mem_of_definition? {children inner : List (Role × ConcreteTree)} {kind : PhraseKind}
    (h : definition? children = some (kind, inner)) :
    (.definition, .node kind inner) ∈ children := by
  induction children with
  | nil => cases h
  | cons p rest ih =>
    obtain ⟨role, t⟩ := p
    by_cases hrole : role = .definition
    · subst hrole
      match t with
      | .node kind inner =>
        cases h
        exact List.mem_cons_self
      | .leaf _ _ | .comment _ | .joint _ | .mark _ _ => exact List.mem_cons_of_mem _ (ih h)
    · rw [definition?_of_ne_definition hrole] at h
      exact List.mem_cons_of_mem _ (ih h)

/-- What holds of all children holds of those in some roles. -/
lemma forall_mem_childrenAmong {children : List (Role × ConcreteTree)}
    (h : ∀ p ∈ children, P p.2) (roles : List Role) :
    ∀ u ∈ childrenAmong roles children, P u := by
  intro u hu
  obtain ⟨p, hp, rfl⟩ := List.mem_map.1 hu
  exact h p (List.mem_filter.1 hp).1

/-- What nodes pass on to their parts, and all children have, the values of an assignment have. The
induction is along a chain of assignments. -/
lemma forall_mem_assignedValues (hP : ∀ t, P t → ∀ p ∈ t.parts, P p.2) :
    ∀ {children : List (Role × ConcreteTree)}, (∀ p ∈ children, P p.2) →
      ∀ u ∈ assignedValues children, P u
  | [], _ => by simp [assignedValues]
  | (role, t) :: rest, h => by
    obtain ⟨ht, hrest⟩ := List.forall_mem_cons.1 h
    by_cases hrole : role = .right
    · subst hrole
      cases hassignment : t.is .assignment with
      | true =>
        obtain ⟨inner, rfl⟩ := exists_eq_node_of_is hassignment
        rw [assignedValues]
        exact forall_mem_assignedValues hP (hP _ ht)
      | false =>
        rw [assignedValues_right hassignment]
        simpa using ht
    · rw [assignedValues_of_ne_right hrole]
      exact forall_mem_assignedValues hP hrest

/-- What nodes pass on to their parts, and all children have, the parts of decorators have. -/
lemma forall_mem_decoratorParts (hP : ∀ t, P t → ∀ p ∈ t.parts, P p.2)
    {children : List (Role × ConcreteTree)} (h : ∀ p ∈ children, P p.2) :
    ∀ u ∈ decoratorParts children, P u := by
  intro u hu
  obtain ⟨p, hp, hu⟩ := List.mem_flatMap.1 hu
  obtain ⟨q, hq, rfl⟩ := List.mem_map.1 hu
  exact hP p.2 (h p (List.mem_filter.1 hp).1) q hq

/-- What holds of the children of a tree, and passes from a tree to its children, holds of its
insides. -/
lemma forall_mem_insides (hP : ∀ t, P t → ∀ p ∈ t.parts, P p.2) {t : ConcreteTree}
    (h : ∀ p ∈ t.parts, P p.2) : ∀ u ∈ t.insides, P u := by
  match t with
  | .leaf _ _ | .comment _ | .joint _ | .mark _ _ => simp [insides]
  | .node kind children =>
    have hdefinition : ∀ u ∈ ((definition? children).map fun d =>
        childrenAmong definitionRoles d.2).getD [], P u := by
      cases hd : definition? children with
      | none => simp
      | some d => exact forall_mem_childrenAmong (hP _ (h _ (mem_of_definition? hd))) _
    rw [insides]
    unfold insidesOf
    split
    · exact forall_mem_childrenAmong h _
    · exact forall_mem_childrenAmong h _
    · exact List.forall_mem_append.2 ⟨forall_mem_decoratorParts hP h, hdefinition⟩
    · exact forall_mem_childrenAmong h _
    · exact forall_mem_assignedValues hP h
    · exact forall_mem_childrenAmong h _
    · split
      · simp
      · intro u hu
        obtain ⟨p, hp, rfl⟩ := List.mem_map.1 hu
        exact h p hp

/-- A part of a tree is smaller than the tree. -/
lemma sizeOf_lt_of_mem_parts {t : ConcreteTree} {p : Role × ConcreteTree} (hp : p ∈ t.parts) :
    sizeOf p.2 < sizeOf t := by
  match t with
  | .node kind children =>
    have hmem : sizeOf p < sizeOf children := List.sizeOf_lt_of_mem hp
    obtain ⟨role, u⟩ := p
    simp only [Prod.mk.sizeOf_spec, ConcreteTree.node.sizeOf_spec] at hmem ⊢
    omega
  | .leaf _ _ | .comment _ | .joint _ | .mark _ _ => cases hp

/-- What holds of a tree whenever it holds of all its insides holds of all trees. -/
theorem inside_induction (h : ∀ t, (∀ u ∈ t.insides, P u) → P t) (t : ConcreteTree) : P t :=
  h t fun u hu =>
    have : sizeOf u < sizeOf t :=
      forall_mem_insides (fun _ ht _ hp => Nat.lt_trans (sizeOf_lt_of_mem_parts hp) ht)
        (fun _ hp => sizeOf_lt_of_mem_parts hp) u hu
    inside_induction h u
termination_by sizeOf t

/-- The parts of a sound tree are sound. -/
lemma IsSound.of_mem_parts {t : ConcreteTree} (h : t.IsSound) {p : Role × ConcreteTree}
    (hp : p ∈ t.parts) : p.2.IsSound := by
  cases h with
  | single h =>
    match t with
    | .leaf _ _ | .comment _ | .joint _ | .mark _ _ => cases hp
  | node _ _ _ _ hchildren => exact hchildren p hp

/-- The insides of a sound tree are sound. -/
lemma IsSound.insides {t : ConcreteTree} (h : t.IsSound) : ∀ u ∈ t.insides, u.IsSound :=
  forall_mem_insides (fun _ ht _ hp => ht.of_mem_parts hp) fun _ hp => h.of_mem_parts hp

/-! #### Decorated definitions -/

/-- What may stand before the definition under decorators: a decorator, or what has no parts. -/
def IsDecoration (p : Role × ConcreteTree) : Prop :=
  p.2.kind? = none ∨ p.1 = .part ∧ p.2.is .decorator = true

/-- Decorations in front of a definition are passed over when it is looked for. -/
lemma definition?_append {before : List (Role × ConcreteTree)}
    (h : ∀ p ∈ before, IsDecoration p) (rest : List (Role × ConcreteTree)) :
    definition? (before ++ rest) = definition? rest := by
  induction before with
  | nil => rfl
  | cons p before ih =>
    obtain ⟨hp, hbefore⟩ := List.forall_mem_cons.1 h
    obtain ⟨role, t⟩ := p
    rw [List.cons_append, ← ih hbefore]
    obtain hkind | ⟨hrole, -⟩ := hp
    · apply definition?.eq_3
      rintro kind inner ⟨⟩
      cases hkind
    · rw [definition?_of_ne_definition]
      rintro rfl
      cases hrole

/-- The parts of the decorators in two lists are those in each list. -/
lemma decoratorParts_append (before after : List (Role × ConcreteTree)) :
    decoratorParts (before ++ after) = decoratorParts before ++ decoratorParts after := by
  simp [decoratorParts]

/-- What has a kind is a node. -/
lemma exists_eq_node_of_kind? {t : ConcreteTree} (h : t.kind? ≠ none) :
    ∃ kind children, t = .node kind children := by
  match t with
  | .node kind children => exact ⟨kind, children, rfl⟩
  | .leaf _ _ | .comment _ | .joint _ | .mark _ _ => exact absurd rfl h

/-- What is no node is of no kind. -/
lemma is_eq_false_of_kind? {t : ConcreteTree} {kind : PhraseKind} (h : t.kind? = none) :
    t.is kind = false := by
  simp [is, h]

/-- Where no decorators are, there are no parts of them. -/
lemma decoratorParts_eq_nil {children : List (Role × ConcreteTree)}
    (h : ∀ p ∈ children, p.2.is .decorator = false) : decoratorParts children = [] := by
  rw [decoratorParts, List.filter_eq_nil_iff.2 fun p hp => by simp [h p hp]]
  rfl

/-- In a sound tree of a decorated definition only what has no parts stands behind the definition,
and before it there are decorators. -/
lemma cases_of_decorated {children : List (Role × ConcreteTree)}
    (hhold : ∀ p ∈ children, PhraseKind.mayHold .decoratedDefinition (outline p) = true)
    (hfollow : children.Pairwise fun p q =>
      PhraseKind.mayFollow .decoratedDefinition (outline p) (outline q) = true) :
    (∀ p ∈ children, IsDecoration p) ∨
      ∃ before kind inner after, children = before ++ (.definition, .node kind inner) :: after ∧
        (kind = .functionDefinition ∨ kind = .classDefinition) ∧
        (∀ p ∈ before, IsDecoration p) ∧ ∀ p ∈ after, p.2.kind? = none := by
  induction children with
  | nil => exact .inl (by simp)
  | cons p rest ih =>
    obtain ⟨hfirst, hholdRest⟩ := List.forall_mem_cons.1 hhold
    obtain ⟨hbehind, hfollowRest⟩ := List.pairwise_cons.1 hfollow
    obtain ⟨role, t⟩ := p
    -- a decorator leaves the question to what stands behind it
    have hdecoration (hp : IsDecoration (role, t)) :
        (∀ p ∈ (role, t) :: rest, IsDecoration p) ∨
          ∃ before kind inner after,
            (role, t) :: rest = before ++ (.definition, .node kind inner) :: after ∧
            (kind = .functionDefinition ∨ kind = .classDefinition) ∧
            (∀ p ∈ before, IsDecoration p) ∧ ∀ p ∈ after, p.2.kind? = none := by
      obtain hrest | ⟨before, kind, inner, after, rfl, hkind, hbefore, hafter⟩ :=
        ih hholdRest hfollowRest
      · exact .inl (List.forall_mem_cons.2 ⟨hp, hrest⟩)
      · exact .inr ⟨(role, t) :: before, kind, inner, after, rfl, hkind,
          List.forall_mem_cons.2 ⟨hp, hbefore⟩, hafter⟩
    by_cases hnone : t.kind? = none
    · exact hdecoration (.inl hnone)
    · obtain ⟨kind, inner, rfl⟩ := exists_eq_node_of_kind? hnone
      obtain ⟨rfl, rfl⟩ | ⟨hkind, rfl⟩ := PhraseKind.cases_of_isDecoratedPart hfirst
      · exact hdecoration (.inr ⟨rfl, rfl⟩)
      · refine .inr ⟨[], kind, inner, rest, rfl, hkind, by simp, fun p hp => ?_⟩
        simpa [PhraseKind.mayFollow, outline] using hbehind p hp

/-- Inside a definition under decorators are the parts of the decorators, and then what is inside
the definition. -/
lemma insidesOf_decorated {before after inner : List (Role × ConcreteTree)} {kind : PhraseKind}
    (hkind : kind = .functionDefinition ∨ kind = .classDefinition)
    (hbefore : ∀ p ∈ before, IsDecoration p) (hafter : ∀ p ∈ after, p.2.kind? = none) :
    insidesOf (before ++ (.definition, .node kind inner) :: after) .decoratedDefinition =
      decoratorParts before ++ childrenAmong definitionRoles inner := by
  have hnone : decoratorParts ((.definition, .node kind inner) :: after) = [] := by
    refine decoratorParts_eq_nil (List.forall_mem_cons.2 ⟨?_, fun p hp => ?_⟩)
    · obtain rfl | rfl := hkind <;> rfl
    · exact is_eq_false_of_kind? (hafter p hp)
  rw [insidesOf, decoratorParts_append, hnone, List.append_nil, definition?_append hbefore]
  rfl

end ConcreteTree

end Lookalike.Python
