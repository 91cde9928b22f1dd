import Lookalike.Proofs.Python.Inside

/-! ### Calls that are kept

A call in a program is kept when the program is lowered, unless it stands in a part that lowering
passes over: in the type parameters or the result type of a definition, or in what an assignment
assigns to or the type that it states. Nothing else is lost, and nothing is kept twice, for the
calls in a tree are those in its insides, and its own if it is one. -/

namespace Lookalike.Python

namespace ConcreteTree

/-! #### Calls and where they stand -/

/-- Whether lowering passes over the parts of a tree in a role: the type parameters and the result
type of a definition, and the targets and the type of an assignment. -/
def isPassedOver : PhraseKind → Role → Bool
  | .functionDefinition, .part => true
  | .functionDefinition, .returnType => true
  | .classDefinition, .part => true
  | .assignment, .left => true
  | .assignment, .type => true
  | .augmentedAssignment, .left => true
  | _, _ => false

/-- A call, and whether it stands in a part that lowering passes over. -/
structure CallSite where
  call : ConcreteTree
  isLost : Bool

mutual

/-- The calls in a tree, a call before those in it, where all of them are lost if `lost` says so. -/
def callSites (lost : Bool) : ConcreteTree → List CallSite
  | .node kind children =>
    (if kind = .call then [⟨.node kind children, lost⟩] else []) ++ callSitesIn lost kind children
  | _ => []

/-- The calls in some children of a tree of a given kind. -/
def callSitesIn (lost : Bool) (kind : PhraseKind) : List (Role × ConcreteTree) → List CallSite
  | [] => []
  | (role, t) :: rest =>
    callSites (lost || isPassedOver kind role) t ++ callSitesIn lost kind rest

end

/-- The calls in a tree that are not lost. -/
def keptCalls (t : ConcreteTree) : List ConcreteTree :=
  ((t.callSites false).filter (!·.isLost)).map (·.call)

mutual

/-- All calls inside a part that is left out are lost. -/
lemma isLost_of_mem_callSites : ∀ (t : ConcreteTree), ∀ s ∈ t.callSites true, s.isLost = true
  | .node kind children => by
    rw [callSites]
    refine List.forall_mem_append.2 ⟨?_, isLost_of_mem_callSitesIn kind children⟩
    split <;> simp
  | .leaf _ _ | .comment _ | .joint _ | .mark _ _ => by simp [callSites]

/-- All calls among the children of a part that is left out are lost. -/
lemma isLost_of_mem_callSitesIn (kind : PhraseKind) :
    ∀ (children : List (Role × ConcreteTree)), ∀ s ∈ callSitesIn true kind children, s.isLost = true
  | [] => by simp [callSitesIn]
  | (role, t) :: rest => by
    rw [callSitesIn, Bool.true_or]
    exact List.forall_mem_append.2 ⟨isLost_of_mem_callSites t, isLost_of_mem_callSitesIn kind rest⟩

end

/-- The calls that are kept from a child. -/
def keptFrom (kind : PhraseKind) (p : Role × ConcreteTree) : List ConcreteTree :=
  if isPassedOver kind p.1 then [] else p.2.keptCalls

/-- The calls of a node that are kept are itself, if it is a call, and those that are kept of its
children. -/
lemma keptCalls_node (kind : PhraseKind) (children : List (Role × ConcreteTree)) :
    (ConcreteTree.node kind children).keptCalls =
      (if kind = .call then [.node kind children] else []) ++ children.flatMap (keptFrom kind) := by
  have hchildren : ∀ children : List (Role × ConcreteTree),
      ((callSitesIn false kind children).filter (!·.isLost)).map (·.call) =
        children.flatMap (keptFrom kind) := by
    intro children
    induction children with
    | nil => rfl
    | cons p rest ih =>
      obtain ⟨role, t⟩ := p
      rw [callSitesIn, List.filter_append, List.map_append, ih, List.flatMap_cons, Bool.false_or,
        keptFrom]
      cases isPassedOver kind role with
      | false => rfl
      | true =>
        have hlost : (t.callSites true).filter (!·.isLost) = [] := by
          simpa using isLost_of_mem_callSites t
        rw [hlost]
        rfl
  rw [keptCalls, callSites, List.filter_append, List.map_append, hchildren]
  split <;> rfl

/-- What is no node has no calls. -/
lemma keptCalls_of_kind? {t : ConcreteTree} (h : t.kind? = none) : t.keptCalls = [] := by
  match t with
  | .leaf _ _ | .comment _ | .joint _ | .mark _ _ => rfl
  | .node _ _ => cases h

/-- Nothing is kept of a tree in which nothing is called. -/
lemma IsCallFree.keptCalls_eq_nil {t : ConcreteTree} (h : t.IsCallFree) : t.keptCalls = [] := by
  induction h with
  | single h => exact keptCalls_of_kind? h
  | @node kind children hkind _ ih =>
    rw [keptCalls_node, if_neg hkind, List.nil_append, List.flatMap_eq_nil_iff]
    intro p hp
    rw [keptFrom, ih p hp]
    split <;> rfl

/-! #### Calls in the insides of a tree -/

/-- What is collected from the children in some roles is collected from all children, with nothing
from the others. -/
lemma flatMap_childrenAmong {β : Type} (f : ConcreteTree → List β) (roles : List Role)
    (children : List (Role × ConcreteTree)) :
    (childrenAmong roles children).flatMap f =
      children.flatMap fun p => if roles.contains p.1 then f p.2 else [] := by
  induction children with
  | nil => rfl
  | cons p rest ih =>
    rw [List.flatMap_cons, ← ih, childrenAmong, childrenAmong, List.filter_cons]
    split <;> rfl

/-- If a part with parts of its own is passed over exactly if it is not in one of some roles, then
the calls that are kept are those in these roles. -/
lemma flatMap_keptFrom_eq {kind : PhraseKind} {roles : List Role}
    {children : List (Role × ConcreteTree)}
    (h : ∀ p ∈ children, p.2.kind? ≠ none → isPassedOver kind p.1 = !roles.contains p.1) :
    children.flatMap (keptFrom kind) = (childrenAmong roles children).flatMap keptCalls := by
  rw [flatMap_childrenAmong]
  refine List.flatMap_congr fun p hp => ?_
  by_cases hp' : p.2.kind? = none
  · rw [keptFrom, keptCalls_of_kind? hp']
    split <;> split <;> rfl
  · rw [keptFrom, h p hp hp']
    cases roles.contains p.1 <;> rfl

/-- Nothing is kept from a child that is no node. -/
lemma keptFrom_of_kind? {kind : PhraseKind} {p : Role × ConcreteTree} (h : p.2.kind? = none) :
    keptFrom kind p = [] := by
  rw [keptFrom, keptCalls_of_kind? h]
  split <;> rfl

/-- Nothing is kept from children none of which is a node. -/
lemma flatMap_keptFrom_eq_nil {kind : PhraseKind} {children : List (Role × ConcreteTree)}
    (h : ∀ p ∈ children, p.2.kind? = none) : children.flatMap (keptFrom kind) = [] :=
  List.flatMap_eq_nil_iff.2 fun p hp => keptFrom_of_kind? (h p hp)

/-- Of a chain of assignments the calls in its value are kept. -/
lemma flatMap_keptFrom_assignment : ∀ {children : List (Role × ConcreteTree)},
    (∀ p ∈ children, PhraseKind.mayHold .assignment (outline p) = true) →
    (children.Pairwise fun p q => PhraseKind.mayFollow .assignment (outline p) (outline q) = true) →
    (∀ p ∈ children, p.2.IsSound) →
      children.flatMap (keptFrom .assignment) = (assignedValues children).flatMap keptCalls
  | [], _, _, _ => by simp [assignedValues]
  | (role, t) :: rest, hhold, hfollow, hsound => by
    obtain ⟨hfirst, hhold⟩ := List.forall_mem_cons.1 hhold
    obtain ⟨hbehind, hfollow⟩ := List.pairwise_cons.1 hfollow
    obtain ⟨ht, hsound⟩ := List.forall_mem_cons.1 hsound
    rw [List.flatMap_cons]
    by_cases hrole : role = .right
    · subst hrole
      have hrest : ∀ p ∈ rest, p.2.kind? = none := fun p hp => by
        simpa [PhraseKind.mayFollow, outline] using hbehind p hp
      have hkept : keptFrom .assignment (.right, t) = t.keptCalls := rfl
      rw [flatMap_keptFrom_eq_nil hrest, List.append_nil, hkept]
      cases hassignment : t.is .assignment with
      | true =>
        obtain ⟨inner, rfl⟩ := exists_eq_node_of_is hassignment
        rw [assignedValues, keptCalls_node, if_neg (by decide), List.nil_append]
        cases ht with
        | single h => cases h
        | node _ hhold' hfollow' _ hsound' =>
          exact flatMap_keptFrom_assignment hhold' hfollow' hsound'
      | false => rw [assignedValues_right hassignment, List.flatMap_singleton]
    · have hnone : keptFrom .assignment (role, t) = [] := by
        by_cases hkind : t.kind? = none
        · exact keptFrom_of_kind? hkind
        · have hpassed : isPassedOver .assignment role = true := by
            have hrole' : role = .left ∨ role = .type := by
              simpa [PhraseKind.mayHold, outline, hkind, hrole] using hfirst
            obtain rfl | rfl := hrole' <;> rfl
          rw [keptFrom, if_pos hpassed]
      rw [assignedValues_of_ne_right hrole, hnone, List.nil_append,
        flatMap_keptFrom_assignment hhold hfollow hsound]

/-- Of a definition the calls in its bases or parameters and in its body are kept. -/
lemma flatMap_keptFrom_definition {kind : PhraseKind} {children : List (Role × ConcreteTree)}
    (hkind : kind = .functionDefinition ∨ kind = .classDefinition)
    (hhold : ∀ p ∈ children, kind.mayHold (outline p) = true) :
    children.flatMap (keptFrom kind) =
      (childrenAmong definitionRoles children).flatMap keptCalls := by
  refine flatMap_keptFrom_eq fun p hp hparts => ?_
  have hrole := hhold p hp
  obtain rfl | rfl := hkind
  · have hrole : p.1 = .part ∨ p.1 = .parameters ∨ p.1 = .returnType ∨ p.1 = .body := by
      simpa [PhraseKind.mayHold, outline, hparts] using hrole
    obtain h | h | h | h := hrole <;> rw [h] <;> rfl
  · have hrole : p.1 = .part ∨ p.1 = .superclasses ∨ p.1 = .body := by
      simpa [PhraseKind.mayHold, outline, hparts] using hrole
    obtain h | h | h := hrole <;> rw [h] <;> rfl

/-- Of what stands before a definition the calls in the decorators are kept. -/
lemma flatMap_keptFrom_decorations {before : List (Role × ConcreteTree)}
    (h : ∀ p ∈ before, IsDecoration p) :
    before.flatMap (keptFrom .decoratedDefinition) = (decoratorParts before).flatMap keptCalls := by
  induction before with
  | nil => rfl
  | cons p before ih =>
    obtain ⟨hp, hbefore⟩ := List.forall_mem_cons.1 h
    obtain ⟨role, t⟩ := p
    have hparts : decoratorParts ((role, t) :: before) =
        decoratorParts [(role, t)] ++ decoratorParts before := decoratorParts_append [_] _
    rw [List.flatMap_cons, ih hbefore, hparts, List.flatMap_append]
    congr 1
    obtain hkind | ⟨rfl, hdecorator⟩ := hp
    · rw [keptFrom_of_kind? hkind, decoratorParts_eq_nil]
      · rfl
      · simpa using is_eq_false_of_kind? hkind
    · obtain ⟨inner, rfl⟩ := exists_eq_node_of_is hdecorator
      have hinner : inner.flatMap (keptFrom .decorator) = (inner.map (·.2)).flatMap keptCalls := by
        rw [List.flatMap_map]
        rfl
      have hkept : keptFrom .decoratedDefinition (.part, .node .decorator inner) =
          (ConcreteTree.node .decorator inner).keptCalls := rfl
      rw [hkept, keptCalls_node, if_neg (by decide), List.nil_append, hinner]
      simp [decoratorParts, is, kind?, parts]

/-- Of a decorated definition the calls in its decorators and those of the definition are kept. -/
lemma flatMap_keptFrom_decorated {children : List (Role × ConcreteTree)}
    (hhold : ∀ p ∈ children, PhraseKind.mayHold .decoratedDefinition (outline p) = true)
    (hfollow : children.Pairwise fun p q =>
      PhraseKind.mayFollow .decoratedDefinition (outline p) (outline q) = true)
    (hsound : ∀ p ∈ children, p.2.IsSound) :
    children.flatMap (keptFrom .decoratedDefinition) =
      (insidesOf children .decoratedDefinition).flatMap keptCalls := by
  obtain hall | ⟨before, kind, inner, after, rfl, hkind, hbefore, hafter⟩ :=
    cases_of_decorated hhold hfollow
  · have hnone : definition? children = none := by
      simpa [definition?] using definition?_append hall []
    rw [flatMap_keptFrom_decorations hall, insidesOf, hnone]
    simp
  · have hkept : keptFrom .decoratedDefinition (.definition, .node kind inner) =
        (childrenAmong definitionRoles inner).flatMap keptCalls := by
      have hdefinition : (ConcreteTree.node kind inner).IsSound :=
        hsound (.definition, .node kind inner) (by simp)
      cases hdefinition with
      | single h => cases h
      | node _ hhold' _ _ _ =>
        rw [← flatMap_keptFrom_definition hkind hhold']
        obtain rfl | rfl := hkind <;> exact keptCalls_node _ _
    rw [List.flatMap_append, flatMap_keptFrom_decorations hbefore, List.flatMap_cons,
      flatMap_keptFrom_eq_nil hafter, List.append_nil, hkept,
      insidesOf_decorated hkind hbefore hafter,
      List.flatMap_append]

/-- **Calls in the insides.** The calls that are kept of a sound tree are those of its insides,
after the tree itself if it is a call. -/
theorem IsSound.keptCalls_eq {t : ConcreteTree} (h : t.IsSound) :
    t.keptCalls = (if t.is .call then [t] else []) ++ t.insides.flatMap keptCalls := by
  cases h with
  | @single t h =>
    match t with
    | .leaf _ _ | .comment _ | .joint _ | .mark _ _ => rfl
    | .node _ _ => cases h
  | @node kind children hne hhold hfollow himport hsound =>
    have hown : (if (ConcreteTree.node kind children).is .call then
        [ConcreteTree.node kind children] else []) =
          if kind = .call then [.node kind children] else [] := by
      simp [is, kind?]
    rw [keptCalls_node, hown]
    congr 1
    change _ = (insidesOf children kind).flatMap keptCalls
    -- A kind with insides of its own passes over all other parts, and an import has no calls.
    unfold insidesOf
    split
    · exact flatMap_keptFrom_definition (.inl rfl) hhold
    · exact flatMap_keptFrom_definition (.inr rfl) hhold
    · exact flatMap_keptFrom_decorated hhold hfollow hsound
    · refine flatMap_keptFrom_eq fun p hp hparts => ?_
      have hrole : p.1 = .condition ∨ p.1 = .consequence ∨ p.1 = .alternative := by
        simpa [PhraseKind.mayHold, outline, hparts] using hhold p hp
      obtain h | h | h := hrole <;> rw [h] <;> rfl
    · exact flatMap_keptFrom_assignment hhold hfollow hsound
    · refine flatMap_keptFrom_eq fun p hp hparts => ?_
      have hrole : p.1 = .left ∨ p.1 = .right := by
        simpa [PhraseKind.mayHold, outline, hparts] using hhold p hp
      obtain h | h := hrole <;> rw [h] <;> rfl
    · split
      · next hkind =>
        refine List.flatMap_eq_nil_iff.2 fun p hp => ?_
        rw [keptFrom, (himport hkind p hp).keptCalls_eq_nil]
        split <;> rfl
      · have hpassed : ∀ role, isPassedOver kind role = false := by
          intro role
          unfold isPassedOver
          split <;> first | rfl | contradiction
        rw [List.flatMap_map]
        refine List.flatMap_congr fun p _ => ?_
        rw [keptFrom, hpassed]
        rfl

end ConcreteTree

end Lookalike.Python
