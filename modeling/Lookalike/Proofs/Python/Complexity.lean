import Mathlib.Algebra.GroupWithZero.Nat
import Lookalike.Proofs.Python.ControlTokens
import Lookalike.Proofs.Python.Visits

/-! ### Complexity

The complexity of a piece of program can be read off its control tokens: there is one of them for
each branch, and the greatest depth tag in them is the depth of the deepest control structure. It is
also a count of the control structures that are visited, of their further conditions and of how deep
they are nested. -/

namespace Lookalike.Python

/-! #### Counting visits -/

/-- Whether a visit is to a control structure. -/
def Visit.isControl (v : Visit) : Bool :=
  v.tree.construct.isControl

namespace SyntaxTree

/-- The visits to the control structures in a tree. -/
def controls (t : SyntaxTree) : List Visit :=
  t.visits.filter Visit.isControl

/-- How many branches there are in a tree: one for each control structure and one for each further
condition. -/
def branches (t : SyntaxTree) : Nat :=
  t.controls.length + (t.controls.map (·.tree.construct.elifs)).sum

/-- How deep control structures are nested in a tree. -/
def nesting (t : SyntaxTree) : Nat :=
  (t.controls.map (·.above + 1)).foldr max 0

end SyntaxTree

/-- A visited control structure has one branch and one more for each further condition. -/
lemma Visit.branches_findings (depth : Nat) (v : Visit) :
    (v.findings depth).branches = if v.isControl then 1 + v.tree.construct.elifs else 0 :=
  Construct.branches_findings _ _ _

/-- A visited control structure is one level deeper than those above it. -/
lemma Visit.deepest_findings (depth : Nat) (v : Visit) :
    (v.findings depth).deepest = if v.isControl then depth + v.above + 1 else 0 :=
  Construct.deepest_findings _ _ _

/-- The branches that are gathered are the control structures and their further conditions. -/
lemma branches_gather (depth : Nat) (vs : List Visit) :
    (gather depth vs).branches =
      (vs.filter Visit.isControl).length +
        ((vs.filter Visit.isControl).map (·.tree.construct.elifs)).sum := by
  induction vs with
  | nil => rfl
  | cons v vs ih =>
    rw [gather, Findings.branches_append, ih, Visit.branches_findings]
    cases hv : v.isControl with
    | true =>
      rw [List.filter_cons_of_pos hv, List.length_cons, List.map_cons, List.sum_cons, if_pos rfl]
      omega
    | false =>
      rw [List.filter_cons_of_neg (Bool.eq_false_iff.1 hv), if_neg Bool.false_ne_true,
        Nat.zero_add]

/-- The deepest nesting that is gathered is that of the deepest control structure. -/
lemma deepest_gather (vs : List Visit) :
    (gather 0 vs).deepest = ((vs.filter Visit.isControl).map (·.above + 1)).foldr max 0 := by
  induction vs with
  | nil => rfl
  | cons v vs ih =>
    rw [gather, Findings.deepest_append, ih, Visit.deepest_findings, Nat.zero_add]
    cases hv : v.isControl with
    | true => rw [List.filter_cons_of_pos hv, List.map_cons, List.foldr_cons, if_pos rfl]
    | false =>
      rw [List.filter_cons_of_neg (Bool.eq_false_iff.1 hv), if_neg Bool.false_ne_true,
        Nat.zero_max]

/-- The branches of a tree are those among its findings. -/
lemma SyntaxTree.branches_eq (t : SyntaxTree) : t.branches = (t.findings 0).branches := by
  rw [findings_eq_gather, branches_gather]
  rfl

/-- The nesting of a tree is the deepest among its findings. -/
lemma SyntaxTree.nesting_eq (t : SyntaxTree) : t.nesting = (t.findings 0).deepest := by
  rw [findings_eq_gather, deepest_gather]
  rfl

/-- The complexity of a tree counts its branches and how deep they are nested. -/
lemma Features.complexity_ofTree (t : SyntaxTree) :
    (ofTree t).complexity = 1 + t.branches + (t.nesting - 3) := by
  rw [SyntaxTree.branches_eq, SyntaxTree.nesting_eq]
  rfl

/-! #### Reading control tokens -/

/-- The deepest tag is that of the first token or of the others. -/
lemma deepestTag_cons (x : String) (xs : List String) :
    deepestTag (x :: xs) = max ((depthTag? x).getD 0) (deepestTag xs) := by
  rw [deepestTag, deepestTag]
  cases hx : depthTag? x with
  | none => rw [List.filterMap_cons_none hx, Option.getD_none, Nat.zero_max]
  | some d => rw [List.filterMap_cons_some hx, Option.getD_some, List.foldr_cons]

/-- The deepest tag in two lists is the deeper one. -/
lemma deepestTag_append (xs ys : List String) :
    deepestTag (xs ++ ys) = max (deepestTag xs) (deepestTag ys) := by
  induction xs with
  | nil => exact (Nat.zero_max _).symm
  | cons x xs ih => rw [List.cons_append, deepestTag_cons, deepestTag_cons, ih, Nat.max_assoc]

/-- The greatest depth tag in some tokens of one depth is this depth. -/
lemma deepestTag_map_token {forms : List TokenForm} (h : forms ≠ []) (depth : Nat) :
    deepestTag (forms.map (·.token depth)) = depth := by
  induction forms with
  | nil => exact absurd rfl h
  | cons form forms ih =>
    rw [List.map_cons, deepestTag_cons, TokenForm.depthTag?_token, Option.getD_some]
    by_cases hforms : forms = []
    · subst hforms
      exact Nat.max_zero _
    · rw [ih hforms, Nat.max_self]

/-- Findings whose control tokens tell how many branches there are and how deep they are. -/
structure Findings.AreTold (f : Findings) : Prop where
  branches : f.branches = f.controlFlow.length
  deepest : f.deepest = deepestTag f.controlFlow

/-- No contribution is told by no control tokens. -/
lemma Findings.areTold_none : none.AreTold :=
  ⟨rfl, rfl⟩

/-- Contributions that are told by their control tokens are so together. -/
lemma Findings.AreTold.append {f g : Findings} (hf : f.AreTold) (hg : g.AreTold) :
    (f.append g).AreTold where
  branches := by
    rw [branches_append, controlFlow_append, List.length_append, hf.branches, hg.branches]
  deepest := by
    rw [deepest_append, controlFlow_append, deepestTag_append, hf.deepest, hg.deepest]

/-- The control tokens of a construct tell its branches and its depth. -/
lemma Construct.areTold_findings (depth : Nat) (children : List SyntaxTree) (c : Construct) :
    (c.findings depth children).AreTold where
  branches := by
    rw [branches_findings, controlFlow_findings, List.length_map, length_tokenForms]
  deepest := by
    rw [deepest_findings, controlFlow_findings]
    cases hcontrol : c.isControl with
    | true =>
      have hforms : c.tokenForms ≠ [] := by
        rw [← List.length_pos_iff, length_tokenForms, hcontrol, if_pos rfl]
        omega
      rw [deepestTag_map_token hforms, if_pos rfl]
    | false =>
      have hforms : c.tokenForms = [] := by
        rw [← List.length_eq_zero_iff, length_tokenForms, hcontrol, if_neg Bool.false_ne_true]
      rw [hforms, if_neg Bool.false_ne_true]
      rfl

/-- The control tokens of visits tell their branches and the depth of the deepest one. -/
lemma areTold_gather (depth : Nat) (vs : List Visit) : (gather depth vs).AreTold := by
  induction vs with
  | nil => exact Findings.areTold_none
  | cons v vs ih => exact (Construct.areTold_findings _ _ _).append ih

/-! #### Complexity from control tokens -/

/-- The complexity of a tree can be read off its control tokens. -/
lemma Features.complexity_eq_of_controlFlow (t : SyntaxTree) :
    (ofTree t).complexity =
      1 + (ofTree t).controlFlow.length + (deepestTag (ofTree t).controlFlow - 3) := by
  have htold : (t.findings 0).AreTold := t.findings_eq_gather 0 ▸ areTold_gather 0 t.visits
  rw [ofTree]
  dsimp only
  rw [htold.branches, htold.deepest]
  rfl

/-- Only the multiset of tokens matters for the greatest depth tag. -/
lemma deepestTag_eq_of_perm {xs ys : List String} (h : xs.Perm ys) :
    deepestTag xs = deepestTag ys :=
  (h.filterMap depthTag?).foldr_eq' (fun a _ b _ c => Nat.max_left_comm b a c) 0

/-- **Complexity and control tokens.** The complexity of a tree is one more than the number of its
control tokens and the part of its greatest depth tag beyond three. It is also one more than the
number of control structures that are visited, of their further conditions, and of the levels of
nesting beyond three. Hence trees with the same control tokens in any order are of the same
complexity. -/
theorem complexity_of_controlFlow (t : SyntaxTree) :
    (Features.ofTree t).complexity =
        1 + (Features.ofTree t).controlFlow.length +
          (deepestTag (Features.ofTree t).controlFlow - 3) ∧
      (Features.ofTree t).complexity =
        1 + t.controls.length + (t.controls.map (·.tree.construct.elifs)).sum + (t.nesting - 3) ∧
      ∀ t' : SyntaxTree,
        (Features.ofTree t).controlFlow.Perm (Features.ofTree t').controlFlow →
          (Features.ofTree t).complexity = (Features.ofTree t').complexity := by
  refine ⟨Features.complexity_eq_of_controlFlow t, ?_, fun t' hperm => ?_⟩
  · rw [Features.complexity_ofTree, SyntaxTree.branches, ← Nat.add_assoc]
  · rw [Features.complexity_eq_of_controlFlow, Features.complexity_eq_of_controlFlow,
      hperm.length_eq, deepestTag_eq_of_perm hperm]

/-- A choice with one further condition, and four control structures deep. -/
def deepChoice : SyntaxTree :=
  .node (.branch 1 true) 1 8
    [.node (.forLoop false) 2 5 [.node (.whileLoop false) 3 5 [.node (.branch 0 false) 4 5 []]]]

/-- A loop over an attempt. -/
def guardedLoop : SyntaxTree :=
  .node (.forLoop true) 9 14 [.node (.attempt 2 false true) 10 13 [.node .pass 11 11 []]]

/-- Two control structures that change places. -/
theorem complexity_of_controlFlow_swapped :
    (Features.ofTree (.node .module 1 14 [deepChoice, guardedLoop])).controlFlow.Perm
        (Features.ofTree (.node .module 1 14 [guardedLoop, deepChoice])).controlFlow ∧
      (Features.ofTree (.node .module 1 14 [deepChoice, guardedLoop])).complexity =
        (Features.ofTree (.node .module 1 14 [guardedLoop, deepChoice])).complexity := by
  have hperm : (Features.ofTree (.node .module 1 14 [deepChoice, guardedLoop])).controlFlow.Perm
      (Features.ofTree (.node .module 1 14 [guardedLoop, deepChoice])).controlFlow := by
    decide +kernel
  exact ⟨hperm, (complexity_of_controlFlow _).2.2 _ hperm⟩

end Lookalike.Python
