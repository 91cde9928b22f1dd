import Lookalike.Proofs.Ordered.TextMap
import Lookalike.Proofs.Python.Complexity

/-! ### Composition of features

The features of a tree hold those of each tree that is visited in it: tokens and callees stand side
by side in those of the whole, and the depth tags are raised by the number of control structures
around the part. The features of a module are put together from those of two halves of it. -/

namespace Lookalike.Python

/-! #### Findings at a greater depth -/

/-- The control tokens that are gathered have the depths of the visits. -/
lemma controlFlow_gather (depth : Nat) (vs : List Visit) :
    (gather depth vs).controlFlow =
      vs.flatMap fun v => v.tree.construct.tokenForms.map (·.token (depth + v.above + 1)) := by
  rw [list_gather rfl Findings.controlFlow_append]
  exact List.flatMap_congr fun _ _ => Construct.controlFlow_findings _ _ _

/-- The control tokens of visits at a greater depth have their depth tags raised. -/
lemma controlFlow_gather_add (depth k : Nat) (vs : List Visit) :
    (gather (depth + k) vs).controlFlow = (gather depth vs).controlFlow.map (raiseTag k) := by
  rw [controlFlow_gather, controlFlow_gather, List.map_flatMap]
  refine List.flatMap_congr fun v _ => ?_
  have hdepth : depth + k + v.above + 1 = depth + v.above + 1 + k := by omega
  rw [List.map_map, hdepth]
  exact List.map_congr_left fun form _ => (form.raiseTag_token _ k).symm

section Deeper

variable (t : SyntaxTree) (k : Nat)

/-- Deeper down, the control tokens of a tree have raised tags. -/
lemma controlFlow_findings_deeper :
    (t.findings k).controlFlow = (t.findings 0).controlFlow.map (raiseTag k) := by
  rw [SyntaxTree.findings_eq_gather, SyntaxTree.findings_eq_gather, ← controlFlow_gather_add,
    Nat.zero_add]

/-- Deeper down, the structure tokens of a tree are the same. -/
lemma structureTokens_findings_deeper :
    (t.findings k).structureTokens = (t.findings 0).structureTokens := by
  rw [SyntaxTree.findings_eq_gather, SyntaxTree.findings_eq_gather, structureTokens_gather,
    structureTokens_gather]

/-- Deeper down, the callees of a tree are the same. -/
lemma calls_findings_deeper : (t.findings k).calls = (t.findings 0).calls := by
  rw [SyntaxTree.findings_eq_gather, SyntaxTree.findings_eq_gather, calls_gather, calls_gather]

/-- Deeper down, the modules of a tree are the same. -/
lemma dependencies_findings_deeper :
    (t.findings k).dependencies = (t.findings 0).dependencies := by
  rw [SyntaxTree.findings_eq_gather, SyntaxTree.findings_eq_gather, dependencies_gather,
    dependencies_gather]

end Deeper

/-! #### Parts of a tree -/

/-- What a visited tree contributes at its depth stands between what comes before it and what comes
after it. -/
lemma SyntaxTree.exists_findings_eq {t : SyntaxTree} {v : Visit} (hv : v ∈ t.visits) :
    ∃ before after : Findings,
      t.findings 0 = (before.append (v.tree.findings v.above)).append after := by
  obtain ⟨before, after, hvisits⟩ := t.isInfix_visits hv
  refine ⟨gather 0 before, gather 0 after, ?_⟩
  rw [findings_eq_gather, findings_eq_gather, ← hvisits, gather_append, gather_append,
    gather_map_below, Nat.zero_add]

/-- The features of a part of a program, with some control structures around it, among those of the
whole. -/
structure Features.ArePartOf (above : Nat) (part whole : Features) : Prop where
  structureTokens : part.structureTokens <:+: whole.structureTokens
  calls : part.calls <:+: whole.calls
  dependencies : ∀ name ∈ part.dependencies, name ∈ whole.dependencies
  controlFlow : part.controlFlow.map (raiseTag above) <:+: whole.controlFlow

/-- The features of a visited tree are among those of the tree that it is in. -/
lemma Features.arePartOf_ofTree {t : SyntaxTree} {v : Visit} (hv : v ∈ t.visits) :
    ArePartOf v.above (ofTree v.tree) (ofTree t) := by
  obtain ⟨before, after, h⟩ := SyntaxTree.exists_findings_eq hv
  constructor
  · refine ⟨before.structureTokens, after.structureTokens, ?_⟩
    rw [ofTree, ofTree, h, ← structureTokens_findings_deeper v.tree v.above]
    rfl
  · refine ⟨before.calls, after.calls, ?_⟩
    rw [ofTree, ofTree, h, ← calls_findings_deeper v.tree v.above]
    rfl
  · intro name hname
    rw [ofTree, TextSet.mem_ofList, ← dependencies_findings_deeper v.tree v.above] at hname
    rw [ofTree, TextSet.mem_ofList, h]
    exact List.mem_append_left _ (List.mem_append_right _ hname)
  · refine ⟨before.controlFlow, after.controlFlow, ?_⟩
    rw [ofTree, ofTree, h, ← controlFlow_findings_deeper v.tree v.above]
    rfl

/-! #### Halves of a module -/

/-- A module contributes what two halves of it contribute. -/
lemma findings_module_append (first last first₁ last₁ first₂ last₂ : Nat)
    (xs ys : List SyntaxTree) :
    (SyntaxTree.node .module first last (xs ++ ys)).findings 0 =
      ((SyntaxTree.node .module first₁ last₁ xs).findings 0).append
        ((SyntaxTree.node .module first₂ last₂ ys).findings 0) := by
  have hmodule (first last : Nat) (ts : List SyntaxTree) :
      (SyntaxTree.node .module first last ts).findings 0 =
        gather 0 (SyntaxTree.visitsOfAll ts) := by
    rw [SyntaxTree.findings, findingsOfAll_eq_gather]
    exact Findings.none_append _
  rw [hmodule, hmodule, hmodule, SyntaxTree.visitsOfAll_append, gather_append]

/-- The features of a whole are put together from those of two parts. -/
structure Features.AreJoined (f g whole : Features) : Prop where
  structureTokens : whole.structureTokens = f.structureTokens ++ g.structureTokens
  controlFlow : whole.controlFlow = f.controlFlow ++ g.controlFlow
  calls : whole.calls = f.calls ++ g.calls
  dependencies : ∀ name, name ∈ whole.dependencies ↔ name ∈ f.dependencies ∨ name ∈ g.dependencies
  /-- What is stated last counts. -/
  types : ∀ key, whole.types.get? key = (g.types.get? key).or (f.types.get? key)

/-- Findings in a row make features that are put together. -/
lemma Features.areJoined_of_append {t u whole : SyntaxTree}
    (h : whole.findings 0 = (t.findings 0).append (u.findings 0)) :
    AreJoined (ofTree t) (ofTree u) (ofTree whole) := by
  constructor
  · rw [ofTree, h]
    rfl
  · rw [ofTree, h]
    rfl
  · rw [ofTree, h]
    rfl
  · intro name
    rw [ofTree, ofTree, ofTree, TextSet.mem_ofList, TextSet.mem_ofList, TextSet.mem_ofList, h]
    exact List.mem_append
  · intro key
    rw [ofTree, h]
    exact TextMap.get?_ofList_append _ _ key

/-- **Composition of features.** The features of each visited tree are among those of the whole,
with the depth tags raised by the number of control structures around the tree. The features of a
module are put together from those of two halves of it; its complexity adds up their branches and
takes the deeper one of their nestings. -/
theorem features_compose :
    (∀ (t : SyntaxTree), ∀ v ∈ t.visits,
        Features.ArePartOf v.above (Features.ofTree v.tree) (Features.ofTree t)) ∧
      ∀ (xs ys : List SyntaxTree) (first last first₁ last₁ first₂ last₂ : Nat),
        let front : SyntaxTree := .node .module first₁ last₁ xs
        let back : SyntaxTree := .node .module first₂ last₂ ys
        let whole : SyntaxTree := .node .module first last (xs ++ ys)
        Features.AreJoined (Features.ofTree front) (Features.ofTree back) (Features.ofTree whole) ∧
          (Features.ofTree whole).complexity =
            1 + front.branches + back.branches + (max front.nesting back.nesting - 3) := by
  refine ⟨fun t v hv => Features.arePartOf_ofTree hv, ?_⟩
  intro xs ys first last first₁ last₁ first₂ last₂ front back whole
  have hwhole : whole.findings 0 = (front.findings 0).append (back.findings 0) :=
    findings_module_append first last first₁ last₁ first₂ last₂ xs ys
  have hbranches : whole.branches = front.branches + back.branches := by
    rw [SyntaxTree.branches_eq, SyntaxTree.branches_eq, SyntaxTree.branches_eq, hwhole,
      Findings.branches_append]
  have hnesting : whole.nesting = max front.nesting back.nesting := by
    rw [SyntaxTree.nesting_eq, SyntaxTree.nesting_eq, SyntaxTree.nesting_eq, hwhole,
      Findings.deepest_append]
  refine ⟨Features.areJoined_of_append hwhole, ?_⟩
  rw [Features.complexity_ofTree, hbranches, hnesting, ← Nat.add_assoc]

/-- An attempt to call something, under the care of a handler. -/
def carefulCall : SyntaxTree :=
  .node (.attempt 1 false false) 4 7
    [.node (.call (.name "send") 1 0) 5 5 [], .node .continue 7 7 []]

/-- A module with a function that tries again and again. -/
def persistentModule : SyntaxTree :=
  .node .module 1 7
    [.node (.imports ["time"]) 1 1 [],
      .node (.function ⟨"f", [⟨"x", none⟩], false, false, 0, none, false⟩) 2 7
        [.node (.whileLoop false) 3 7 [carefulCall]]]

/-- An attempt with a call, deep in a module. -/
theorem features_compose_carefulCall :
    ⟨1, carefulCall⟩ ∈ persistentModule.visits ∧
      Features.ArePartOf 1 (Features.ofTree carefulCall) (Features.ofTree persistentModule) := by
  have hvisit : ⟨1, carefulCall⟩ ∈ persistentModule.visits := by
    simp [persistentModule, carefulCall, SyntaxTree.visits, SyntaxTree.visitsOfAll, Visit.below,
      Construct.isClosed, Construct.levels, Construct.isControl]
  exact ⟨hvisit, features_compose.1 _ _ hvisit⟩

/-- In the whole, the attempt is one level deeper. -/
example : (Features.ofTree carefulCall).controlFlow = ["TRY@1:1"] ∧
    (Features.ofTree persistentModule).controlFlow = ["WHILE@1", "TRY@2:1"] := by
  decide

end Lookalike.Python
