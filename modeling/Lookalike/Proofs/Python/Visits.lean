import Mathlib.Data.List.Basic
import Mathlib.Data.List.Infix
import Mathlib.Tactic.Lemma
import Lookalike.Python.Features

/-! ### Visits

The features of a tree are collected at visits to the trees in it. Each of these is visited below a
number of control structures, and nothing inside imports and the like is visited. What a tree
contributes is what the visits contribute, one after another, and the visits to the parts of a
visited tree stand side by side among those to the whole. -/

namespace Lookalike.Python

/-! #### Contributions in a row -/

namespace Findings

section Append

variable (f g : Findings)

/-- The structure tokens of two contributions stand one after the other. -/
@[simp]
lemma structureTokens_append :
    (f.append g).structureTokens = f.structureTokens ++ g.structureTokens :=
  rfl

/-- The control tokens of two contributions stand one after the other. -/
@[simp]
lemma controlFlow_append : (f.append g).controlFlow = f.controlFlow ++ g.controlFlow :=
  rfl

/-- The modules of two contributions stand one after the other. -/
@[simp]
lemma dependencies_append : (f.append g).dependencies = f.dependencies ++ g.dependencies :=
  rfl

/-- The callees of two contributions stand one after the other. -/
@[simp]
lemma calls_append : (f.append g).calls = f.calls ++ g.calls :=
  rfl

/-- The stated types of two contributions stand one after the other. -/
@[simp]
lemma types_append : (f.append g).types = f.types ++ g.types :=
  rfl

/-- The branches of two contributions are counted together. -/
@[simp]
lemma branches_append : (f.append g).branches = f.branches + g.branches :=
  rfl

/-- The deepest nesting of two contributions is the deeper one. -/
@[simp]
lemma deepest_append : (f.append g).deepest = max f.deepest g.deepest :=
  rfl

end Append

/-- No contribution before another one adds nothing. -/
@[simp]
lemma none_append (f : Findings) : none.append f = f := by
  simp [append, none]

/-- No contribution after another one adds nothing. -/
@[simp]
lemma append_none (f : Findings) : f.append none = f := by
  simp [append, none]

/-- Three contributions in a row do not depend on which two are put together first. -/
lemma append_assoc (f g h : Findings) : (f.append g).append h = f.append (g.append h) := by
  simp [append, Nat.add_assoc, Nat.max_assoc]

end Findings

/-! #### The visits to a tree -/

/-- A visit to a tree inside another one, with the number of control structures that are around
it. -/
structure Visit where
  above : Nat
  tree : SyntaxTree

/-- A visit with some more control structures around it. -/
def Visit.below (k : Nat) (v : Visit) : Visit :=
  ⟨v.above + k, v.tree⟩

/-- Visits below no more control structures are as they were. -/
lemma map_below_zero (vs : List Visit) : vs.map (Visit.below 0) = vs :=
  List.map_id _

/-- Visits below some control structures and then below others are below all of them. -/
lemma map_below_map_below (j k : Nat) (vs : List Visit) :
    (vs.map (Visit.below j)).map (Visit.below k) = vs.map (Visit.below (j + k)) := by
  rw [List.map_map]
  refine List.map_congr_left fun v _ => ?_
  rw [Function.comp_apply, Visit.below, Visit.below, Visit.below, Nat.add_assoc]

/-- How many control structures a construct is. -/
def Construct.levels (c : Construct) : Nat :=
  if c.isControl then 1 else 0

namespace SyntaxTree

mutual

/-- The visits to the trees in a tree: to the tree itself and then, unless nothing inside it counts,
to those in its children. -/
def visits : SyntaxTree → List Visit
  | .node c first last children =>
    ⟨0, .node c first last children⟩ ::
      if c.isClosed then [] else (visitsOfAll children).map (Visit.below c.levels)

/-- The visits to the trees in some trees, one tree after another. -/
def visitsOfAll : List SyntaxTree → List Visit
  | [] => []
  | t :: rest => t.visits ++ visitsOfAll rest

end

/-- The visits to the trees in two lists are those to the first ones and then those to the others.
-/
lemma visitsOfAll_append (ts us : List SyntaxTree) :
    visitsOfAll (ts ++ us) = visitsOfAll ts ++ visitsOfAll us := by
  induction ts with
  | nil => rfl
  | cons t ts ih => rw [List.cons_append, visitsOfAll, ih, visitsOfAll, List.append_assoc]

mutual

/-- The visits to the trees in a visited tree stand side by side among the visits to the whole, with
the control structures around the visited tree around each of them. -/
theorem isInfix_visits : ∀ (t : SyntaxTree) {v : Visit}, v ∈ t.visits →
    v.tree.visits.map (Visit.below v.above) <:+: t.visits
  | .node c first last children, v, h => by
    rw [visits] at h
    obtain rfl | h := List.mem_cons.1 h
    · rw [map_below_zero]
    · cases hclosed : c.isClosed with
      | true =>
        rw [hclosed, if_pos rfl] at h
        exact absurd h List.not_mem_nil
      | false =>
        rw [hclosed, if_neg Bool.false_ne_true] at h
        obtain ⟨w, hw, rfl⟩ := List.mem_map.1 h
        have hside := (isInfix_visitsOfAll children hw).map (Visit.below c.levels)
        rw [map_below_map_below] at hside
        rw [visits, hclosed, if_neg Bool.false_ne_true]
        exact hside.trans (List.suffix_cons _ _).isInfix

/-- The visits to the parts of a visited tree stand side by side among those to some trees. -/
theorem isInfix_visitsOfAll : ∀ (ts : List SyntaxTree) {v : Visit}, v ∈ visitsOfAll ts →
    v.tree.visits.map (Visit.below v.above) <:+: visitsOfAll ts
  | t :: rest, v, h => by
    rw [visitsOfAll] at h ⊢
    obtain h | h := List.mem_append.1 h
    · exact (isInfix_visits t h).trans (List.prefix_append _ _).isInfix
    · exact (isInfix_visitsOfAll rest h).trans (List.suffix_append _ _).isInfix

end

end SyntaxTree

/-! #### What visits contribute -/

/-- What the tree of a visit contributes by itself, at a depth of control structures around the
whole. -/
def Visit.findings (depth : Nat) (v : Visit) : Findings :=
  v.tree.construct.findings (depth + v.above) v.tree.children

/-- What visits contribute, one after another. -/
def gather (depth : Nat) : List Visit → Findings
  | [] => .none
  | v :: rest => (v.findings depth).append (gather depth rest)

/-- What is gathered at visits in two lists is put together. -/
lemma gather_append (depth : Nat) (vs ws : List Visit) :
    gather depth (vs ++ ws) = (gather depth vs).append (gather depth ws) := by
  induction vs with
  | nil => rw [List.nil_append, gather, Findings.none_append]
  | cons v vs ih => rw [List.cons_append, gather, gather, ih, Findings.append_assoc]

/-- With more control structures around them, visits contribute what they do at a greater depth. -/
lemma gather_map_below (depth k : Nat) (vs : List Visit) :
    gather depth (vs.map (Visit.below k)) = gather (depth + k) vs := by
  induction vs with
  | nil => rfl
  | cons v vs ih =>
    have hvisit : (v.below k).findings depth = v.findings (depth + k) := by
      rw [Visit.findings, Visit.findings, Visit.below, Nat.add_right_comm, Nat.add_assoc depth]
    rw [List.map_cons, gather, gather, hvisit, ih]

open SyntaxTree

mutual

/-- A tree contributes what the visits to the trees in it contribute. -/
theorem SyntaxTree.findings_eq_gather :
    ∀ (depth : Nat) (t : SyntaxTree), t.findings depth = gather depth t.visits
  | depth, .node c first last children => by
    have hlevels : (if c.isControl then depth + 1 else depth) = depth + c.levels := by
      rw [Construct.levels]
      split <;> rfl
    rw [SyntaxTree.findings, hlevels, findingsOfAll_eq_gather, ← gather_map_below, visits]
    cases hclosed : c.isClosed with
    | true => exact (Findings.append_none _).symm
    | false => rfl

/-- Some trees contribute what the visits to the trees in them contribute. -/
theorem findingsOfAll_eq_gather :
    ∀ (depth : Nat) (ts : List SyntaxTree), findingsOfAll depth ts = gather depth (visitsOfAll ts)
  | _, [] => rfl
  | depth, t :: rest => by
    rw [findingsOfAll, visitsOfAll, gather_append, SyntaxTree.findings_eq_gather,
      findingsOfAll_eq_gather]

end

/-! #### What constructs contribute -/

namespace Construct

/-- The name of what a construct calls, if it is a call of something with a name. -/
def calledText? : Construct → Option String
  | .call callee _ _ => callee.text?
  | _ => none

/-- The modules that a construct imports or imports from. -/
def modules : Construct → List String
  | .imports modules => modules
  | .importFrom source => source.toList
  | _ => []

/-- The types that a construct states, if it is a function. -/
def statedTypes : Construct → List (String × String)
  | .function head => head.statedTypes
  | _ => []

variable (depth : Nat) (children : List SyntaxTree) (c : Construct)

/-- The structure tokens of a construct do not depend on its depth. -/
lemma structureTokens_findings :
    (c.findings depth children).structureTokens = (c.findings 0 children).structureTokens := by
  cases c <;> rfl

/-- A construct contributes the name of what it calls. -/
lemma calls_findings : (c.findings depth children).calls = c.calledText?.toList := by
  cases c <;> rfl

/-- A construct contributes the modules that it imports. -/
lemma dependencies_findings : (c.findings depth children).dependencies = c.modules := by
  cases c <;> rfl

/-- A construct contributes the types that it states. -/
lemma types_findings : (c.findings depth children).types = c.statedTypes := by
  cases c <;> rfl

end Construct

/-- The structure tokens that the root of a tree contributes by itself. -/
def SyntaxTree.ownTokens (t : SyntaxTree) : List String :=
  (t.construct.findings 0 t.children).structureTokens

section Gather

/-- A list that contributions in a row put together is gathered visit by visit. -/
lemma list_gather {β : Type} {list : Findings → List β} (hnone : list .none = [])
    (happend : ∀ f g, list (f.append g) = list f ++ list g) (depth : Nat) (vs : List Visit) :
    list (gather depth vs) = vs.flatMap fun v => list (v.findings depth) := by
  induction vs with
  | nil => exact hnone
  | cons v vs ih => rw [gather, happend, ih, List.flatMap_cons]

variable (depth : Nat) (vs : List Visit)

/-- The structure tokens that are gathered are those of the visited trees. -/
lemma structureTokens_gather :
    (gather depth vs).structureTokens = vs.flatMap (·.tree.ownTokens) := by
  rw [list_gather rfl Findings.structureTokens_append]
  exact List.flatMap_congr fun _ _ => Construct.structureTokens_findings _ _ _

/-- The callees that are gathered are those of the visited constructs. -/
lemma calls_gather :
    (gather depth vs).calls = vs.flatMap (·.tree.construct.calledText?.toList) := by
  rw [list_gather rfl Findings.calls_append]
  exact List.flatMap_congr fun _ _ => Construct.calls_findings _ _ _

/-- The modules that are gathered are those of the visited constructs. -/
lemma dependencies_gather :
    (gather depth vs).dependencies = vs.flatMap (·.tree.construct.modules) := by
  rw [list_gather rfl Findings.dependencies_append]
  exact List.flatMap_congr fun _ _ => Construct.dependencies_findings _ _ _

/-- The types that are gathered are those of the visited constructs. -/
lemma types_gather :
    (gather depth vs).types = vs.flatMap (·.tree.construct.statedTypes) := by
  rw [list_gather rfl Findings.types_append]
  exact List.flatMap_congr fun _ _ => Construct.types_findings _ _ _

end Gather

end Lookalike.Python
