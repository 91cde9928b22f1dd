import Lookalike.Proofs.Python.Visits

/-! ### Depth as a part of a state

A visitor goes through a tree with the features that it has collected and with the depth of control
structures around it. It goes one level deeper when it comes to a control structure, and one level
up when it has seen what is inside. What it finds does not depend on what it has found before, and
at the end of each visit it is as deep as at the beginning, so that its features are those that are
collected with the depth handed down. -/

namespace Lookalike.Python

/-- What a visitor has collected, the depth at which it is, and the greatest depth at which it has
been. -/
@[ext] structure Visitor where
  structureTokens : List String
  controlFlow : List String
  dependencies : TextSet
  calls : List String
  types : TextMap String
  complexity : Nat
  depth : Nat
  maxDepth : Nat

namespace Visitor

/-- A visitor that has not seen anything. -/
def start : Visitor :=
  ⟨[], [], .empty, [], .empty, 1, 0, 0⟩

/-- The visitor with more that it has collected, at the depth where it is. -/
def collect (v : Visitor) (f : Findings) : Visitor :=
  { v with
    structureTokens := v.structureTokens ++ f.structureTokens
    controlFlow := v.controlFlow ++ f.controlFlow
    dependencies := f.dependencies.foldl TextSet.insert v.dependencies
    calls := v.calls ++ f.calls
    types := f.types.foldl (fun m (name, type) => m.insert name type) v.types
    complexity := v.complexity + f.branches
    maxDepth := max v.maxDepth f.deepest }

/-- The visitor after a control structure with some tokens and branches. It sees what is inside one
level deeper, and goes up again. -/
def branch (v : Visitor) (tokens : List String) (branches : Nat) (inside : Visitor → Visitor) :
    Visitor :=
  let deeper := v.depth + 1
  let after := inside { v with
    depth := deeper
    maxDepth := max v.maxDepth deeper
    complexity := v.complexity + branches
    controlFlow := v.controlFlow ++ tokens }
  { after with depth := after.depth - 1 }

/-- The features that a visitor has collected. -/
def features (v : Visitor) : Features :=
  ⟨v.structureTokens, v.complexity + (v.maxDepth - Features.freeDepth), v.dependencies, v.calls,
    v.controlFlow, v.types⟩

end Visitor

mutual

/-- The visitor after a visit to a tree. The tokens of a control structure have the depth of what
is inside. -/
def SyntaxTree.visit : SyntaxTree → Visitor → Visitor
  | .node c _ _ children, v =>
    match c with
    | .branch elifs hasElse =>
      let tokens := marked (atDepth "IF" (v.depth + 1)) "+ELSE" hasElse ::
        List.replicate elifs (atDepth "ELIF" (v.depth + 1))
      v.branch tokens (1 + elifs) (visitAll children)
    | .forLoop hasElse =>
      v.branch [marked (atDepth "FOR" (v.depth + 1)) "+ELSE" hasElse] 1 (visitAll children)
    | .whileLoop hasElse =>
      v.branch [marked (atDepth "WHILE" (v.depth + 1)) "+ELSE" hasElse] 1 (visitAll children)
    | .attempt handlers hasElse hasFinally =>
      let token := marked (counted (atDepth "TRY" (v.depth + 1)) handlers) "+ELSE" hasElse
      v.branch [marked token "+FINALLY" hasFinally] 1 (visitAll children)
    | .matching cases =>
      v.branch [counted (atDepth "MATCH" (v.depth + 1)) cases] 1 (visitAll children)
    -- Whatever is no control structure is collected where the visitor is.
    | c =>
      if c.isClosed then v.collect (c.findings v.depth children)
      else visitAll children (v.collect (c.findings v.depth children))

/-- The visitor after visits to some trees, one after another. -/
def visitAll : List SyntaxTree → Visitor → Visitor
  | [], v => v
  | t :: rest, v => visitAll rest (t.visit v)

end

namespace Visitor

/-- Nothing is collected. -/
@[simp]
lemma collect_none (v : Visitor) : v.collect .none = v := by
  simp [collect, Findings.none]

/-- What is collected one after another is collected at once. -/
lemma collect_collect (v : Visitor) (f g : Findings) :
    (v.collect f).collect g = v.collect (f.append g) := by
  simp [collect, List.foldl_append, Nat.add_assoc, Nat.max_assoc]

/-- A control structure is collected at the depth of what is inside, and in front of it. -/
lemma branch_eq_collect (v : Visitor) (tokens : List String) (branches : Nat)
    {inside : Visitor → Visitor} (found : Nat → Findings)
    (hinside : ∀ w, inside w = w.collect (found w.depth)) :
    v.branch tokens branches inside =
      v.collect
        ((Findings.control (v.depth + 1) tokens branches).append (found (v.depth + 1))) := by
  simp [branch, hinside, collect, Findings.control, Findings.none, Nat.add_assoc, Nat.max_assoc]

end Visitor

mutual

/-- A visit collects what the tree contributes at the depth of the visitor. The depth is the same
afterwards, because `collect` does not change it. -/
theorem SyntaxTree.visit_eq_collect (v : Visitor) : (t : SyntaxTree) →
    t.visit v = v.collect (t.findings v.depth)
  | .node c _ _ children => by
    have hinside (w : Visitor) : visitAll children w = w.collect (findingsOfAll w.depth children) :=
      visitAll_eq_collect w children
    cases c
    case branch | forLoop | whileLoop | attempt | matching =>
      exact v.branch_eq_collect _ _ (fun depth => findingsOfAll depth children) hinside
    case imports | importFrom | «break» | «continue» | pass => rfl
    all_goals exact (hinside _).trans (v.collect_collect _ _)

/-- Visits to some trees collect what these contribute. -/
theorem visitAll_eq_collect (v : Visitor) : (ts : List SyntaxTree) →
    visitAll ts v = v.collect (findingsOfAll v.depth ts)
  | [] => (v.collect_none).symm
  | t :: rest => by
    have hdepth : (v.collect (t.findings v.depth)).depth = v.depth := rfl
    rw [visitAll, SyntaxTree.visit_eq_collect v t, visitAll_eq_collect _ rest, hdepth,
      Visitor.collect_collect, findingsOfAll]

end

/-- **Visitors**: each visit to a tree leaves the visitor at the depth where it was, whatever it has
collected before, and the features of a tree are those that a visitor has after its visit. -/
theorem Features.ofTree_eq_features_visit (t : SyntaxTree) :
    (∀ v : Visitor, (t.visit v).depth = v.depth) ∧ ofTree t = (t.visit .start).features := by
  refine ⟨fun v => ?_, ?_⟩
  · rw [t.visit_eq_collect v]
    rfl
  · rw [t.visit_eq_collect .start, ofTree]
    simp [Visitor.features, Visitor.collect, Visitor.start, TextSet.ofList, TextMap.ofList]

end Lookalike.Python
