import Mathlib.Tactic.Lemma
import Lookalike.Python.Features

/-! ### What features depend on

The features of a tree, the types that it states aside, do not depend on all that it holds: not on
the lines that its constructs cover, not on the names of its functions and classes, and not on the
texts of parameters, results and bases. `SyntaxTree.shape` drops those, and a tree has the same
features as its shape. -/

namespace Lookalike.Python

/-! ### Shapes -/

/-- The head of a function without its name and without texts. -/
def FunctionHead.shape (head : FunctionHead) : FunctionHead :=
  { head with name := "", parameters := head.parameters.map fun _ => ⟨"", none⟩, result := none }

/-- The head of a class without its name and with blank bases. -/
def ClassHead.shape (head : ClassHead) : ClassHead :=
  { head with name := "", bases := head.bases.map fun _ => "" }

/-- A construct without the texts that its tokens do not show. -/
def Construct.shape : Construct → Construct
  | .function head => .function head.shape
  | .class head => .class head.shape
  | c => c

namespace SyntaxTree

mutual

/-- A tree without lines and without the texts that its features do not show. -/
def shape : SyntaxTree → SyntaxTree
  | .node c _ _ children => .node c.shape 0 0 (shapes children)

/-- The shapes of some trees. -/
def shapes : List SyntaxTree → List SyntaxTree
  | [] => []
  | t :: rest => t.shape :: shapes rest

end

/-- The shapes of some trees are those of each tree. -/
lemma shapes_eq_map (ts : List SyntaxTree) : shapes ts = ts.map shape := by
  induction ts with
  | nil => rfl
  | cons t ts ih => rw [shapes, ih, List.map_cons]

/-- The shapes of the trees in two lists are those in each list. -/
@[simp]
lemma shapes_append (ts us : List SyntaxTree) : shapes (ts ++ us) = shapes ts ++ shapes us := by
  simp [shapes_eq_map]

/-- What is inside the shape of a tree are the shapes of what is inside the tree. -/
@[simp]
lemma children_shape (t : SyntaxTree) : t.shape.children = shapes t.children := by
  cases t
  rfl

/-- The construct of the shape of a tree is the shape of its construct. -/
@[simp]
lemma construct_shape (t : SyntaxTree) : t.shape.construct = t.construct.shape := by
  cases t
  rfl

/-- The shapes of the trees that are met on a walk are those met on a walk over the shapes. -/
lemma walkFrom_shapes (ts : List SyntaxTree) : walkFrom (shapes ts) = shapes (walkFrom ts) := by
  induction ts using walkFrom.induct with
  | case1 => simp [shapes, walkFrom]
  | case2 t rest ih =>
    rw [shapes, walkFrom, walkFrom, shapes, children_shape, ← shapes_append, ih]

/-- A walk through the shape of a tree meets the shapes of the trees on its walk. -/
lemma walk_shape (t : SyntaxTree) : t.shape.walk = shapes t.walk :=
  walkFrom_shapes [t]

/-! ### Classes -/

/-- A tree is a function if its shape is one. -/
lemma isFunction_shape (t : SyntaxTree) : t.shape.isFunction = t.isFunction := by
  rw [isFunction, isFunction, construct_shape]
  cases t.construct <;> rfl

/-- A shape keeps the targets of a tree. -/
lemma targets_shape (t : SyntaxTree) : t.shape.targets = t.targets := by
  rw [targets, targets, construct_shape]
  cases t.construct <;> rfl

/-- Shapes keep the targets of all trees. -/
lemma flatMap_targets_shapes (ts : List SyntaxTree) :
    (shapes ts).flatMap targets = ts.flatMap targets := by
  rw [shapes_eq_map, List.flatMap_map]
  exact congrArg (fun f => ts.flatMap f) (funext targets_shape)

/-- The functions among shapes are the shapes of the functions. -/
lemma filter_isFunction_shapes (ts : List SyntaxTree) :
    (shapes ts).filter isFunction = shapes (ts.filter isFunction) := by
  rw [shapes_eq_map, shapes_eq_map, List.filter_map]
  exact congrArg (fun p => (ts.filter p).map shape) (funext isFunction_shape)

/-- Walks through shapes meet the shapes of the trees on the walks. -/
lemma flatMap_walk_shapes (ts : List SyntaxTree) :
    (shapes ts).flatMap walk = shapes (ts.flatMap walk) := by
  induction ts with
  | nil => rfl
  | cons t ts ih =>
    rw [shapes, List.flatMap_cons, List.flatMap_cons, ih, walk_shape, shapes_append]

/-- The attributes of a class are those of its shape. -/
lemma attributeNames_shapes (ts : List SyntaxTree) :
    attributeNames (shapes ts) = attributeNames ts := by
  rw [attributeNames, attributeNames, filter_isFunction_shapes, flatMap_walk_shapes,
    flatMap_targets_shapes, flatMap_targets_shapes]

/-- The tokens of a class depend on the shapes of what is inside. -/
lemma classTokens_shape (head : ClassHead) (ts : List SyntaxTree) :
    classTokens head.shape (shapes ts) = classTokens head ts := by
  rw [classTokens, classTokens, attributeNames_shapes, filter_isFunction_shapes, shapes_eq_map]
  simp [ClassHead.shape]

end SyntaxTree

/-! ### Findings -/

/-- Findings without types. -/
def Findings.untyped (f : Findings) : Findings :=
  { f with types := [] }

/-- Two contributions without types are put together as those with types are. -/
lemma Findings.untyped_append (f g : Findings) :
    (f.append g).untyped = f.untyped.append g.untyped :=
  rfl

/-- A shape keeps the tokens of the head of a function. -/
lemma FunctionHead.tokens_shape (head : FunctionHead) : head.shape.tokens = head.tokens := by
  simp [FunctionHead.tokens, FunctionHead.shape]

/-- A shape states no types. -/
lemma FunctionHead.statedTypes_shape (head : FunctionHead) : head.shape.statedTypes = [] := by
  simp [FunctionHead.statedTypes, FunctionHead.shape]

open SyntaxTree

/-- The shape of a construct contributes what the construct does, types aside. -/
lemma Construct.findings_shape (depth : Nat) (children : List SyntaxTree) (c : Construct) :
    c.shape.findings depth (shapes children) = (c.findings depth children).untyped := by
  cases c with
  | function head =>
    simp only [Construct.shape, Construct.findings, FunctionHead.tokens_shape,
      FunctionHead.statedTypes_shape]
    rfl
  | «class» head =>
    simp only [Construct.shape, Construct.findings, classTokens_shape]
    rfl
  | _ => rfl

/-- A shape keeps whether nothing counts inside a construct. -/
lemma Construct.isClosed_shape (c : Construct) : c.shape.isClosed = c.isClosed := by
  cases c <;> rfl

/-- A shape keeps whether a construct is a control structure. -/
lemma Construct.isControl_shape (c : Construct) : c.shape.isControl = c.isControl := by
  cases c <;> rfl

mutual

/-- The shape of a tree contributes what the tree does, types aside. -/
theorem SyntaxTree.findings_shape :
    ∀ (depth : Nat) (t : SyntaxTree), t.shape.findings depth = (t.findings depth).untyped
  | depth, .node c first last children => by
    rw [SyntaxTree.shape, SyntaxTree.findings, SyntaxTree.findings, Construct.isClosed_shape,
      Construct.isControl_shape, Construct.findings_shape, findingsOfAll_shapes]
    cases c.isClosed <;> rfl

/-- The shapes of some trees contribute what the trees do, types aside. -/
theorem findingsOfAll_shapes :
    ∀ (depth : Nat) (ts : List SyntaxTree),
      findingsOfAll depth (shapes ts) = (findingsOfAll depth ts).untyped
  | _, [] => rfl
  | depth, t :: rest => by
    rw [shapes, findingsOfAll, findingsOfAll, SyntaxTree.findings_shape, findingsOfAll_shapes,
      Findings.untyped_append]

end

/-- A tree has the features of its shape, but for the types that it states. -/
theorem Features.ofTree_shape (t : SyntaxTree) :
    Features.ofTree t.shape = { Features.ofTree t with types := TextMap.ofList [] } := by
  simp only [Features.ofTree, SyntaxTree.findings_shape]
  rfl

end Lookalike.Python
