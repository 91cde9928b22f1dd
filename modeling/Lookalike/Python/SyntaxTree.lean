/-! ### Syntax trees

A syntax tree keeps of a program what its features depend on: the constructs, the lines that they
cover, and how they are nested. -/

namespace Lookalike.Python

/-- A parameter with the text of its type. Parameters that collect arguments are not among
these. -/
structure Parameter where
  name : String
  type : Option String
  deriving DecidableEq

/-- The head of a function: `collectsRest` and `collectsNamed` say whether parameters with one
and with two stars are there. -/
structure FunctionHead where
  name : String
  parameters : List Parameter
  collectsRest : Bool
  collectsNamed : Bool
  decorators : Nat
  result : Option String
  isAsync : Bool
  deriving DecidableEq

/-- The head of a class. -/
structure ClassHead where
  name : String
  bases : List String
  decorators : Nat
  deriving DecidableEq

/-- What is called: a name, a method of a receiver that is kept if it is a name, or something
else. -/
inductive Callee where
  | name (text : String)
  | method (receiver : Option String) (name : String)
  | other
  deriving DecidableEq

/-- What is assigned to: a name, an attribute of an object that is kept if it is a name, a number
of targets at once, or something else. -/
inductive Target where
  | name (text : String)
  | attribute (object : Option String) (name : String)
  | unpacking (count : Nat)
  | other
  deriving DecidableEq

/-- The coarse types of operands. -/
inductive Operand where
  | variable
  | integer
  | float
  | text
  | boolean
  | none
  | call
  | list
  | dictionary
  | set
  | tuple
  | binary
  | expression
  deriving DecidableEq

/-- All coarse types of operands. -/
def Operand.all : List Operand :=
  [.variable, .integer, .float, .text, .boolean, .none, .call, .list, .dictionary, .set, .tuple,
    .binary, .expression]

/-- The label of an operand in a token. -/
def Operand.label : Operand → String
  | .variable => "var"
  | .integer => "int"
  | .float => "float"
  | .text => "str"
  | .boolean => "bool"
  | .none => "NoneType"
  | .call => "call"
  | .list => "list"
  | .dictionary => "dict"
  | .set => "set"
  | .tuple => "tuple"
  | .binary => "binop"
  | .expression => "expr"

/-- The constructs of a program. A `branch` is a choice by conditions, an `attempt` a block under
the care of handlers, a `context` a block inside managed resources, and a `matching` a choice by
patterns. Operators and the kinds of comprehensions are given by their labels. -/
inductive Construct where
  | module
  | function (head : FunctionHead)
  | class (head : ClassHead)
  | branch (elifs : Nat) (hasElse : Bool)
  | forLoop (hasElse : Bool)
  | whileLoop (hasElse : Bool)
  | attempt (handlers : Nat) (hasElse hasFinally : Bool)
  | context (items : Nat)
  | matching (cases : Nat)
  | call (callee : Callee) (arguments keywords : Nat)
  | binary (operator : String) (left right : Operand)
  | comparison (operators : List String)
  | boolean (operator : String)
  | unary (operator : String)
  | assignment (targets : List Target) (value : Option Operand)
  | augmented (operator : String)
  | return (value : Option Operand)
  | raise
  | assertion
  | imports (modules : List String)
  | importFrom (module : Option String)
  | lambda
  | comprehension (kind : String)
  | yield
  | await
  | break
  | continue
  | pass
  deriving DecidableEq

/-- A construct with the lines that it covers, counted from one, and the constructs inside it. -/
inductive SyntaxTree where
  | node (construct : Construct) (firstLine lastLine : Nat) (children : List SyntaxTree)

namespace SyntaxTree

/-- The construct at the root of a tree. -/
def construct : SyntaxTree → Construct
  | .node c _ _ _ => c

/-- The first line of a tree. -/
def firstLine : SyntaxTree → Nat
  | .node _ first _ _ => first

/-- The last line of a tree. -/
def lastLine : SyntaxTree → Nat
  | .node _ _ last _ => last

/-- The trees directly inside a tree. -/
def children : SyntaxTree → List SyntaxTree
  | .node _ _ _ children => children

mutual

/-- The number of constructs in a tree. -/
def size : SyntaxTree → Nat
  | .node _ _ _ children => sizeOfAll children + 1

/-- The number of constructs in some trees. -/
def sizeOfAll : List SyntaxTree → Nat
  | [] => 0
  | t :: rest => t.size + sizeOfAll rest

end

theorem sizeOfAll_append (xs ys : List SyntaxTree) :
    sizeOfAll (xs ++ ys) = sizeOfAll xs + sizeOfAll ys := by
  induction xs with
  | nil => simp [sizeOfAll]
  | cons x xs ih => simp [sizeOfAll, ih, Nat.add_assoc]

theorem sizeOfAll_children (t : SyntaxTree) : sizeOfAll t.children + 1 = t.size := by
  cases t
  simp [children, size]

/-- The trees that are met on a walk, given those that are still to be visited: a tree is met
before those inside it, and those before the trees after it. -/
def walkFrom : List SyntaxTree → List SyntaxTree
  | [] => []
  | t :: rest => t :: walkFrom (t.children ++ rest)
  termination_by pending => sizeOfAll pending
  decreasing_by
    have := sizeOfAll_children t
    simp only [sizeOfAll_append, sizeOfAll]
    omega

/-- All trees in a tree, in the order in which they begin. -/
def walk (t : SyntaxTree) : List SyntaxTree :=
  walkFrom [t]

end SyntaxTree

end Lookalike.Python
