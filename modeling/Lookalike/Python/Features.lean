import Lookalike.Ordered.TextSet
import Lookalike.Python.SyntaxTree

/-! ### Features

The features of a piece of program are read off its syntax tree: structure tokens, which hold no
names, tokens for its control structures with their depth, a measure of its complexity, and the
modules, callees and types that it mentions. `findings` collects what the constructs of a tree
contribute, in the order in which they are met; `Features.ofTree` brings it into its final form. -/

namespace Lookalike.Python

/-- What a piece of program contributes to its features. -/
structure Findings where
  structureTokens : List String
  controlFlow : List String
  dependencies : List String
  calls : List String
  types : List (String × String)
  branches : Nat
  deepest : Nat

namespace Findings

/-- No contribution. -/
def none : Findings :=
  ⟨[], [], [], [], [], 0, 0⟩

/-- One contribution after another. -/
def append (a b : Findings) : Findings :=
  ⟨a.structureTokens ++ b.structureTokens, a.controlFlow ++ b.controlFlow,
    a.dependencies ++ b.dependencies, a.calls ++ b.calls, a.types ++ b.types,
    a.branches + b.branches, max a.deepest b.deepest⟩

/-- Structure tokens alone. -/
def tokens (ts : List String) : Findings :=
  { none with structureTokens := ts }

/-- A control structure at a depth, with its tokens and the number of its branches. -/
def control (depth : Nat) (ts : List String) (branches : Nat) : Findings :=
  { none with controlFlow := ts, branches := branches, deepest := depth }

end Findings

/-! ### Tokens of constructs -/

/-- A tag with a number behind a colon. -/
def counted (tag : String) (n : Nat) : String :=
  tag ++ ":" ++ toString n

/-- A tag of a control structure with its depth. -/
def atDepth (tag : String) (depth : Nat) : String :=
  tag ++ "@" ++ toString depth

/-- A token with a mark for a clause that may be there. -/
def marked (token mark : String) (present : Bool) : String :=
  if present then token ++ mark else token

/-- A token, if it applies. -/
def tokenIf (applies : Bool) (token : String) : List String :=
  if applies then [token] else []

/-- The structure tokens of the head of a function. -/
def FunctionHead.tokens (head : FunctionHead) : List String :=
  counted "FUNC" head.parameters.length :: (tokenIf head.collectsRest "VARARG" ++
    tokenIf head.collectsNamed "KWARG" ++
    tokenIf (head.decorators != 0) (counted "DECORATOR" head.decorators) ++
    tokenIf head.isAsync "ASYNC")

/-- The types that the head of a function states, by the names of the function and of the
parameter. -/
def FunctionHead.statedTypes (head : FunctionHead) : List (String × String) :=
  (head.parameters.filterMap fun p => p.type.map fun t => (head.name ++ "." ++ p.name, t)) ++
    (head.result.map fun t => (head.name ++ ".return", t)).toList

/-- The name of what a call calls, if it has one. -/
def Callee.text? : Callee → Option String
  | .name text => some text
  | .method (some receiver) called => some (receiver ++ "." ++ called)
  | .method none called => some called
  | .other => none

/-- The structure tokens of an assignment. -/
def assignmentTokens (targets : List Target) (value : Option Operand) : List String :=
  ("ASSIGN:" ++ (value.map Operand.label).getD "decl") ::
    targets.filterMap fun
      | .unpacking n => some (counted "UNPACK" n)
      | _ => none

/-! ### Shape of classes -/

/-- Whether a tree is a function. -/
def SyntaxTree.isFunction (t : SyntaxTree) : Bool :=
  match t.construct with
  | .function _ => true
  | _ => false

/-- The targets of a tree that is an assignment. -/
def SyntaxTree.targets (t : SyntaxTree) : List Target :=
  match t.construct with
  | .assignment targets _ => targets
  | _ => []

/-- The names that are assigned to in the body of a class, and the attributes that its methods
assign to on the object itself. -/
def attributeNames (children : List SyntaxTree) : List String :=
  let fields := (children.flatMap SyntaxTree.targets).filterMap fun
    | .name text => some text
    | _ => none
  let methods := children.filter SyntaxTree.isFunction
  let own := ((methods.flatMap SyntaxTree.walk).flatMap SyntaxTree.targets).filterMap fun
    | .attribute (some "self") name => some name
    | _ => none
  fields ++ own

/-- The structure tokens of a class with its children. -/
def classTokens (head : ClassHead) (children : List SyntaxTree) : List String :=
  [counted "CLASS" head.bases.length,
    counted "METHODS" (children.filter SyntaxTree.isFunction).length,
    counted "ATTRS" (TextSet.ofList (attributeNames children)).size] ++
    tokenIf (head.decorators != 0) (counted "DECORATOR" head.decorators)

/-! ### Collecting -/

/-- Whether a construct is a control structure, which its parts are one level deeper in. -/
def Construct.isControl : Construct → Bool
  | .branch _ _ => true
  | .forLoop _ => true
  | .whileLoop _ => true
  | .attempt _ _ _ => true
  | .matching _ => true
  | _ => false

/-- Whether nothing inside a construct counts. -/
def Construct.isClosed : Construct → Bool
  | .imports _ => true
  | .importFrom _ => true
  | .break => true
  | .continue => true
  | .pass => true
  | _ => false

/-- What a construct contributes by itself, at a depth of control structures around it and with
the given trees inside it. -/
def Construct.findings (depth : Nat) (children : List SyntaxTree) : Construct → Findings
  | .module => .none
  | .function head => { Findings.tokens head.tokens with types := head.statedTypes }
  | .class head => .tokens (classTokens head children)
  | .branch elifs hasElse =>
    .control (depth + 1)
      (marked (atDepth "IF" (depth + 1)) "+ELSE" hasElse ::
        List.replicate elifs (atDepth "ELIF" (depth + 1)))
      (1 + elifs)
  | .forLoop hasElse =>
    .control (depth + 1) [marked (atDepth "FOR" (depth + 1)) "+ELSE" hasElse] 1
  | .whileLoop hasElse =>
    .control (depth + 1) [marked (atDepth "WHILE" (depth + 1)) "+ELSE" hasElse] 1
  | .attempt handlers hasElse hasFinally =>
    .control (depth + 1)
      [marked (marked (counted (atDepth "TRY" (depth + 1)) handlers) "+ELSE" hasElse) "+FINALLY"
        hasFinally] 1
  | .matching cases => .control (depth + 1) [counted (atDepth "MATCH" (depth + 1)) cases] 1
  | .context items => .tokens [counted "WITH" items]
  | .call callee arguments keywords =>
    { Findings.tokens
        (counted "CALL_ARGS" arguments :: tokenIf (keywords != 0) (counted "KWARGS" keywords)) with
      calls := callee.text?.toList }
  | .binary operator left right =>
    .tokens ["BINOP:" ++ operator,
      "BINOP_TYPES:" ++ left.label ++ "_" ++ operator ++ "_" ++ right.label]
  | .comparison operators => .tokens (operators.map ("CMP:" ++ ·))
  | .boolean operator => .tokens ["BOOL:" ++ operator]
  | .unary operator => .tokens ["UNARY:" ++ operator]
  | .assignment targets value => .tokens (assignmentTokens targets value)
  | .augmented operator => .tokens ["AUGASSIGN:" ++ operator]
  | .return value =>
    .tokens ("RETURN" :: (value.map fun v => "RETURN_VALUE:" ++ v.label).toList)
  | .raise => .tokens ["RAISE"]
  | .assertion => .tokens ["ASSERT"]
  | .imports modules => { Findings.none with dependencies := modules }
  | .importFrom source => { Findings.none with dependencies := source.toList }
  | .lambda => .tokens ["LAMBDA"]
  | .comprehension kind => .tokens ["COMP:" ++ kind]
  | .yield => .tokens ["YIELD"]
  | .await => .tokens ["AWAIT"]
  | .break => .tokens ["BREAK"]
  | .continue => .tokens ["CONTINUE"]
  | .pass => .tokens ["PASS"]

mutual

/-- What a tree contributes, at a depth of control structures around it. -/
def SyntaxTree.findings (depth : Nat) : SyntaxTree → Findings
  | .node c _ _ children =>
    let own := c.findings depth children
    if c.isClosed then own
    else own.append (findingsOfAll (if c.isControl then depth + 1 else depth) children)

/-- What some trees contribute, one after another. -/
def findingsOfAll (depth : Nat) : List SyntaxTree → Findings
  | [] => .none
  | t :: rest => (t.findings depth).append (findingsOfAll depth rest)

end

/-! ### Features -/

/-- The features of a piece of program. -/
structure Features where
  structureTokens : List String
  complexity : Nat
  dependencies : TextSet
  calls : List String
  controlFlow : List String
  types : TextMap String
  deriving DecidableEq

namespace Features

/-- The depth of control structures that does not add to the complexity. -/
def freeDepth : Nat := 3

/-- The features of a tree. Each branch of a control structure adds one to the complexity, and the
deepest nesting adds what it has beyond the free depth. -/
def ofTree (t : SyntaxTree) : Features :=
  let f := t.findings 0
  { structureTokens := f.structureTokens, complexity := 1 + f.branches + (f.deepest - freeDepth),
    dependencies := TextSet.ofList f.dependencies, calls := f.calls, controlFlow := f.controlFlow,
    types := TextMap.ofList f.types }

/-- The tokens that a fingerprint is made of. -/
def fingerprintTokens (f : Features) : List String :=
  f.structureTokens ++ f.controlFlow ++ f.dependencies.items.map ("DEP:" ++ ·) ++
    f.calls.map ("CALL:" ++ ·)

/-- The structure tokens in one text. -/
def signature (f : Features) : String :=
  "|".intercalate f.structureTokens

end Features

end Lookalike.Python
