import Lookalike.Python.ConcreteTree
import Lookalike.Python.SyntaxTree
import Lookalike.Text.Lines

/-! ### From concrete trees to syntax trees

`lower` keeps the constructs of a concrete tree and drops the rest: a tree without a construct of
its own is transparent, and what is inside it belongs to the nearest construct around it. -/

namespace Lookalike.Python

open ConcreteTree

/-! ### Labels of operators -/

/-- The label of a binary operator. -/
def binaryLabel (text : String) : String :=
  match text with
  | "+" => "Add"
  | "-" => "Sub"
  | "*" => "Mult"
  | "/" => "Div"
  | "//" => "FloorDiv"
  | "%" => "Mod"
  | "**" => "Pow"
  | "@" => "MatMult"
  | "<<" => "LShift"
  | ">>" => "RShift"
  | "|" => "BitOr"
  | "&" => "BitAnd"
  | "^" => "BitXor"
  | _ => "Unknown"

/-- The label of one word of a comparison operator. -/
def comparisonLabel (text : String) : String :=
  match text with
  | "<" => "Lt"
  | "<=" => "LtE"
  | "==" => "Eq"
  | "!=" => "NotEq"
  | "<>" => "NotEq"
  | ">" => "Gt"
  | ">=" => "GtE"
  | "in" => "In"
  | "is" => "Is"
  | _ => "Unknown"

/-- The label of a unary operator that is a sign. -/
def unaryLabel (text : String) : String :=
  match text with
  | "-" => "USub"
  | "~" => "Invert"
  | _ => "UAdd"

/-- The text of the child in a role, empty if there is none. -/
def childText (t : ConcreteTree) (role : Role) : String :=
  ((t.child? role).map (·.text)).getD ""

/-- The operator of a statement that changes a value in place. -/
def augmentingOperator (text : String) : String :=
  String.ofList (text.toList.reverse.dropWhile (· = '=')).reverse

/-! ### Operands and targets -/

/-- The coarse type of an operand by the kind of its tree, parentheses aside. -/
def phraseOperand : PhraseKind → Operand
  | .string => .text
  | .concatenatedString => .text
  | .call => .call
  | .list => .list
  | .dictionary => .dictionary
  | .set => .set
  | .tuple => .tuple
  | .binaryOperator => .binary
  | _ => .expression

mutual

/-- The coarse type of an operand: in parentheses, that of what comes first in them. -/
def operandOf : ConcreteTree → Operand
  | .leaf .identifier _ => .variable
  | .leaf .integer _ => .integer
  | .leaf .float _ => .float
  | .leaf .boolean _ => .boolean
  | .leaf .none _ => .none
  | .node .parenthesized children => firstOperand children
  | .node kind _ => phraseOperand kind
  | _ => .expression

/-- The coarse type of the first named child. -/
def firstOperand : List (Role × ConcreteTree) → Operand
  | [] => .expression
  | (_, t) :: rest => if t.isNamed then operandOf t else firstOperand rest

end

/-- The coarse type of the child in a role. -/
def childOperand (t : ConcreteTree) (role : Role) : Operand :=
  ((t.child? role).map operandOf).getD .expression

/-- The object and the name of an attribute; the object is kept if it is a name. -/
def memberNames (t : ConcreteTree) : Option String × String :=
  let object := match t.child? .object with
    | some x => if x.isIdentifier then some x.text else none
    | none => none
  (object, childText t .memberName)

/-- What a target of an assignment is. -/
def targetOf (t : ConcreteTree) : Target :=
  if t.isIdentifier then .name t.text
  else
    match t.kind? with
    | some .member => .attribute (memberNames t).1 (memberNames t).2
    | some .patternList => .unpacking t.namedChildren.length
    | some .tuplePattern => .unpacking t.namedChildren.length
    | some .listPattern => .unpacking t.namedChildren.length
    | some .tuple => .unpacking t.namedChildren.length
    | some .list => .unpacking t.namedChildren.length
    | some .expressionList => .unpacking t.namedChildren.length
    | _ => .other

/-- What is assigned to by an assignment and by those that stand on its right, and the value on
the right of the last one. -/
def assignmentChain : ConcreteTree → List Target × Option ConcreteTree
  | .node _ children => chainOf children [] none
  | _ => ([], none)
where
  /-- The chain of an assignment by its children: `targets` are those on its left so far. -/
  chainOf : List (Role × ConcreteTree) → List Target → Option ConcreteTree →
      List Target × Option ConcreteTree
    | [], targets, value => (targets, value)
    | (.left, t) :: rest, targets, value => chainOf rest (targets ++ [targetOf t]) value
    | (.right, .node .assignment inner) :: _, targets, _ =>
      let (more, value) := chainOf inner [] none
      (targets ++ more, value)
    | (.right, t) :: rest, targets, _ => chainOf rest targets (some t)
    | _ :: rest, targets, value => chainOf rest targets value

/-! ### Calls and heads -/

/-- What a call calls. -/
def calleeOf (call : ConcreteTree) : Callee :=
  match call.child? .function with
  | none => .other
  | some f =>
    if f.isIdentifier then .name f.text
    else if f.is .member then .method (memberNames f).1 (memberNames f).2
    else .other

/-- The numbers of plain and of named arguments of a call. A comprehension that shares the
parentheses of the call is one argument. -/
def argumentCounts (call : ConcreteTree) : Nat × Nat :=
  match call.child? .arguments with
  | none => (0, 0)
  | some arguments =>
    if arguments.is .argumentList then
      let children := arguments.namedChildren.filter (!·.isComment)
      let named (t : ConcreteTree) := t.is .keywordArgument || t.is .dictionarySplat
      ((children.filter (!named ·)).length, (children.filter named).length)
    else (1, 0)

/-- The head of a function without its name, after one more of its parameters. -/
def addParameter (head : FunctionHead) (t : ConcreteTree) : FunctionHead :=
  let add (name : String) (type : Option String) : FunctionHead :=
    { head with parameters := head.parameters ++ [⟨name, type⟩] }
  let type := (t.child? .type).map (·.text)
  if t.isIdentifier then add t.text none
  else
    match t.kind? with
    | some .typedParameter =>
      match t.namedChildren with
      | [] => head
      | x :: _ =>
        if x.is .listSplatPattern then { head with collectsRest := true }
        else if x.is .dictionarySplatPattern then { head with collectsNamed := true }
        else add x.text type
    | some .defaultParameter => add (childText t .name) type
    | some .typedDefaultParameter => add (childText t .name) type
    | some .listSplatPattern => { head with collectsRest := true }
    | some .dictionarySplatPattern => { head with collectsNamed := true }
    | _ => head

/-- Whether a definition opens with the word that makes a function asynchronous. -/
def opensAsync (definition : ConcreteTree) : Bool :=
  definition.parts.any fun (_, t) =>
    match t with
    | .leaf .anonymous x => x.text == "async"
    | _ => false

/-- The head of a function under some decorators. -/
def functionHead (decorators : Nat) (definition : ConcreteTree) : FunctionHead :=
  let head : FunctionHead :=
    { name := childText definition .name, parameters := [], collectsRest := false,
      collectsNamed := false, decorators := decorators,
      result := (definition.child? .returnType).map (·.text), isAsync := opensAsync definition }
  match definition.child? .parameters with
  | some parameters => parameters.namedChildren.foldl addParameter head
  | none => head

/-- The head of a class under some decorators. -/
def classHead (decorators : Nat) (definition : ConcreteTree) : ClassHead :=
  let bases := match definition.child? .superclasses with
    | some list =>
      (list.namedChildren.filter fun t => !t.is .keywordArgument && !t.isComment).map (·.text)
    | none => []
  ⟨childText definition .name, bases, decorators⟩

/-- The head of a definition, which is a class or a function. -/
def definitionHead (kind : PhraseKind) (decorators : Nat) (definition : ConcreteTree) : Construct :=
  match kind with
  | .classDefinition => .class (classHead decorators definition)
  | _ => .function (functionHead decorators definition)

/-! ### Imports -/

/-- The modules that an import names, without the empty names. -/
def importedModules (t : ConcreteTree) : List String :=
  let name (x : ConcreteTree) :=
    if x.is .aliasedImport then childText x .name else x.text
  ((t.childrenIn .name).map name).filter (· ≠ "")

/-- A text without its spaces. -/
def withoutSpaces (s : String) : String :=
  String.ofList (s.toList.filter (· ≠ ' '))

/-! ### Constructs -/

/-- The number of children of a given kind. -/
def countKind (t : ConcreteTree) (kind : PhraseKind) : Nat :=
  (t.namedChildren.filter (·.is kind)).length

/-- The number of items of a context. -/
def contextItems (t : ConcreteTree) : Nat :=
  ((t.namedChildren.filter (·.is .withClause)).flatMap
    (·.namedChildren.filter (·.is .withItem))).length

/-- The number of cases of a match, in its block. -/
def matchCases (t : ConcreteTree) : Nat :=
  ((t.namedChildren.filter (·.is .block)).flatMap
    (·.namedChildren.filter (·.is .caseClause))).length

/-- The construct of a tree whose named children are all inside it, if it has one. -/
def construct? (t : ConcreteTree) (kind : PhraseKind) : Option Construct :=
  match kind with
  | .forStatement => some (.forLoop (t.child? .alternative).isSome)
  | .whileStatement => some (.whileLoop (t.child? .alternative).isSome)
  | .tryStatement =>
    some (.attempt (countKind t .exceptClause) (countKind t .elseClause != 0)
      (countKind t .finallyClause != 0))
  | .withStatement => some (.context (contextItems t))
  | .matchStatement => some (.matching (matchCases t))
  | .call => some (.call (calleeOf t) (argumentCounts t).1 (argumentCounts t).2)
  | .binaryOperator =>
    some (.binary (binaryLabel (childText t .operator)) (childOperand t .left)
      (childOperand t .right))
  | .comparison =>
    some (.comparison ((t.childrenIn .operators).map fun x => comparisonLabel x.text))
  | .booleanOperator =>
    some (.boolean (if childText t .operator = "or" then "Or" else "And"))
  | .notOperator => some (.unary "Not")
  | .unaryOperator => some (.unary (unaryLabel (childText t .operator)))
  | .returnStatement =>
    some (.return ((t.namedChildren.find? (!·.isComment)).map operandOf))
  | .raiseStatement => some .raise
  | .assertStatement => some .assertion
  | .lambda => some .lambda
  | .listComprehension => some (.comprehension "list")
  | .dictionaryComprehension => some (.comprehension "dict")
  | .setComprehension => some (.comprehension "set")
  | .generatorExpression => some (.comprehension "generator")
  | .yield => some .yield
  | .await => some .await
  | .breakStatement => some .break
  | .continueStatement => some .continue
  | .passStatement => some .pass
  | _ => none

/-- The construct of a tree that hides its parts, if it has one. -/
def closedConstruct? (t : ConcreteTree) (kind : PhraseKind) : Option Construct :=
  match kind with
  | .importStatement => some (.imports (importedModules t))
  | .importFromStatement =>
    some (.importFrom ((t.child? .moduleName).map fun m => withoutSpaces m.text))
  | .futureImportStatement => some (.importFrom (some "__future__"))
  | _ => none

/-- The construct of a choice by conditions. -/
def branchOf (t : ConcreteTree) : Construct :=
  let clauses := t.childrenIn .alternative
  .branch (clauses.filter (·.is .elifClause)).length (clauses.any (·.is .elseClause))

/-! ### Lowering -/

/-- The roles whose parts are inside a function or a class. -/
def definitionRoles : List Role :=
  [.superclasses, .parameters, .body]

mutual

/-- The constructs of a tree: one, if the tree has a construct of its own, and else those inside
it. -/
def lower : ConcreteTree → List SyntaxTree
  | .node kind children =>
    let t := ConcreteTree.node kind children
    match kind with
    | .functionDefinition =>
      [.node (definitionHead kind 0 t) t.firstRow t.lastRow (lowerIn definitionRoles children)]
    | .classDefinition =>
      [.node (definitionHead kind 0 t) t.firstRow t.lastRow (lowerIn definitionRoles children)]
    | .decoratedDefinition =>
      lowerDecorated t.firstRow (countKind t .decorator) (lowerDecorators children) children
    | .ifStatement =>
      [.node (branchOf t) t.firstRow t.lastRow
        (lowerIn [.condition, .consequence, .alternative] children)]
    | .assignment =>
      let (targets, value) := assignmentChain t
      [.node (.assignment targets (value.map operandOf)) t.firstRow t.lastRow
        (lowerValue children)]
    | .augmentedAssignment =>
      let operator := binaryLabel (augmentingOperator (childText t .operator))
      [.node (.augmented operator) t.firstRow t.lastRow (lowerIn [.right] children)]
    | _ =>
      match closedConstruct? t kind with
      | some c => [.node c t.firstRow t.lastRow []]
      | none =>
        match construct? t kind with
        | some c => [.node c t.firstRow t.lastRow (lowerAll children)]
        | none => lowerAll children
  | _ => []

/-- The constructs of all children. -/
def lowerAll : List (Role × ConcreteTree) → List SyntaxTree
  | [] => []
  | (_, t) :: rest => lower t ++ lowerAll rest

/-- The constructs of the children in some roles. -/
def lowerIn (roles : List Role) : List (Role × ConcreteTree) → List SyntaxTree
  | [] => []
  | (role, t) :: rest =>
    if roles.contains role then lower t ++ lowerIn roles rest else lowerIn roles rest

/-- The constructs of the value of an assignment: of the last one, if another assignment stands
on the right. -/
def lowerValue : List (Role × ConcreteTree) → List SyntaxTree
  | [] => []
  | (.right, .node .assignment inner) :: _ => lowerValue inner
  | (.right, t) :: _ => lower t
  | _ :: rest => lowerValue rest

/-- The constructs of the decorators among some children. -/
def lowerDecorators : List (Role × ConcreteTree) → List SyntaxTree
  | [] => []
  | (_, .node .decorator children) :: rest => lowerAll children ++ lowerDecorators rest
  | _ :: rest => lowerDecorators rest

/-- The definition among some children, with the constructs of its decorators before its own
and the line of the first decorator. -/
def lowerDecorated (line decorators : Nat) (opening : List SyntaxTree) :
    List (Role × ConcreteTree) → List SyntaxTree
  | [] => opening
  | (.definition, .node kind children) :: _ =>
    let t := ConcreteTree.node kind children
    [.node (definitionHead kind decorators t) line t.lastRow
      (opening ++ lowerIn definitionRoles children)]
  | _ :: rest => lowerDecorated line decorators opening rest

end

/-- The syntax tree of a program. -/
def moduleTree (source : String) (t : ConcreteTree) : SyntaxTree :=
  .node .module 1 (Text.lineCount source) (lower t)

end Lookalike.Python
