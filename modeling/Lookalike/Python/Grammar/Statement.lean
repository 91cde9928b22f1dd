import Lookalike.Python.Grammar.Simple
import Lookalike.Python.Grammar.Matching

/-! ### Statements

Compound statements, their clauses and their blocks. The first statement or clause that does not
fit is known by the number of words that are left at its head. -/

namespace Lookalike.Python.Grammar

/-- The reading of a suite inside a block with the given indentation: what follows a colon. -/
abbrev Suite := Nat → Words → Except Nat (Phrase × Words)

/-- A result that is missing is the fault of the statement or clause at `head`. -/
def fitting {α : Type} (head : Words) : Option α → Except Nat α
  | some a => .ok a
  | none => .error head.length

/-- The place inside the head of a compound statement, where a line break ends nothing. -/
def Place.ofHead (indent : Nat) : Place :=
  (Place.ofStatement indent).open

/-- A colon and the suite after it. -/
def colonSuite (suite : Suite) (indent : Nat) (head ws : Words) : Except Nat (Phrase × Words) := do
  let ws ← fitting head (sign? (Place.ofHead indent) ":" ws)
  suite indent ws

/-- Whether a clause with a given keyword goes on with a statement in a block: it stands at the
beginning of a line that does not leave the block. -/
def clauseNext (indent : Nat) (keyword : String) : Words → Bool
  | w :: _ => isName w keyword && w.start.any (indent ≤ ·.indent)
  | [] => false

/-- Parts that a step finds as often as it can, after `done` in reverse order. -/
def repeated (step : Words → Except Nat (Option ((Role × Phrase) × Words))) :
    Nat → List (Role × Phrase) → Words → Except Nat (List (Role × Phrase) × Words)
  | 0, done, ws => .ok (done.reverse, ws)
  | n + 1, done, ws => do
    match ← step ws with
    | some (x, ws) => repeated step n (x :: done) ws
    | none => .ok (done.reverse, ws)

/-! ### Clauses -/

/-- A clause that consists of its keyword and a suite. -/
def plainClause (suite : Suite) (indent : Nat) (keyword : String) (role : Role) (kind : PhraseKind)
    (ws : Words) : Except Nat (List (Role × Phrase) × Words) :=
  if clauseNext indent keyword ws then do
    let (body, rest) ← colonSuite suite indent ws ws.tail
    .ok ([(role, .node kind [Phrase.token, Phrase.token, (.body, body)])], rest)
  else .ok ([], ws)

/-- The clause that stands for all other cases. -/
def elseClause (suite : Suite) (indent : Nat) (ws : Words) :
    Except Nat (List (Role × Phrase) × Words) :=
  plainClause suite indent "else" .alternative .elseClause ws

/-- A clause with a further condition. -/
def elifClause (d : Depth) (suite : Suite) (indent : Nat) (ws : Words) :
    Except Nat (Option ((Role × Phrase) × Words)) :=
  if clauseNext indent "elif" ws then do
    let (condition, rest) ← fitting ws (d.read .expression (Place.ofHead indent) ws.tail)
    let (body, rest) ← colonSuite suite indent ws rest
    let clause : Phrase := .node .elifClause
      [Phrase.token, (.condition, condition), Phrase.token, (.consequence, body)]
    .ok (some ((.alternative, clause), rest))
  else .ok none

/-- What a handler catches: nothing in particular, or an error that may get a name. A star before
it marks a handler of groups. -/
def caught (d : Depth) (p : Place) (ws : Words) : Option (List (Role × Phrase) × Words) :=
  if signNext p ":" ws then some ([], ws)
  else do
    let (star, ws) := if signNext p "*" ws then ([Phrase.token], ws.tail) else ([], ws)
    let (error, ws) ← d.read .expression p ws
    if signNext p "," ws || keywordNext p "as" ws then
      let (name, ws) ← d.read .expression p ws.tail
      some (star ++ [Phrase.part error, Phrase.token, Phrase.part name], ws)
    else some (star ++ [Phrase.part error], ws)

/-- A handler of errors. -/
def exceptClause (d : Depth) (suite : Suite) (indent : Nat) (ws : Words) :
    Except Nat (Option ((Role × Phrase) × Words)) :=
  if clauseNext indent "except" ws then do
    let (parts, rest) ← fitting ws (caught d (Place.ofHead indent) ws.tail)
    let (body, rest) ← colonSuite suite indent ws rest
    let clause : Phrase :=
      .node .exceptClause (Phrase.token :: parts ++ [Phrase.token, Phrase.part body])
    .ok (some (Phrase.part clause, rest))
  else .ok none

/-! ### Compound statements, after their keywords -/

/-- A choice between cases. -/
def ifRest (d : Depth) (suite : Suite) (indent : Nat) (head ws : Words) :
    Except Nat (Phrase × Words) := do
  let (condition, ws) ← fitting head (d.read .expression (Place.ofHead indent) ws)
  let (body, ws) ← colonSuite suite indent head ws
  let (elifs, ws) ← repeated (elifClause d suite indent) d.left [] ws
  let (otherwise, ws) ← elseClause suite indent ws
  .ok (.node .ifStatement
    ([Phrase.token, (.condition, condition), Phrase.token, (.consequence, body)] ++
      elifs ++ otherwise), ws)

/-- A loop over the items of a value, on top of the words that open it. -/
def forRest (d : Depth) (suite : Suite) (indent : Nat) (opening : List (Role × Phrase))
    (head ws : Words) : Except Nat (Phrase × Words) := do
  let p := Place.ofHead indent
  let (left, ws) ← fitting head (targets d p (target d p) ws)
  let ws ← fitting head (keyword? p "in" ws)
  let (right, ws) ← fitting head (expressions d p ws)
  let (body, ws) ← colonSuite suite indent head ws
  let (otherwise, ws) ← elseClause suite indent ws
  .ok (.node .forStatement
    (opening ++ [(.left, left), Phrase.token, (.right, right), Phrase.token, (.body, body)] ++
      otherwise), ws)

/-- A loop under a condition. -/
def whileRest (d : Depth) (suite : Suite) (indent : Nat) (head ws : Words) :
    Except Nat (Phrase × Words) := do
  let (condition, ws) ← fitting head (d.read .expression (Place.ofHead indent) ws)
  let (body, ws) ← colonSuite suite indent head ws
  let (otherwise, ws) ← elseClause suite indent ws
  .ok (.node .whileStatement
    ([Phrase.token, (.condition, condition), Phrase.token, (.body, body)] ++ otherwise), ws)

/-- A block under the care of handlers, of which there is at least one unless something is done
at the end in any case. -/
def tryRest (d : Depth) (suite : Suite) (indent : Nat) (head ws : Words) :
    Except Nat (Phrase × Words) := do
  let (body, ws) ← colonSuite suite indent head ws
  let (handlers, ws) ← repeated (exceptClause d suite indent) d.left [] ws
  let (otherwise, ws) ←
    if handlers.isEmpty then .ok (([] : List (Role × Phrase)), ws) else elseClause suite indent ws
  let (last, ws) ← plainClause suite indent "finally" .part .finallyClause ws
  if handlers.isEmpty && last.isEmpty then .error ws.length
  else
    .ok (.node .tryStatement
      ([Phrase.token, Phrase.token, (.body, body)] ++ handlers ++ otherwise ++ last), ws)

/-- One item of a context. -/
def contextItem (d : Depth) (p : Place) (ws : Words) : Option ((Role × Phrase) × Words) := do
  let (x, ws) ← d.read .expression p ws
  some (Phrase.part (.node .withItem [Phrase.part x]), ws)

/-- One more item of a context after a comma, which may also stand before the colon. -/
def contextStep (d : Depth) (p : Place) (done : List (Role × Phrase)) (ws : Words) :
    Step (List (Role × Phrase)) :=
  if signNext p "," ws then
    if signNext p ":" ws.tail then .go (Phrase.token :: done) ws.tail
    else
      match contextItem d p ws.tail with
      | some (x, rest) => .go (x :: Phrase.token :: done) rest
      | none => .fail
  else .stop

/-- The items of a context with parentheses around them, if a colon follows. -/
def parenthesizedContext (d : Depth) (p : Place) (ws : Words) :
    Option (List (Role × Phrase) × Words) := do
  let ws ← sign? p "(" ws
  if signNext p.inner ")" ws then none
  else
    let (parts, ws) ← itemsUntil p.inner (contextItem d p.inner) ")" d.left [Phrase.token] ws
    if signNext p ":" ws then some (parts, ws) else none

/-- The items of a context. -/
def context (d : Depth) (p : Place) (ws : Words) : Option (Phrase × Words) :=
  match parenthesizedContext d p ws with
  | some (parts, ws) => some (.node .withClause parts, ws)
  | none => do
    let (x, ws) ← contextItem d p ws
    let (parts, ws) ← iterate (contextStep d p) d.left [x] ws
    some (.node .withClause parts.reverse, ws)

/-- A block inside a context, on top of the words that open it. -/
def withRest (d : Depth) (suite : Suite) (indent : Nat) (opening : List (Role × Phrase))
    (head ws : Words) : Except Nat (Phrase × Words) := do
  let (clause, ws) ← fitting head (context d (Place.ofHead indent) ws)
  let (body, ws) ← colonSuite suite indent head ws
  .ok (.node .withStatement
    (opening ++ [Phrase.part clause, Phrase.token, (.body, body)]), ws)

/-! ### Definitions -/

/-- The parameters of types in square brackets, if there are any. -/
def typeParameters (d : Depth) (p : Place) (ws : Words) : Option (List (Role × Phrase) × Words) :=
  if signNext p "[" ws then
    if signNext p.inner "]" ws.tail then none
    else do
      let (parts, ws) ←
        itemsUntil p.inner (fun ws => asPart (d.read .typeArgument p.inner ws)) "]" d.left
          [Phrase.token] ws.tail
      some ([Phrase.part (.other parts)], ws)
  else some ([], ws)

/-- The parameters of a function in parentheses. -/
def parameters (d : Depth) (p : Place) (ws : Words) : Option (Phrase × Words) := do
  let ws ← sign? p "(" ws
  let (parts, ws) ←
    itemsUntil p.inner (fun ws => asPart (parameter d p.inner true ws)) ")" d.left [Phrase.token] ws
  some (.other parts, ws)

/-- The type of a result after its arrow, if there is one. -/
def resultType (d : Depth) (p : Place) (ws : Words) : Option (List (Role × Phrase) × Words) :=
  if signNext p "->" ws then do
    let (type, ws) ← d.read .type p ws.tail
    some ([Phrase.token, (.returnType, type)], ws)
  else some ([], ws)

/-- The head of a function up to its colon. -/
def functionHead (d : Depth) (p : Place) (ws : Words) : Option (List (Role × Phrase) × Words) := do
  let ws ← anyName? p ws
  let (types, ws) ← typeParameters d p ws
  let (parameters, ws) ← parameters d p ws
  let (result, ws) ← resultType d p ws
  some ((.name, .leaf .identifier) :: types ++ (.parameters, parameters) :: result, ws)

/-- The definition of a function, on top of the words that open it. -/
def functionRest (d : Depth) (suite : Suite) (indent : Nat) (opening : List (Role × Phrase))
    (head ws : Words) : Except Nat (Phrase × Words) := do
  let (parts, ws) ← fitting head (functionHead d (Place.ofHead indent) ws)
  let (body, ws) ← colonSuite suite indent head ws
  .ok (.node .functionDefinition (opening ++ parts ++ [Phrase.token, (.body, body)]), ws)

/-- The bases of a class in parentheses, if there are any. -/
def superclasses (d : Depth) (p : Place) (ws : Words) : Option (List (Role × Phrase) × Words) :=
  if signNext p "(" ws then do
    let (bases, ws) ← argumentList d p ws.tail
    some ([(.superclasses, bases)], ws)
  else some ([], ws)

/-- The head of a class up to its colon. -/
def classHead (d : Depth) (p : Place) (ws : Words) : Option (List (Role × Phrase) × Words) := do
  let ws ← anyName? p ws
  let (types, ws) ← typeParameters d p ws
  let (bases, ws) ← superclasses d p ws
  some ((.name, .leaf .identifier) :: types ++ bases, ws)

/-- The definition of a class. -/
def classRest (d : Depth) (suite : Suite) (indent : Nat) (head ws : Words) :
    Except Nat (Phrase × Words) := do
  let (parts, ws) ← fitting head (classHead d (Place.ofHead indent) ws)
  let (body, ws) ← colonSuite suite indent head ws
  .ok (.node .classDefinition (Phrase.token :: parts ++ [Phrase.token, (.body, body)]), ws)

/-- One decorator, up to the end of its line. -/
def decorator (d : Depth) (indent : Nat) (ws : Words) :
    Except Nat (Option ((Role × Phrase) × Words)) :=
  if signNext (Place.ofHead indent) "@" ws then do
    let (x, rest) ← fitting ws (d.read .expression (Place.ofStatement indent) ws.tail)
    let parts := [Phrase.token, Phrase.part x, Phrase.part (.mark .lineEnd)]
    if rest.head?.any (·.start.isSome) then .ok (some (Phrase.part (.node .decorator parts), rest))
    else .error ws.length
  else .ok none

/-- Decorators with the definition under them. -/
def decorated (d : Depth) (suite : Suite) (indent : Nat) (ws : Words) :
    Except Nat (Phrase × Words) := do
  let head := ws
  let (decorators, ws) ← repeated (decorator d indent) d.left [] ws
  let p := Place.ofHead indent
  let (definition, ws) ←
    if keywordNext p "def" ws then functionRest d suite indent [Phrase.token] ws ws.tail
    else if keywordNext p "class" ws then classRest d suite indent ws ws.tail
    else if keywordNext p "async" ws && keywordNext p "def" ws.tail then
      functionRest d suite indent [Phrase.token, Phrase.token] ws ws.tail.tail
    else .error head.length
  .ok (.node .decoratedDefinition (decorators ++ [(.definition, definition)]), ws)

/-! ### Matching -/

/-- Whether a statement that opens with the word for matching is more than an expression: the
word is followed by what may open an expression. -/
def matchFollows (ws : Words) : Bool :=
  match ws.tail with
  | w :: _ => w.start.isNone && opensExpression w
  | [] => false

/-- One more subject after a comma, which may also stand before the colon. -/
def subjectStep (d : Depth) (p : Place) (done : List (Role × Phrase)) (ws : Words) :
    Step (List (Role × Phrase)) :=
  if signNext p "," ws then
    if signNext p ":" ws.tail then .go (Phrase.token :: done) ws.tail
    else
      match d.read .expression p ws.tail with
      | some (x, rest) => .go (Phrase.part x :: Phrase.token :: done) rest
      | none => .fail
  else .stop

/-- The subjects that are matched. -/
def subjects (d : Depth) (p : Place) (ws : Words) : Option (List (Role × Phrase) × Words) := do
  let (x, ws) ← d.read .expression p ws
  let (parts, ws) ← iterate (subjectStep d p) d.left [Phrase.part x] ws
  let ws ← sign? p ":" ws
  some (parts.reverse ++ [Phrase.token], ws)

/-- One case. -/
def caseClause (d : Depth) (suite : Suite) (indent : Nat) (ws : Words) :
    Except Nat (Option ((Role × Phrase) × Words)) :=
  match ws with
  | w :: rest =>
    if w.start.any (·.indent < indent) then .ok none
    else if isName w "case" then do
      let (parts, rest) ← fitting ws (caseHead d (Place.ofHead indent) rest)
      let (body, rest) ← suite indent rest
      .ok (some (Phrase.part (.node .caseClause (parts ++ [(.consequence, body)])), rest))
    else .error ws.length
  | [] => .error 0

/-- A comparison of subjects with cases. The block of the cases may be missing. -/
def matchRest (d : Depth) (suite : Suite) (indent : Nat) (head ws : Words) :
    Except Nat (Phrase × Words) := do
  let (parts, ws) ← fitting head (subjects d (Place.ofHead indent) ws)
  match ws.head?.bind (·.start) with
  | none => .error head.length
  | some s =>
    if indent < s.indent then
      let (cases, ws) ← repeated (caseClause d suite s.indent) d.left [] ws
      let block : Phrase :=
        .node .block (Phrase.part (.mark .blockOpen) :: cases ++ [Phrase.part (.mark .blockClose)])
      .ok (.node .matchStatement (Phrase.token :: parts ++ [(.body, block)]), ws)
    else
      let block : Phrase := .node .block [Phrase.part (.mark .lineEnd)]
      .ok (.node .matchStatement (Phrase.token :: parts ++ [(.body, block)]), ws)

/-! ### Statements and blocks -/

/-- Words at the head of a statement. Where a block may end, comments that are indented less than
the first word do not part it from the block. -/
def begun : Words → Words
  | w :: rest => { w with start := none } :: rest
  | [] => []

/-- The parts of a block that one statement makes: a compound statement, or the simple statements
of a line. -/
def statement (d : Depth) (suite : Suite) (indent : Nat) (ws : Words) :
    Except Nat (List (Role × Phrase) × Words) :=
  let compound (r : Except Nat (Phrase × Words)) : Except Nat (List (Role × Phrase) × Words) :=
    r.map fun (x, ws) => ([Phrase.part x], ws)
  let line : Except Nat (List (Role × Phrase) × Words) :=
    fitting ws (simpleLine d (Place.ofStatement indent) d.left [] (begun ws))
  match ws with
  | [] => .error 0
  | w :: rest =>
    if isSign w "@" then compound (decorated d suite indent (begun ws))
    else if w.kind = .name then
      match w.text with
      | "if" => compound (ifRest d suite indent ws rest)
      | "for" => compound (forRest d suite indent [Phrase.token] ws rest)
      | "while" => compound (whileRest d suite indent ws rest)
      | "try" => compound (tryRest d suite indent ws rest)
      | "with" => compound (withRest d suite indent [Phrase.token] ws rest)
      | "def" => compound (functionRest d suite indent [Phrase.token] ws rest)
      | "class" => compound (classRest d suite indent ws rest)
      -- A name like any other, unless what may open an expression follows.
      | "match" => if matchFollows ws then compound (matchRest d suite indent ws rest) else line
      | "async" =>
        let p := Place.ofStatement indent
        let opening := [Phrase.token, Phrase.token]
        if moreName p "def" rest then
          compound (functionRest d suite indent opening ws rest.tail)
        else if moreName p "for" rest then
          compound (forRest d suite indent opening ws rest.tail)
        else if moreName p "with" rest then
          compound (withRest d suite indent opening ws rest.tail)
        else line
      | _ => line
    else line

/-- The statements of a block, after `done` in reverse order, up to a word at which `ends` says
that the block is left. -/
def statements (read : Words → Except Nat (List (Role × Phrase) × Words)) (ends : Word → Bool) :
    Nat → List (Role × Phrase) → Words → Except Nat (List (Role × Phrase) × Words)
  | 0, _, ws => .error ws.length
  | n + 1, done, ws =>
    match ws with
    | w :: _ =>
      if ends w then .ok (done.reverse, ws)
      else do
        let (parts, ws) ← read ws
        statements read ends n (parts.reverse ++ done) ws
    | [] => .error 0

/-- A suite: statements on the line of the colon, an indented block, or nothing. -/
def suiteWith (d : Depth) (suite : Suite) (indent : Nat) (ws : Words) :
    Except Nat (Phrase × Words) :=
  match ws.head?.bind (·.start) with
  | none => do
    let (parts, ws) ← fitting ws (simpleLine d (Place.ofStatement indent) d.left [] ws)
    .ok (.node .block parts, ws)
  | some s =>
    if indent < s.indent then do
      let (parts, ws) ←
        statements (statement d suite s.indent) (fun w => w.start.any (·.indent < s.indent)) d.left
          [] ws
      .ok (.node .block
        (Phrase.part (.mark .blockOpen) :: parts ++ [Phrase.part (.mark .blockClose)]), ws)
    else .ok (.node .block [Phrase.part (.mark .lineEnd)], ws)

/-- The reading of a suite with `n` levels of blocks inside each other. -/
def readSuite (d : Depth) : Nat → Suite
  | 0 => fun _ ws => .error ws.length
  | n + 1 => fun indent ws => suiteWith d (readSuite d n) indent ws

/-- The reading of a whole program: its phrase, or the number of words that are left at the head of
the first statement or clause that does not fit. -/
def readProgram (ws : Words) : Except Nat Phrase := do
  let n := 20 * (ws.length + 5)
  let d := depth n
  let (parts, ws) ←
    statements (statement d (readSuite d n) 0) (fun w => w.kind = .finish) n [] ws
  if ws.length = 1 then .ok (.other parts) else .error ws.length

/-- The phrase of a whole program. A comment that is indented less than the block around it may
break a statement off, but it does not change how the program is read: the words have to fit as
they stand, and the phrase is that of the words without comments between them. -/
def program (ws : Words) : Except Nat Phrase := do
  let _ ← readProgram ws
  readProgram (ws.map Word.uncommented)

end Lookalike.Python.Grammar
