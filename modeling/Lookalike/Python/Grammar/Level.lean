import Lookalike.Python.Grammar.Expression

/-! ### The levels of an expression

Primary expressions, operators, choices, functions without a name, and the types that stand beside
parameters and results. `readGoal` ties the levels together: with `n` levels of depth left it reads
each goal by a function that may read nested goals with `n - 1`. -/

namespace Lookalike.Python.Grammar

/-! ### Primary expressions -/

/-- Whether a phrase is an argument that is more than an expression. -/
def isMarkedArgument : Phrase → Bool
  | .node .listSplat _ => true
  | .node .dictionarySplat _ => true
  | .node .keywordArgument _ => true
  | _ => false

/-- The arguments of a call after the opening parenthesis: a list, or one comprehension that
shares the parentheses of the call. -/
def callArguments (d : Depth) (p : Place) (target : Words → Option (Phrase × Words)) (ws : Words) :
    Option (Phrase × Words) :=
  let p := p.inner
  if signNext p ")" ws || signNext p "," ws then argumentList d p ws
  else do
    let (x, rest) ← argument d p ws
    if !isMarkedArgument x.2 && forNext p rest then
      comprehension d p target .generatorExpression x.2 ")" rest
    else if signNext p ")" rest then
      some (.node .argumentList [Phrase.token, x, Phrase.token], rest.tail)
    else
      let rest ← sign? p "," rest
      let (parts, rest) ←
        itemsUntil p (argument d p) ")" d.left [Phrase.token, x, Phrase.token] rest
      some (.node .argumentList parts, rest)

/-- What a name means as an expression. -/
def nameLeaf (text : String) : Phrase :=
  if text = "True" || text = "False" then .leaf .boolean
  else if text = "None" then .leaf .none
  else .leaf .identifier

/-- An expression without attributes, calls and subscripts around it. -/
def atom (d : Depth) (p : Place) (target : Words → Option (Phrase × Words)) (ws : Words) :
    Option (Phrase × Words) :=
  match next? p ws with
  | none => none
  | some w =>
    match w.kind with
    | .name => some (nameLeaf w.text, ws.tail)
    | .integer => some (.leaf .integer, ws.tail)
    | .float => some (.leaf .float, ws.tail)
    | .quoteOpen => quotations d p ws.tail
    | .sign =>
      if w.text = "(" then inParentheses d p target ws.tail
      else if w.text = "[" then inSquareBrackets d p target ws.tail
      else if w.text = "\x7b" then inBraces d p target ws.tail
      else if w.text = "..." then some (.leaf .literal, ws.tail)
      else none
    | _ => none

/-- A primary expression, given how the targets of comprehensions inside it are read. -/
def primaryWith (d : Depth) (p : Place) (target : Words → Option (Phrase × Words)) (ws : Words) :
    Option (Phrase × Words) := do
  let (x, ws) ← atom d p target ws
  iterate (postfixStep d p (callArguments d p target)) d.left x ws

/-- A target, given how the targets of comprehensions inside it are read. -/
def targetWith (d : Depth) (p : Place) (target : Words → Option (Phrase × Words)) (ws : Words) :
    Option (Phrase × Words) :=
  if signNext p "*" ws then do
    let (x, ws) ← primaryWith d p target ws.tail
    if isPlainTarget x then some (.node .listSplatPattern [Phrase.token, Phrase.part x], ws)
    else none
  else do
    let (x, ws) ← primaryWith d p target ws
    let y ← toPattern? x
    some (y, ws)

/-- A target of an iteration. -/
def target (d : Depth) (p : Place) (ws : Words) : Option (Phrase × Words) :=
  d.read .target p ws

/-- A primary expression. -/
def primary (d : Depth) (p : Place) (ws : Words) : Option (Phrase × Words) :=
  primaryWith d p (target d p.inner) ws

/-! ### Operators -/

/-- Whether a word may open what is waited for. -/
def opensOperand (w : Word) : Bool :=
  opensExpression w && !isName w "not"

/-- A unary operator with its operand, or a primary expression. -/
def operand (d : Depth) (p : Place) (ws : Words) : Option (Phrase × Words) :=
  match next? p ws with
  | none => none
  | some w =>
    if isSign w "-" || isSign w "+" || isSign w "~" then do
      let (x, ws) ← d.read (.binary powerRank) p ws.tail
      some (.node .unaryOperator [(.operator, .leaf .anonymous), Phrase.part x], ws)
    else if isName w "await" && (more? p ws.tail).any opensOperand then do
      let (x, ws) ← d.read (.binary powerRank) p ws.tail
      some (.node .await [Phrase.token, Phrase.part x], ws)
    else if isSign w "*" then do
      let (x, ws) ← primary d p ws.tail
      if isPlainTarget x then some (.node .listSplat [Phrase.token, Phrase.part x], ws) else none
    else primary d p ws

/-- One more operand behind a binary operator of at least the given rank. -/
def binaryStep (d : Depth) (p : Place) (least : Nat) (left : Phrase) (ws : Words) : Step Phrase :=
  match more? p ws with
  | none => .stop
  | some w =>
    if w.kind = .sign then
      match binaryRank? w.text with
      | none => .stop
      | some rank =>
        if rank < least then .stop
        else
          match d.read (.binary (if rank = powerRank then rank else rank + 1)) p ws.tail with
          | some (right, rest) =>
            .go (.node .binaryOperator
              [(.left, left), (.operator, .leaf .anonymous), (.right, right)]) rest
          | none => .fail
    else .stop

/-- Operands joined by binary operators of at least the given rank. -/
def binary (d : Depth) (p : Place) (least : Nat) (ws : Words) : Option (Phrase × Words) := do
  let (x, ws) ← operand d p ws
  iterate (binaryStep d p least) d.left x ws

/-- The number of words of the comparison operator that comes next, zero if there is none. -/
def comparisonWords (p : Place) (ws : Words) : Nat :=
  match more? p ws with
  | none => 0
  | some w =>
    if w.kind = .sign then if comparisonSigns.contains w.text then 1 else 0
    else if isName w "in" then 1
    else if isName w "not" then if keywordNext p "in" ws.tail then 2 else 0
    else if isName w "is" then if keywordNext p "not" ws.tail then 2 else 1
    else 0

/-- One more operand behind a comparison operator. Each word of the operator is a part. -/
def comparisonStep (d : Depth) (p : Place) (done : List (Role × Phrase)) (ws : Words) :
    Step (List (Role × Phrase)) :=
  let n := comparisonWords p ws
  if n = 0 then .stop
  else
    match d.read (.binary 0) p (ws.drop n) with
    | some (x, rest) =>
      .go (Phrase.part x :: (List.replicate n (.operators, .leaf .anonymous) ++ done)) rest
    | none => .fail

/-- Operands joined by comparison operators, all in one phrase. -/
def comparison (d : Depth) (p : Place) (ws : Words) : Option (Phrase × Words) := do
  let (x, ws) ← binary d p 0 ws
  let (parts, ws) ← iterate (comparisonStep d p) d.left [Phrase.part x] ws
  match parts with
  | [_] => some (x, ws)
  | _ => some (.node .comparison parts.reverse, ws)

/-- One more operand behind a joining word of a boolean level. -/
def booleanStep (p : Place) (word : String) (read : Words → Option (Phrase × Words))
    (left : Phrase) (ws : Words) : Step Phrase :=
  if moreName p word ws then
    match read ws.tail with
    | some (right, rest) =>
      .go (.node .booleanOperator
        [(.left, left), (.operator, .leaf .anonymous), (.right, right)]) rest
    | none => .fail
  else .stop

/-- Negations joined by conjunctions. -/
def conjunction (d : Depth) (p : Place) (ws : Words) : Option (Phrase × Words) := do
  let (x, ws) ← d.read .negation p ws
  iterate (booleanStep p "and" (d.read .negation p)) d.left x ws

/-- Conjunctions joined by disjunctions. -/
def disjunction (d : Depth) (p : Place) (ws : Words) : Option (Phrase × Words) := do
  let (x, ws) ← conjunction d p ws
  iterate (booleanStep p "or" (conjunction d p)) d.left x ws

/-- One more choice or renaming around an expression. -/
def expressionStep (d : Depth) (p : Place) (x : Phrase) (ws : Words) : Step Phrase :=
  if moreName p "if" ws && p.choice = .allowed then
    let choice : Option (Phrase × Words) := do
      let (condition, ws) ← d.read .expression p.open ws.tail
      let ws ← keyword? p "else" ws
      let (otherwise, ws) ← d.read .expression p ws
      some (.other [Phrase.part x, Phrase.token, Phrase.part condition, Phrase.token,
        Phrase.part otherwise], ws)
    .ofReading choice
  else if moreName p "as" ws then
    let renamed : Option (Phrase × Words) := do
      let (given, ws) ← d.read .disjunction p.plain ws.tail
      some (.other [Phrase.part x, Phrase.token, Phrase.part (.other [Phrase.part given])], ws)
    .ofReading renamed
  else .stop

/-- A whole expression. -/
def expression (d : Depth) (p : Place) (ws : Words) : Option (Phrase × Words) := do
  let (x, ws) ← d.read .disjunction p ws
  iterate (expressionStep d p) d.left x ws

/-! ### Types -/

/-- One more alternative or member behind a type with arguments. -/
def typeStep (d : Depth) (p : Place) (x : Phrase) (ws : Words) : Step Phrase :=
  if moreSign p "|" ws then
    match d.read .type p ws.tail with
    | some (y, rest) => .go (.other [Phrase.part x, Phrase.token, Phrase.part y]) rest
    | none => .fail
  else if moreSign p "." ws then
    match anyName? p ws.tail with
    | some rest => .go (.other [Phrase.part x, Phrase.token, Phrase.namePart]) rest
    | none => .fail
  else .stop

/-- A type: a name with arguments in square brackets, or an expression. -/
def typePhrase (d : Depth) (p : Place) (ws : Words) : Option (Phrase × Words) :=
  match next? p ws with
  | none => none
  | some w =>
    if (isSign w "*" || isSign w "**") && (next? p ws.tail).any (·.kind = .name) then
      some (.other [Phrase.token, Phrase.namePart], ws.tail.tail)
    else if w.kind = .name && moreSign p "[" ws.tail then
      if signNext p.inner "]" ws.tail.tail then none
      else do
        let (parts, rest) ←
          itemsUntil p.inner (fun ws => asPart (d.read .typeArgument p.inner ws)) "]" d.left
            [Phrase.token] ws.tail.tail
        iterate (typeStep d p) d.left
          (.other [Phrase.namePart, Phrase.part (.other parts)]) rest
    else d.read .expression p ws

/-- An argument of a type, which may be bounded by another type. -/
def typeArgument (d : Depth) (p : Place) (ws : Words) : Option (Phrase × Words) := do
  let (x, ws) ← d.read .type p ws
  if signNext p ":" ws then
    let (y, ws) ← d.read .type p ws.tail
    some (.other [Phrase.part x, Phrase.token, Phrase.part y], ws)
  else some (x, ws)

/-! ### Parameters -/

/-- The type and the default value of a named parameter. -/
def parameterRest (d : Depth) (p : Place) (typed : Bool) (name : Phrase) (ws : Words) :
    Option (Phrase × Words) :=
  if typed && signNext p ":" ws then do
    let (type, ws) ← d.read .type p ws.tail
    if signNext p "=" ws then
      let (value, ws) ← d.read .expression p ws.tail
      some (.node .typedDefaultParameter
        [(.name, name), Phrase.token, (.type, type), Phrase.token, Phrase.part value], ws)
    else some (.node .typedParameter [Phrase.part name, Phrase.token, (.type, type)], ws)
  else if signNext p "=" ws then do
    let (value, ws) ← d.read .expression p ws.tail
    some (.node .defaultParameter [(.name, name), Phrase.token, Phrase.part value], ws)
  else some (name, ws)

/-- The type of a parameter that collects arguments. -/
def collectorRest (d : Depth) (p : Place) (typed : Bool) (x : Phrase) (ws : Words) :
    Option (Phrase × Words) :=
  if typed && signNext p ":" ws then do
    let (type, ws) ← d.read .type p ws.tail
    some (.node .typedParameter [Phrase.part x, Phrase.token, (.type, type)], ws)
  else some (x, ws)

/-- One parameter, which may have a type if `typed` says so. -/
def parameter (d : Depth) (p : Place) (typed : Bool) (ws : Words) : Option (Phrase × Words) :=
  match next? p ws with
  | none => none
  | some w =>
    if isSign w "*" then
      match anyName? p ws.tail with
      | some rest =>
        collectorRest d p typed (.node .listSplatPattern [Phrase.token, Phrase.namePart]) rest
      | none => some (.leaf .literal, ws.tail)
    else if isSign w "**" then do
      let rest ← anyName? p ws.tail
      collectorRest d p typed (.node .dictionarySplatPattern [Phrase.token, Phrase.namePart]) rest
    else if isSign w "/" then some (.leaf .literal, ws.tail)
    else if isSign w "(" then do
      let (x, rest) ← inParentheses d p (target d p.inner) ws.tail
      let pattern ← toPattern? x
      parameterRest d p false pattern rest
    else if w.kind = .name then parameterRest d p typed (.leaf .identifier) ws.tail
    else none

/-- Parameters up to the colon of a function without a name. -/
def lambdaParameters (d : Depth) (p : Place) (ws : Words) :
    Option (List (Role × Phrase) × Words) :=
  itemsUntil p (fun ws => asPart (parameter d p false ws)) ":" d.left [] ws

/-- A function without a name, after its keyword. -/
def lambdaRest (d : Depth) (p : Place) (ws : Words) : Option (Phrase × Words) := do
  let (parts, ws) ← lambdaParameters d p.open ws
  let choice := if p.choice = .never then Choice.never else .allowed
  let (body, ws) ← d.read .expression { p with choice := choice } ws
  let parameters : List (Role × Phrase) :=
    if parts.length = 1 then parts
    else [Phrase.part (.other parts.dropLast), Phrase.token]
  some (.node .lambda (Phrase.token :: parameters ++ [Phrase.part body]), ws)

/-- A negation, a function without a name, a named expression, or a comparison. -/
def negation (d : Depth) (p : Place) (ws : Words) : Option (Phrase × Words) :=
  match next? p ws with
  | none => none
  | some w =>
    if isName w "not" then do
      let (x, ws) ← d.read .negation p ws.tail
      some (.node .notOperator [Phrase.token, Phrase.part x], ws)
    else if isName w "lambda" then lambdaRest d p ws.tail
    else if w.kind = .name && moreSign p ":=" ws.tail then do
      let (x, ws) ← d.read .expression p.plain ws.tail.tail
      some (.other [Phrase.namePart, Phrase.token, Phrase.part x], ws)
    else comparison d p ws

/-! ### Assignments -/

/-- The signs that change a value in place. -/
def changingSigns : List String :=
  ["+=", "-=", "*=", "/=", "@=", "//=", "%=", "**=", ">>=", "<<=", "&=", "^=", "|="]

/-- Expressions, or what hands out a value. -/
def valueSide (d : Depth) (p : Place) (ws : Words) : Option (Phrase × Words) :=
  if keywordNext p "yield" ws then yieldRest d p ws.tail else expressions d p ws

/-- What may stand on the right of an assignment, another assignment included; a statement that
computes or assigns has the same form. -/
def rightSide (d : Depth) (p : Place) (ws : Words) : Option (Phrase × Words) := do
  let (left, ws) ← valueSide d p ws
  match more? p ws with
  | none => some (left, ws)
  | some w =>
    if isSign w "=" then
      let pattern ← toTarget? left
      let (right, ws) ← d.read .rightSide p ws.tail
      some (.node .assignment [(.left, pattern), Phrase.token, (.right, right)], ws)
    else if isSign w ":" then
      let pattern ← toTarget? left
      let (type, ws) ← d.read .type p ws.tail
      if moreSign p "=" ws then
        let (right, ws) ← d.read .rightSide p ws.tail
        some (.node .assignment
          [(.left, pattern), Phrase.token, (.type, type), Phrase.token, (.right, right)], ws)
      else some (.node .assignment [(.left, pattern), Phrase.token, (.type, type)], ws)
    else if w.kind = .sign && changingSigns.contains w.text then
      let pattern ← toTarget? left
      let (right, ws) ← d.read .rightSide p ws.tail
      some (.node .augmentedAssignment
        [(.left, pattern), (.operator, .leaf .anonymous), (.right, right)], ws)
    else some (left, ws)

/-! ### The recursion -/

/-- The reading of a goal, given the means to read what is nested in it. -/
def readWith (d : Depth) : Goal → Place → Words → Option (Phrase × Words)
  | .expression => expression d
  | .disjunction => disjunction d
  | .negation => negation d
  | .binary least => fun p ws => binary d p least ws
  | .type => typePhrase d
  | .typeArgument => typeArgument d
  | .replacement => replacementRest d
  | .target => fun p ws => targetWith d p (target d p) ws
  | .rightSide => rightSide d

/-- The reading of a goal with `n` levels of depth. -/
def readGoal : Nat → Goal → Place → Words → Option (Phrase × Words)
  | 0 => fun _ _ _ => none
  | n + 1 => readWith ⟨n, readGoal n⟩

/-- The means to read whole expressions with `n` levels of depth. -/
def depth (n : Nat) : Depth :=
  ⟨n, readGoal n⟩

end Lookalike.Python.Grammar
