import Lookalike.Python.Grammar.Reading
import Lookalike.Python.Grammar.Pattern

/-! ### Expressions

The levels of an expression, from the loosest to the tightest: the choice and the renaming, the
disjunction, the conjunction, the negation, the comparison, the binary operators by rank, the
unary operators, and the primary expressions with their attributes, calls and subscripts. Each
level is read by a function that is given the means to read a whole expression inside it, so that
the recursion is in one place: `readGoal` counts down the depth of nesting. -/

namespace Lookalike.Python.Grammar

/-- What can be read inside an expression. -/
inductive Goal where
  | expression
  | disjunction
  | negation
  | binary (least : Nat)
  | type
  | typeArgument
  | replacement
  | target
  | rightSide

/-- The means to read what is nested: how much depth is left, and a reading for each goal. -/
structure Depth where
  left : Nat
  read : Goal → Place → Words → Option (Phrase × Words)

/-- The rank of the tightest binary operator. -/
def powerRank : Nat := 21

/-- The ranks of the binary operators; a higher rank binds tighter. -/
def binaryRank? (text : String) : Option Nat :=
  match text with
  | "|" => some 14
  | "&" => some 15
  | "^" => some 16
  | "<<" => some 17
  | ">>" => some 17
  | "+" => some 18
  | "-" => some 18
  | "*" => some 19
  | "@" => some 19
  | "/" => some 19
  | "%" => some 19
  | "//" => some 19
  | "**" => some powerRank
  | _ => none

/-- The signs of comparison. -/
def comparisonSigns : List String :=
  ["<", "<=", "==", "!=", ">=", ">", "<>"]

/-- Whether the clauses of a comprehension begin here. -/
def forNext (p : Place) (ws : Words) : Bool :=
  moreName p "for" ws || (moreName p "async" ws && moreName p "for" ws.tail)

/-! ### Lists of expressions -/

/-- One more expression after a comma; the line may end after the comma. -/
def expressionsStep (d : Depth) (p : Place) (stops : List String) (done : List (Role × Phrase))
    (ws : Words) : Step (List (Role × Phrase)) :=
  if moreSign p "," ws then
    match more? p ws.tail with
    | some w =>
      let opens := match w.kind with
        | .name => !stops.contains w.text
        | _ => opensExpression w
      if opens then
        match d.read .expression p ws.tail with
        | some (x, rest) => .go (Phrase.part x :: Phrase.token :: done) rest
        | none => .fail
      else .go (Phrase.token :: done) ws.tail
    | none => .go (Phrase.token :: done) ws.tail
  else .stop

/-- Expressions with commas between them; the names in `stops` do not open one. -/
def expressionParts (d : Depth) (p : Place) (stops : List String) (ws : Words) :
    Option (List (Role × Phrase) × Words) := do
  let (first, ws) ← d.read .expression p ws
  let (parts, ws) ← iterate (expressionsStep d p stops) d.left [Phrase.part first] ws
  some (parts.reverse, ws)

/-- One expression, or a list of expressions if there is a comma. -/
def expressions (d : Depth) (p : Place) (ws : Words) : Option (Phrase × Words) := do
  let (parts, ws) ← expressionParts d p [] ws
  match parts with
  | [(_, x)] => some (x, ws)
  | _ => some (.node .expressionList parts, ws)

/-- The expression that hands out a value, after its keyword. -/
def yieldRest (d : Depth) (p : Place) (ws : Words) : Option (Phrase × Words) :=
  if moreName p "from" ws then do
    let (x, ws) ← d.read .expression p ws.tail
    some (.node .yield [Phrase.token, Phrase.token, Phrase.part x], ws)
  else
    match more? p ws with
    | some w =>
      if opensExpression w then do
        let (x, ws) ← expressions d p ws
        some (.node .yield [Phrase.token, Phrase.part x], ws)
      else some (.node .yield [Phrase.token], ws)
    | none => some (.node .yield [Phrase.token], ws)

/-! ### Quoted literals -/

/-- The parts of a format, up to the brace that ends its replacement. -/
def formatStep (d : Depth) (p : Place) (done : List (Role × Phrase)) (ws : Words) :
    Step (List (Role × Phrase)) :=
  match next? p ws with
  | some w =>
    if w.kind = .formatText then .go (Phrase.part (.leaf .literal) :: done) ws.tail
    else if isSign w "\x7b" then
      match d.read .replacement p ws.tail with
      | some (x, rest) => .go (Phrase.part x :: done) rest
      | none => .fail
    else .stop
  | none => .fail

/-- The format of a replacement, if there is one. -/
def formatPart (d : Depth) (p : Place) (ws : Words) : Option (List (Role × Phrase) × Words) :=
  if signNext p ":" ws then do
    let (parts, ws) ← iterate (formatStep d p) d.left [] ws.tail
    some ([Phrase.part (.other (Phrase.token :: parts.reverse))], ws)
  else some ([], ws)

/-- A replacement inside a quotation, after its opening brace. -/
def replacementRest (d : Depth) (p : Place) (ws : Words) : Option (Phrase × Words) := do
  let p := p.inner
  let (x, ws) ←
    if keywordNext p "yield" ws then yieldRest d p ws.tail else expressions d p ws
  let (equals, ws) :=
    if signNext p "=" ws then ([Phrase.token], ws.tail) else ([], ws)
  let (conversion, ws) := match next? p ws with
    | some w =>
      if w.kind = .conversion then ([Phrase.part (.leaf .literal)], ws.tail) else ([], ws)
    | none => ([], ws)
  let (format, ws) ← formatPart d p ws
  let ws ← sign? p "\x7d" ws
  some (.other ([Phrase.token, Phrase.part x] ++ equals ++ conversion ++ format ++ [Phrase.token]),
    ws)

/-- The parts of a quotation up to its closing marks. -/
def quotationParts (d : Depth) (p : Place) :
    Nat → List (Role × Phrase) → Words → Option (List (Role × Phrase) × Words)
  | 0, _, _ => none
  | n + 1, done, w :: rest =>
    match w.kind with
    | .quoteText => quotationParts d p n (Phrase.part (.leaf .literal) :: done) rest
    | .quoteClose => some ((Phrase.part (.leaf .literal) :: done).reverse, rest)
    | _ =>
      if isSign w "\x7b" then
        match d.read .replacement p rest with
        | some (x, rest) => quotationParts d p n (Phrase.part x :: done) rest
        | none => none
      else none
  | _ + 1, _, [] => none

/-- One quotation, after its opening. -/
def quotation (d : Depth) (p : Place) (ws : Words) : Option (Phrase × Words) := do
  let (parts, ws) ← quotationParts d p d.left [Phrase.part (.leaf .literal)] ws
  some (.node .string parts, ws)

/-- One more quotation in a row. -/
def quotationsStep (d : Depth) (p : Place) (done : List (Role × Phrase)) (ws : Words) :
    Step (List (Role × Phrase)) :=
  match more? p ws with
  | some w =>
    if w.kind = .quoteOpen then
      match quotation d p ws.tail with
      | some (x, rest) => .go (Phrase.part x :: done) rest
      | none => .fail
    else .stop
  | none => .stop

/-- Quotations in a row, the first one after its opening. -/
def quotations (d : Depth) (p : Place) (ws : Words) : Option (Phrase × Words) := do
  let (first, ws) ← quotation d p ws
  let (parts, ws) ← iterate (quotationsStep d p) d.left [Phrase.part first] ws
  match parts with
  | [_] => some (first, ws)
  | _ => some (.node .concatenatedString parts.reverse, ws)

/-! ### Calls and subscripts -/

/-- A part that a star or two stars precede. -/
def splat (d : Depth) (p : Place) (kind : PhraseKind) (ws : Words) :
    Option ((Role × Phrase) × Words) := do
  let (x, ws) ← d.read .expression p ws.tail
  some (Phrase.part (.node kind [Phrase.token, Phrase.part x]), ws)

/-- One argument of a call. -/
def argument (d : Depth) (p : Place) (ws : Words) : Option ((Role × Phrase) × Words) :=
  match next? p ws with
  | none => none
  | some w =>
    if isSign w "*" then splat d p .listSplat ws
    else if isSign w "**" then splat d p .dictionarySplat ws
    else if w.kind = .name && signNext p "=" ws.tail then do
      let (x, ws) ← d.read .expression p ws.tail.tail
      some (Phrase.part (.node .keywordArgument [Phrase.namePart, Phrase.token, Phrase.part x]), ws)
    else asPart (d.read .expression p ws)

/-- The arguments of a call or the bases of a class, after the opening parenthesis. -/
def argumentList (d : Depth) (p : Place) (ws : Words) : Option (Phrase × Words) :=
  let p := p.inner
  if signNext p "," ws && signNext p ")" ws.tail then
    some (.node .argumentList [Phrase.token, Phrase.token, Phrase.token], ws.tail.tail)
  else do
    let (parts, ws) ← itemsUntil p (argument d p) ")" d.left [Phrase.token] ws
    some (.node .argumentList parts, ws)

/-- The bounds of a slice after its first colon, on top of `done`. -/
def sliceRest (d : Depth) (p : Place) (done : List (Role × Phrase)) (ws : Words) :
    Option (List (Role × Phrase) × Words) :=
  let bound (ws : Words) : Option (List (Role × Phrase) × Words) :=
    match next? p ws with
    | some w =>
      if isSign w ":" || isSign w "," || isSign w "]" then some ([], ws)
      else (asPart (d.read .expression p ws)).map fun (x, ws) => ([x], ws)
    | none => none
  do
    let (upper, ws) ← bound ws
    if signNext p ":" ws then
      let (stride, ws) ← bound ws.tail
      some (done ++ Phrase.token :: upper ++ Phrase.token :: stride, ws)
    else some (done ++ Phrase.token :: upper, ws)

/-- One item of a subscript: an expression or a slice. -/
def subscriptItem (d : Depth) (p : Place) (ws : Words) : Option ((Role × Phrase) × Words) :=
  if signNext p ":" ws then do
    let (parts, ws) ← sliceRest d p [] ws.tail
    some (Phrase.part (.other parts), ws)
  else do
    let (x, ws) ← d.read .expression p ws
    if signNext p ":" ws then
      let (parts, ws) ← sliceRest d p [Phrase.part x] ws.tail
      some (Phrase.part (.other parts), ws)
    else some (Phrase.part x, ws)

/-! ### Targets -/

/-- An attribute, a call or a subscript on top of a primary expression. The call is given the
arguments by `call`, which also reads comprehensions. -/
def postfixStep (d : Depth) (p : Place) (call : Words → Option (Phrase × Words)) (x : Phrase)
    (ws : Words) : Step Phrase :=
  match more? p ws with
  | none => .stop
  | some w =>
    if isSign w "." then
      match anyName? p ws.tail with
      | some rest =>
        .go (.node .member [(.object, x), Phrase.token, (.memberName, .leaf .identifier)]) rest
      | none => .fail
    else if isSign w "(" then
      match call ws.tail with
      | some (arguments, rest) =>
        .go (.node .call [(.function, x), (.arguments, arguments)]) rest
      | none => .fail
    else if isSign w "[" then
      if signNext p.inner "]" ws.tail then .fail
      else
        match itemsUntil p.inner (subscriptItem d p.inner) "]" d.left
            [Phrase.token, Phrase.part x] ws.tail with
        | some (parts, rest) => .go (.node .subscript parts) rest
        | none => .fail
    else .stop

/-! ### Comprehensions -/

/-- One more target after a comma, where the iteration keyword ends the list. -/
def targetsStep (p : Place) (target : Words → Option (Phrase × Words)) (done : List (Role × Phrase))
    (ws : Words) : Step (List (Role × Phrase)) :=
  if signNext p "," ws then
    if keywordNext p "in" ws.tail then .go (Phrase.token :: done) ws.tail
    else
      match target ws.tail with
      | some (x, rest) => .go (Phrase.part x :: Phrase.token :: done) rest
      | none => .fail
  else .stop

/-- The targets of an iteration. -/
def targets (d : Depth) (p : Place) (target : Words → Option (Phrase × Words)) (ws : Words) :
    Option (Phrase × Words) := do
  let (first, ws) ← target ws
  let (parts, ws) ← iterate (targetsStep p target) d.left [Phrase.part first] ws
  match parts with
  | [_] => some (first, ws)
  | _ => some (.node .patternList parts.reverse, ws)

/-- One clause of a comprehension. -/
def clauseStep (d : Depth) (p : Place) (target : Words → Option (Phrase × Words))
    (done : List (Role × Phrase)) (ws : Words) : Step (List (Role × Phrase)) :=
  if forNext p ws then
    let (opening, ws) : List (Role × Phrase) × Words :=
      if moreName p "async" ws then ([Phrase.token, Phrase.token], ws.tail.tail)
      else ([Phrase.token], ws.tail)
    let clause : Option (Phrase × Words) := do
      let (left, ws) ← targets d p target ws
      let ws ← keyword? p "in" ws
      let (right, ws) ← expressionParts d p.plain ["for", "async", "if"] ws
      some (.other (opening ++ (.left, left) :: Phrase.token :: right), ws)
    match clause with
    | some (x, rest) => .go (Phrase.part x :: done) rest
    | none => .fail
  else if moreName p "if" ws then
    match d.read .expression { p with choice := .inLambda } ws.tail with
    | some (x, rest) => .go (Phrase.part (.other [Phrase.token, Phrase.part x]) :: done) rest
    | none => .fail
  else .stop

/-- A comprehension after its opening sign and its body, up to its closing sign. -/
def comprehension (d : Depth) (p : Place) (target : Words → Option (Phrase × Words))
    (kind : PhraseKind) (body : Phrase) (close : String) (ws : Words) :
    Option (Phrase × Words) := do
  let (clauses, ws) ← iterate (clauseStep d p target) d.left [] ws
  let ws ← sign? p close ws
  some (.node kind (Phrase.token :: Phrase.part body :: (Phrase.token :: clauses).reverse), ws)

/-! ### Collections -/

/-- One item of a tuple, a list or a set. -/
def collectionItem (d : Depth) (p : Place) (ws : Words) : Option ((Role × Phrase) × Words) :=
  match next? p ws with
  | none => none
  | some w =>
    if isSign w "*" then splat d p .listSplat ws
    else if isName w "yield" then asPart (yieldRest d p ws.tail)
    else asPart (d.read .expression p ws)

/-- What stands in parentheses, after the opening one. -/
def inParentheses (d : Depth) (p : Place) (target : Words → Option (Phrase × Words)) (ws : Words) :
    Option (Phrase × Words) :=
  let p := p.inner
  if signNext p ")" ws then some (.node .tuple [Phrase.token, Phrase.token], ws.tail)
  else do
    let (x, rest) ← collectionItem d p ws
    if forNext p rest then comprehension d p target .generatorExpression x.2 ")" rest
    else if signNext p ")" rest then
      some (.node .parenthesized [Phrase.token, x, Phrase.token], rest.tail)
    else
      let rest ← sign? p "," rest
      let (parts, rest) ←
        itemsUntil p (collectionItem d p) ")" d.left [Phrase.token, x, Phrase.token] rest
      some (.node .tuple parts, rest)

/-- What stands in square brackets, after the opening one. -/
def inSquareBrackets (d : Depth) (p : Place) (target : Words → Option (Phrase × Words))
    (ws : Words) : Option (Phrase × Words) :=
  let p := p.inner
  if signNext p "]" ws then some (.node .list [Phrase.token, Phrase.token], ws.tail)
  else do
    let (x, rest) ← collectionItem d p ws
    if forNext p rest then comprehension d p target .listComprehension x.2 "]" rest
    else if signNext p "]" rest then
      some (.node .list [Phrase.token, x, Phrase.token], rest.tail)
    else
      let rest ← sign? p "," rest
      let (parts, rest) ←
        itemsUntil p (collectionItem d p) "]" d.left [Phrase.token, x, Phrase.token] rest
      some (.node .list parts, rest)

/-- One item of a dictionary. -/
def dictionaryItem (d : Depth) (p : Place) (ws : Words) : Option ((Role × Phrase) × Words) :=
  if signNext p "**" ws then splat d p .dictionarySplat ws
  else do
    let (key, ws) ← d.read .expression p ws
    let ws ← sign? p ":" ws
    let (value, ws) ← d.read .expression p ws
    some (Phrase.part (.other [Phrase.part key, Phrase.token, Phrase.part value]), ws)

/-- What stands in braces, after the opening one. -/
def inBraces (d : Depth) (p : Place) (target : Words → Option (Phrase × Words)) (ws : Words) :
    Option (Phrase × Words) :=
  let p := p.inner
  if signNext p "," ws && signNext p "\x7d" ws.tail then
    some (.node .dictionary [Phrase.token, Phrase.token, Phrase.token], ws.tail.tail)
  else if signNext p "\x7d" ws || signNext p "**" ws then do
    let (parts, ws) ← itemsUntil p (dictionaryItem d p) "\x7d" d.left [Phrase.token] ws
    some (.node .dictionary parts, ws)
  else do
    let (x, rest) ← collectionItem d p ws
    -- The first item tells a dictionary from a set.
    if signNext p ":" rest then
      let (value, rest) ← d.read .expression p rest.tail
      let pair := Phrase.part (.other [x, Phrase.token, Phrase.part value])
      if forNext p rest then comprehension d p target .dictionaryComprehension pair.2 "\x7d" rest
      else if signNext p "\x7d" rest then
        some (.node .dictionary [Phrase.token, pair, Phrase.token], rest.tail)
      else
        let rest ← sign? p "," rest
        let (parts, rest) ←
          itemsUntil p (dictionaryItem d p) "\x7d" d.left [Phrase.token, pair, Phrase.token] rest
        some (.node .dictionary parts, rest)
    else if forNext p rest then comprehension d p target .setComprehension x.2 "\x7d" rest
    else if signNext p "\x7d" rest then
      some (.node .set [Phrase.token, x, Phrase.token], rest.tail)
    else
      let rest ← sign? p "," rest
      let (parts, rest) ←
        itemsUntil p (collectionItem d p) "\x7d" d.left [Phrase.token, x, Phrase.token] rest
      some (.node .set parts, rest)

end Lookalike.Python.Grammar
