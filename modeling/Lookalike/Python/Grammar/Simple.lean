import Lookalike.Python.Grammar.Level

/-! ### Simple statements

Statements that fit on a line. A keyword at the head of a statement decides its form; the words
that print, execute and name a type are keywords only where the statement that they open can be
read to its end. -/

namespace Lookalike.Python.Grammar

/-- The place of a statement in a block with the given indentation. -/
def Place.ofStatement (indent : Nat) : Place :=
  ⟨indent, true, .allowed⟩

/-- Whether a simple statement ends here. -/
def atStatementEnd : Words → Bool
  | w :: _ => w.start.isSome || isSign w ";"
  | [] => false

/-! ### Imports -/

/-- One more step of a dotted name. -/
def dottedStep (p : Place) (done : List (Role × Phrase)) (ws : Words) :
    Step (List (Role × Phrase)) :=
  if moreSign p "." ws then
    match anyName? p ws.tail with
    | some rest => .go (Phrase.namePart :: Phrase.token :: done) rest
    | none => .fail
  else .stop

/-- A dotted name. -/
def dottedName (d : Depth) (p : Place) (ws : Words) : Option (Phrase × Words) := do
  let ws ← anyName? p ws
  let (parts, ws) ← iterate (dottedStep p) d.left [Phrase.namePart] ws
  some (.other parts.reverse, ws)

/-- A dotted name that may get another name. -/
def importedName (d : Depth) (p : Place) (ws : Words) : Option ((Role × Phrase) × Words) := do
  let (name, ws) ← dottedName d p ws
  if moreName p "as" ws then
    let ws ← anyName? p ws.tail
    some ((.name, .node .aliasedImport [(.name, name), Phrase.token, Phrase.namePart]), ws)
  else some ((.name, name), ws)

/-- One more imported name after a comma; the line may end after the comma. -/
def importedStep (d : Depth) (p : Place) (done : List (Role × Phrase)) (ws : Words) :
    Step (List (Role × Phrase)) :=
  if moreSign p "," ws then
    match more? p ws.tail with
    | some w =>
      if w.kind = .name then
        match importedName d p ws.tail with
        | some (x, rest) => .go (x :: Phrase.token :: done) rest
        | none => .fail
      else .go (Phrase.token :: done) ws.tail
    | none => .go (Phrase.token :: done) ws.tail
  else .stop

/-- Imported names with commas between them. -/
def importedNames (d : Depth) (p : Place) (ws : Words) :
    Option (List (Role × Phrase) × Words) := do
  let (x, ws) ← importedName d p ws
  let (parts, ws) ← iterate (importedStep d p) d.left [x] ws
  some (parts.reverse, ws)

/-- An import of modules, after its keyword. -/
def importRest (d : Depth) (p : Place) (ws : Words) : Option (Phrase × Words) := do
  let (names, ws) ← importedNames d p ws
  some (.node .importStatement (Phrase.token :: names), ws)

/-- What is imported from a module: all, or names that may stand in parentheses. -/
def importedThings (d : Depth) (p : Place) (wild : Bool) (ws : Words) :
    Option (List (Role × Phrase) × Words) :=
  if wild && signNext p "*" ws then some ([Phrase.part (.leaf .literal)], ws.tail)
  else if signNext p "(" ws then do
    let (names, ws) ← importedNames d p.inner ws.tail
    let ws ← sign? p.inner ")" ws
    some (Phrase.token :: names ++ [Phrase.token], ws)
  else importedNames d p ws

/-- One more sign of dots. -/
def dotsStep (p : Place) (done : List (Role × Phrase)) (ws : Words) :
    Step (List (Role × Phrase)) :=
  if signNext p "." ws || signNext p "..." ws then .go (Phrase.token :: done) ws.tail else .stop

/-- The module that something is imported from: a dotted name, or dots with or without one. -/
def sourceModule (d : Depth) (p : Place) (ws : Words) : Option (Phrase × Words) := do
  let (dots, ws) ← iterate (dotsStep p) d.left [] ws
  if dots.isEmpty then dottedName d p ws
  else if keywordNext p "import" ws then some (.other dots, ws)
  else
    let (name, ws) ← dottedName d p ws
    some (.other (dots ++ [Phrase.part name]), ws)

/-- An import from a module, after its keyword. -/
def importFromRest (d : Depth) (p : Place) (ws : Words) : Option (Phrase × Words) :=
  let p' := p.open
  if keywordNext p' "__future__" ws then do
    let ws ← keyword? p' "import" ws.tail
    let (things, ws) ← importedThings d p false ws
    some (.node .futureImportStatement (Phrase.token :: Phrase.token :: Phrase.token :: things), ws)
  else do
    let (module, ws) ← sourceModule d p' ws
    let ws ← keyword? p' "import" ws
    let (things, ws) ← importedThings d p true ws
    some (.node .importFromStatement
      (Phrase.token :: (.moduleName, module) :: Phrase.token :: things), ws)

/-! ### Statements that open with a keyword -/

/-- One more expression after a comma that has to be followed by one. -/
def strictStep (d : Depth) (p : Place) (done : List (Role × Phrase)) (ws : Words) :
    Step (List (Role × Phrase)) :=
  if moreSign p "," ws then
    match d.read .expression p ws.tail with
    | some (x, rest) => .go (Phrase.part x :: Phrase.token :: done) rest
    | none => .fail
  else .stop

/-- Expressions with commas between them and none at the end. -/
def strictExpressions (d : Depth) (p : Place) (ws : Words) :
    Option (List (Role × Phrase) × Words) := do
  let (x, ws) ← d.read .expression p ws
  let (parts, ws) ← iterate (strictStep d p) d.left [Phrase.part x] ws
  some (parts.reverse, ws)

/-- A keyword with expressions that may be left out. -/
def optionalExpressions (d : Depth) (p : Place) (kind : PhraseKind) (ws : Words) :
    Option (Phrase × Words) :=
  if atStatementEnd ws then some (.node kind [Phrase.token], ws)
  else do
    let (x, ws) ← expressions d p ws
    some (.node kind [Phrase.token, Phrase.part x], ws)

/-- The raising of an error, after its keyword. -/
def raiseRest (d : Depth) (p : Place) (ws : Words) : Option (Phrase × Words) := do
  let (value, ws) ←
    if atStatementEnd ws || moreName p "from" ws then some (([] : List (Role × Phrase)), ws)
    else do
      let (x, ws) ← expressions d p ws
      some ([Phrase.part x], ws)
  if moreName p "from" ws then
    let (cause, ws) ← d.read .expression p ws.tail
    some (.node .raiseStatement (Phrase.token :: value ++ [Phrase.token, Phrase.part cause]), ws)
  else some (.node .raiseStatement (Phrase.token :: value), ws)

/-- One more name after a comma. -/
def namesStep (p : Place) (done : List (Role × Phrase)) (ws : Words) :
    Step (List (Role × Phrase)) :=
  if moreSign p "," ws then
    match anyName? p ws.tail with
    | some rest => .go (Phrase.namePart :: Phrase.token :: done) rest
    | none => .fail
  else .stop

/-- A keyword with names. -/
def namesRest (d : Depth) (p : Place) (ws : Words) : Option (Phrase × Words) := do
  let ws ← anyName? p ws
  let (parts, ws) ← iterate (namesStep p) d.left [Phrase.namePart, Phrase.token] ws
  some (.other parts.reverse, ws)

/-! ### Words that are keywords in some statements -/

/-- A reading that has to end where a statement may end. -/
def complete (r : Option (Phrase × Words)) : Option (Phrase × Words) :=
  r.bind fun (x, ws) => if atStatementEnd ws then some (x, ws) else none

/-- The items of a printing statement, where a comma may stand at the end. -/
def printedItems (d : Depth) (p : Place) (ws : Words) : Option (Phrase × Words) := do
  let (parts, ws) ← expressionParts d p [] ws
  some (.other (Phrase.token :: parts), ws)

/-- A statement that opens with the word for printing. -/
def printing (d : Depth) (p : Place) (ws : Words) : Option (Phrase × Words) :=
  if moreSign p ">>" ws.tail then do
    let (stream, rest) ← d.read .expression p ws.tail.tail
    let stream := Phrase.part (.other [Phrase.token, Phrase.part stream])
    let (parts, rest) ← iterate (expressionsStep d p []) d.left [stream, Phrase.token] rest
    some (.other parts.reverse, rest)
  else
    match complete (rightSide d p ws) with
    | some r => some r
    | none => printedItems d p ws.tail

/-- Whether a statement goes on, after its first word, with an operand. -/
def operandFollows (p : Place) (ws : Words) : Bool :=
  (more? p ws.tail).any opensExpression

/-- A statement that executes code, after its keyword. -/
def executionRest (d : Depth) (p : Place) (ws : Words) : Option (Phrase × Words) := do
  let (code, ws) ←
    match next? p ws with
    | some w =>
      if w.kind = .quoteOpen then quotation d p ws.tail else some (.leaf .identifier, ws.tail)
    | none => none
  if moreName p "in" ws then
    let (parts, ws) ← strictExpressions d p ws.tail
    some (.other (Phrase.token :: Phrase.part code :: Phrase.token :: parts), ws)
  else some (.other [Phrase.token, Phrase.part code], ws)

/-- A statement that opens with the word for execution. -/
def execution (d : Depth) (p : Place) (ws : Words) : Option (Phrase × Words) :=
  match more? p ws.tail with
  | some w =>
    if w.kind = .quoteOpen || (w.kind = .name && !joining.contains w.text && w.text != "not") then
      executionRest d p ws.tail
    else rightSide d p ws
  | none => rightSide d p ws

/-- A name for a type, after its keyword. -/
def typeAliasRest (d : Depth) (p : Place) (ws : Words) : Option (Phrase × Words) := do
  let (left, ws) ← d.read .type p.open ws
  let ws ← sign? p "=" ws
  let (right, ws) ← d.read .type p ws
  some (.other [Phrase.token, Phrase.part left, Phrase.token, Phrase.part right], ws)

/-- A statement that opens with the word for types. -/
def typeAlias (d : Depth) (p : Place) (ws : Words) : Option (Phrase × Words) :=
  if operandFollows p ws then
    match complete (typeAliasRest d p ws.tail) with
    | some r => some r
    | none => rightSide d p ws
  else rightSide d p ws

/-! ### The statement -/

/-- A simple statement. -/
def simple (d : Depth) (p : Place) (ws : Words) : Option (Phrase × Words) :=
  match next? p ws with
  | none => none
  | some w =>
    if w.kind = .name then
      match w.text with
      | "import" => importRest d p ws.tail
      | "from" => importFromRest d p ws.tail
      | "print" => printing d p ws
      | "exec" => execution d p ws
      | "type" => typeAlias d p ws
      | "assert" => (strictExpressions d p ws.tail).map fun (parts, ws) =>
          (.node .assertStatement (Phrase.token :: parts), ws)
      | "return" => optionalExpressions d p .returnStatement ws.tail
      | "del" => (expressions d p ws.tail).map fun (x, ws) =>
          (.other [Phrase.token, Phrase.part x], ws)
      | "raise" => raiseRest d p ws.tail
      | "pass" => some (.node .passStatement [Phrase.token], ws.tail)
      | "break" => some (.node .breakStatement [Phrase.token], ws.tail)
      | "continue" => some (.node .continueStatement [Phrase.token], ws.tail)
      | "global" => namesRest d p ws.tail
      | "nonlocal" => namesRest d p ws.tail
      | _ => rightSide d p ws
    else rightSide d p ws

/-- The statements of a line, after `done` in reverse order, with the mark of the line's end. -/
def simpleLine (d : Depth) (p : Place) : Nat → List (Role × Phrase) → Words →
    Option (List (Role × Phrase) × Words)
  | 0, _, _ => none
  | n + 1, done, ws =>
    match simple d p ws with
    | none => none
    | some (x, ws) =>
      match ws with
      | w :: rest =>
        if w.start.isSome then
          some ((Phrase.part (.mark .lineEnd) :: Phrase.part x :: done).reverse, ws)
        else if isSign w ";" then
          if rest.head?.any (·.start.isSome) then
            some ((Phrase.part (.mark .lineEnd) :: Phrase.token :: Phrase.part x :: done).reverse,
              rest)
          else simpleLine d p n (Phrase.token :: Phrase.part x :: done) rest
        else none
      | [] => none

end Lookalike.Python.Grammar
