import Lookalike.Python.Grammar.Level

/-! ### The patterns of cases

The patterns that a case compares its subject with: literals, names, sequences, mappings, classes
and alternatives. -/

namespace Lookalike.Python.Grammar

/-- One more step of a dotted name in a pattern. -/
def patternDotStep (p : Place) (done : List (Role × Phrase)) (ws : Words) :
    Step (List (Role × Phrase)) :=
  if signNext p "." ws then
    match anyName? p ws.tail with
    | some rest => .go (Phrase.namePart :: Phrase.token :: done) rest
    | none => .fail
  else .stop

/-- Whether a word is a number. -/
def isNumber (w : Word) : Bool :=
  w.kind = .integer || w.kind = .float

/-- A number with a sign in front or behind which a second number makes it complex. -/
def numberPattern (p : Place) (opening : List (Role × Phrase)) (ws : Words) :
    Option (Phrase × Words) :=
  if (next? p ws).any isNumber then
    let number := Phrase.part (.leaf .literal)
    if (signNext p "+" ws.tail || signNext p "-" ws.tail) &&
        (next? p ws.tail.tail).any isNumber then
      some (.other (opening ++ [number, Phrase.token, number]), ws.tail.tail.tail)
    else some (.other (opening ++ [number]), ws.tail)
  else none

/-- A star or two with a name. -/
def splatPattern (p : Place) (ws : Words) : Option (Phrase × Words) := do
  let rest ← anyName? p ws.tail
  some (.other [Phrase.token, Phrase.namePart], rest)

/-- The items of a class pattern after its name: patterns, some of them for named arguments. -/
def classPatternItem (whole : Words → Option (Phrase × Words)) (p : Place) (ws : Words) :
    Option ((Role × Phrase) × Words) :=
  if (next? p ws).any (·.kind = .name) && signNext p "=" ws.tail then do
    let (x, rest) ← whole ws.tail.tail
    some (Phrase.part (.other [Phrase.namePart, Phrase.token, Phrase.part x]), rest)
  else asPart (whole ws)

/-- An item of a mapping pattern. -/
def mappingPatternItem (whole simple : Words → Option (Phrase × Words)) (p : Place) (ws : Words) :
    Option ((Role × Phrase) × Words) :=
  if signNext p "**" ws || signNext p "*" ws then asPart (splatPattern p ws)
  else do
    let (key, ws) ← simple ws
    let ws ← sign? p ":" ws
    let (value, ws) ← whole ws
    some (Phrase.part (.other [Phrase.part key, Phrase.token, Phrase.part value]), ws)

/-- A pattern without alternatives. -/
def closedPattern (d : Depth) (p : Place) (whole simple : Place → Words → Option (Phrase × Words))
    (ws : Words) : Option (Phrase × Words) :=
  let sequence (close : String) : Option (Phrase × Words) := do
    let (parts, ws) ←
      itemsUntil p.inner (fun ws => asPart (whole p.inner ws)) close d.left [Phrase.token] ws.tail
    some (.other parts, ws)
  match next? p ws with
  | none => none
  | some w =>
    match w.kind with
    | .quoteOpen => quotations d p ws.tail
    | .integer => numberPattern p [] ws
    | .float => numberPattern p [] ws
    | .name =>
      do
        let (parts, rest) ← iterate (patternDotStep p) d.left [Phrase.namePart] ws.tail
        let name : Phrase := .other parts.reverse
        if signNext p "(" rest then
          let (items, rest) ←
            itemsUntil p.inner (classPatternItem (whole p.inner) p.inner) ")" d.left [Phrase.token]
              rest.tail
          some (.other (Phrase.part name :: items), rest)
        else some (name, rest)
    | .sign =>
      if w.text = "-" then numberPattern p [Phrase.token] ws.tail
      else if w.text = "*" || w.text = "**" then splatPattern p ws
      else if w.text = "[" then sequence "]"
      else if w.text = "(" then sequence ")"
      else if w.text = "\x7b" then do
        let (parts, rest) ←
          itemsUntil p.inner (mappingPatternItem (whole p.inner) (simple p.inner) p.inner) "\x7d"
            d.left [Phrase.token] ws.tail
        some (.other parts, rest)
      else none
    | _ => none

/-- One more alternative. -/
def alternativeStep (p : Place) (closed : Words → Option (Phrase × Words)) (x : Phrase)
    (ws : Words) : Step Phrase :=
  if signNext p "|" ws then
    match closed ws.tail with
    | some (y, rest) => .go (.other [Phrase.part x, Phrase.token, Phrase.part y]) rest
    | none => .fail
  else .stop

/-- One more name for what a pattern matches. -/
def captureStep (p : Place) (x : Phrase) (ws : Words) : Step Phrase :=
  if keywordNext p "as" ws then
    match anyName? p ws.tail with
    | some rest => .go (.other [Phrase.part x, Phrase.token, Phrase.namePart]) rest
    | none => .fail
  else .stop

/-- A pattern with its alternatives and, if `whole`, the name for what it matches. -/
def patternWith (d : Depth) : Nat → Bool → Place → Words → Option (Phrase × Words)
  | 0, _, _, _ => none
  | n + 1, whole, p, ws => do
    let closed := closedPattern d p (patternWith d n true) (patternWith d n false)
    let (x, ws) ← closed ws
    let (x, ws) ← iterate (alternativeStep p closed) d.left x ws
    if whole then iterate (captureStep p) d.left x ws else some (x, ws)

/-- The pattern of a case. -/
def casePattern (d : Depth) (p : Place) (ws : Words) : Option (Phrase × Words) :=
  if (next? p ws).any (·.kind = .name) && signNext p "=" ws.tail then do
    let (x, rest) ← patternWith d d.left false p ws.tail.tail
    some (.other [Phrase.namePart, Phrase.token, Phrase.part x], rest)
  else patternWith d d.left true p ws

/-- One more pattern of a case after a comma, which may also stand at the end. -/
def casePatternsStep (d : Depth) (p : Place) (done : List (Role × Phrase)) (ws : Words) :
    Step (List (Role × Phrase)) :=
  if signNext p "," ws then
    if signNext p ":" ws.tail || keywordNext p "if" ws.tail then .go (Phrase.token :: done) ws.tail
    else
      match casePattern d p ws.tail with
      | some (x, rest) => .go (Phrase.part x :: Phrase.token :: done) rest
      | none => .fail
  else .stop

/-- The head of a case after its keyword: patterns, a condition if there is one, and the colon. -/
def caseHead (d : Depth) (p : Place) (ws : Words) : Option (List (Role × Phrase) × Words) := do
  let (x, ws) ← casePattern d p ws
  let (parts, ws) ← iterate (casePatternsStep d p) d.left [Phrase.part x] ws
  let (guard, ws) ←
    if keywordNext p "if" ws then do
      let (x, ws) ← d.read .expression p ws.tail
      some ([Phrase.part (.other [Phrase.token, Phrase.part x])], ws)
    else some (([] : List (Role × Phrase)), ws)
  let ws ← sign? p ":" ws
  some (Phrase.token :: parts.reverse ++ guard ++ [Phrase.token], ws)

end Lookalike.Python.Grammar
