import Lookalike.Python.Phrase

/-! ### Reading phrases

A reading takes words from the head of a list and leaves the rest. A line break is no word: where
a statement may end, the first word of a new line ends it, and everywhere else the break is looked
past, unless the new line is indented less than the block around it. -/

namespace Lookalike.Python.Grammar

/-- A list of words that is being read. -/
abbrev Words := List Word

/-- Whether the choice between two values may open with `if` at a place: always, only inside the
body of a function without a name, or never. -/
inductive Choice where
  | allowed
  | inLambda
  | never
  deriving DecidableEq

/-- A place in the grammar: the indentation of the block around it, whether a line break ends
what is being read, and whether a choice may be written. -/
structure Place where
  indent : Nat
  lineEnds : Bool
  choice : Choice

/-- A place between brackets. -/
def Place.inner (p : Place) : Place :=
  ⟨p.indent, false, .allowed⟩

/-- A place where a line break does not end anything. -/
def Place.open (p : Place) : Place :=
  { p with lineEnds := false, choice := .allowed }

/-- A place where no choice may be written. -/
def Place.plain (p : Place) : Place :=
  { p with choice := .never }

/-- Whether a word is a given sign. -/
def isSign (w : Word) (text : String) : Bool :=
  w.kind = .sign && w.text == text

/-- Whether a word is a given name. -/
def isName (w : Word) (text : String) : Bool :=
  w.kind = .name && w.text == text

/-- Whether a word begins with a quotation mark. -/
def opensWithMark (w : Word) : Bool :=
  w.kind = .quoteOpen &&
    match w.text.toList with
    | c :: _ => c = '\x22' || c = '\x27' || c = '\x60'
    | [] => false

/-- Whether a line break before a word may be looked past. -/
def reaches (p : Place) (w : Word) : Bool :=
  match w.start with
  | none => true
  | some s => p.indent ≤ s.margin || opensWithMark w

/-- The next word at a place where a line break ends nothing. -/
def next? (p : Place) : Words → Option Word
  | w :: _ => if reaches p w then some w else none
  | [] => none

/-- The next word at a place where what is being read may be complete. -/
def more? (p : Place) : Words → Option Word
  | w :: rest => if p.lineEnds && w.start.isSome then none else next? p (w :: rest)
  | [] => none

/-- The rest after a given sign that has to come next. -/
def sign? (p : Place) (text : String) (ws : Words) : Option Words :=
  match next? p ws with
  | some w => if isSign w text then some ws.tail else none
  | none => none

/-- The rest after a given name that has to come next. -/
def keyword? (p : Place) (text : String) (ws : Words) : Option Words :=
  match next? p ws with
  | some w => if isName w text then some ws.tail else none
  | none => none

/-- The rest after a name that has to come next. -/
def anyName? (p : Place) (ws : Words) : Option Words :=
  match next? p ws with
  | some w => if w.kind = .name then some ws.tail else none
  | none => none

/-- Whether a given sign comes next. -/
def signNext (p : Place) (text : String) (ws : Words) : Bool :=
  (next? p ws).any (isSign · text)

/-- Whether a given name comes next. -/
def keywordNext (p : Place) (text : String) (ws : Words) : Bool :=
  (next? p ws).any (isName · text)

/-- Whether a given sign goes on with what may be complete. -/
def moreSign (p : Place) (text : String) (ws : Words) : Bool :=
  (more? p ws).any (isSign · text)

/-- Whether a given name goes on with what may be complete. -/
def moreName (p : Place) (text : String) (ws : Words) : Bool :=
  (more? p ws).any (isName · text)

/-- The names that go on with an expression. -/
def joining : List String :=
  ["if", "else", "in", "is", "and", "or", "as", "for"]

/-- The signs that may open an expression. -/
def openingSigns : List String :=
  ["(", "[", "\x7b", "-", "+", "~", "*", "..."]

/-- Whether a word may open an expression, where names that go on with one do not. -/
def opensExpression (w : Word) : Bool :=
  match w.kind with
  | .name => !joining.contains w.text
  | .integer | .float | .quoteOpen => true
  | .sign => openingSigns.contains w.text
  | _ => false

/-- What a step of a repetition does: it ends the repetition, goes on with more, or finds that
the words do not fit. -/
inductive Step (α : Type) where
  | stop
  | go (a : α) (rest : Words)
  | fail

/-- A step from a reading that has to succeed. -/
def Step.ofReading {α : Type} : Option (α × Words) → Step α
  | some (a, rest) => .go a rest
  | none => .fail

/-- The repetition of a step, at most `n` times. -/
def iterate {α : Type} (step : α → Words → Step α) : Nat → α → Words → Option (α × Words)
  | 0, a, ws => some (a, ws)
  | n + 1, a, ws =>
    match step a ws with
    | .stop => some (a, ws)
    | .go b rest => iterate step n b rest
    | .fail => none

/-- Items with commas between them up to a closing sign, after `done` in reverse order. A comma
may stand before the closing sign. -/
def itemsUntil (p : Place) (item : Words → Option ((Role × Phrase) × Words)) (close : String) :
    Nat → List (Role × Phrase) → Words → Option (List (Role × Phrase) × Words)
  | 0, _, _ => none
  | n + 1, done, ws =>
    if signNext p close ws then some ((Phrase.token :: done).reverse, ws.tail)
    else
      match item ws with
      | none => none
      | some (x, ws) =>
        if signNext p close ws then some ((Phrase.token :: x :: done).reverse, ws.tail)
        else if signNext p "," ws then itemsUntil p item close n (Phrase.token :: x :: done) ws.tail
        else none

/-- A reading made into a part without a role. -/
def asPart (r : Option (Phrase × Words)) : Option ((Role × Phrase) × Words) :=
  r.map fun (x, ws) => (Phrase.part x, ws)

end Lookalike.Python.Grammar
