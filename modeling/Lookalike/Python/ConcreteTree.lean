import Lookalike.Python.Phrase
import Lookalike.Text.Blank

/-! ### Concrete trees

A concrete tree is a phrase with its text: each leaf carries its lexeme, and the comments and
joined lines, which the grammar does not see, stand where they were written. `ofPhrase` brings a
phrase and the lexemes that it was read from together. Comments and joints belong to the smallest
tree that has words on both sides of them; a comment on a line of its own that is indented less
than a block ends the block. -/

namespace Lookalike.Python

/-- A phrase with its text. A mark of layout has no text; it stands at the end of the lexeme
before it. -/
inductive ConcreteTree where
  | leaf (kind : LeafKind) (lexeme : Lexeme)
  | comment (lexeme : Lexeme)
  | joint (lexeme : Lexeme)
  | mark (m : Mark) (row : Nat)
  | node (kind : PhraseKind) (children : List (Role × ConcreteTree))

namespace ConcreteTree

/-! ### Rows and text -/

/-- The row on which a tree begins. -/
def firstRow : ConcreteTree → Nat
  | .leaf _ x => x.firstRow
  | .comment x => x.firstRow
  | .joint x => x.firstRow
  | .mark _ row => row
  | .node _ [] => 1
  | .node _ ((_, t) :: _) => t.firstRow

mutual

/-- The row on which a tree ends. -/
def lastRow : ConcreteTree → Nat
  | .leaf _ x => x.lastRow
  | .comment x => x.lastRow
  | .joint x => x.lastRow
  | .mark _ row => row
  | .node _ children => lastRowOf 1 children

/-- The row on which the last of some children ends, `row` if there is none. -/
def lastRowOf (row : Nat) : List (Role × ConcreteTree) → Nat
  | [] => row
  | (_, t) :: rest => lastRowOf t.lastRow rest

end

mutual

/-- The lexemes of a tree, in order. -/
def lexemes : ConcreteTree → List Lexeme
  | .leaf _ x => [x]
  | .comment x => [x]
  | .joint x => [x]
  | .mark _ _ => []
  | .node _ children => lexemesOf children

/-- The lexemes of some children, in order. -/
def lexemesOf : List (Role × ConcreteTree) → List Lexeme
  | [] => []
  | (_, t) :: rest => t.lexemes ++ lexemesOf rest

end

/-- The text from the first of some lexemes to the last one. -/
def textOf : List Lexeme → String
  | [] => ""
  | x :: rest => String.join (x.text :: rest.map fun y => y.gap ++ y.text)

/-- The text of a tree with its blanks squeezed. -/
def text (t : ConcreteTree) : String :=
  Text.squeeze (textOf t.lexemes)

/-! ### Children -/

/-- The children of a tree with their roles. -/
def parts : ConcreteTree → List (Role × ConcreteTree)
  | .node _ children => children
  | _ => []

/-- Whether a tree says more than the kind of the tree around it: comments and joints do, signs,
keywords and marks do not. -/
def isNamed : ConcreteTree → Bool
  | .leaf .anonymous _ => false
  | .mark _ _ => false
  | _ => true

/-- The named children of a tree. -/
def namedChildren (t : ConcreteTree) : List ConcreteTree :=
  (t.parts.map (·.2)).filter (·.isNamed)

/-- The first child in a role. -/
def child? (t : ConcreteTree) (role : Role) : Option ConcreteTree :=
  (t.parts.find? (·.1 = role)).map (·.2)

/-- The children in a role. -/
def childrenIn (t : ConcreteTree) (role : Role) : List ConcreteTree :=
  (t.parts.filter (·.1 = role)).map (·.2)

/-- The kind of a tree that is a node. -/
def kind? : ConcreteTree → Option PhraseKind
  | .node kind _ => some kind
  | _ => none

/-- Whether a tree is a node of a given kind. -/
def is (t : ConcreteTree) (kind : PhraseKind) : Bool :=
  t.kind? = some kind

/-- Whether a tree is a name. -/
def isIdentifier : ConcreteTree → Bool
  | .leaf .identifier _ => true
  | _ => false

/-- Whether a tree is a comment. -/
def isComment : ConcreteTree → Bool
  | .comment _ => true
  | _ => false

/-! ### Bringing a phrase and its lexemes together -/

/-- What is left while a phrase is walked: the lexemes, the indentations of the blocks around, and
the row on which the lexeme before ended. -/
structure Rest where
  lexemes : List Lexeme
  indents : List Nat
  row : Nat

/-- The leftmost leaf of a phrase: the mark that it is, or none for a word. -/
def leading : Phrase → Option Mark
  | .mark m => some m
  | .leaf _ => none
  | .node _ [] => none
  | .node _ ((_, x) :: _) => leading x

/-- Whether a comment or a joint belongs before what a phrase begins with. Before a word all do.
The end of a line and the beginning of a block come first on the next line, and the end of a block
where a line is indented less and no comment before it holds the block open. -/
def precedes (indents : List Nat) (x : Lexeme) : Option Mark → Bool
  | none => true
  | some .lineEnd => !x.outlook.lineEnds
  | some .blockOpen => !x.outlook.lineEnds
  | some .blockClose =>
    match indents with
    | [] => true
    | indent :: _ =>
      !(x.outlook.lineEnds && x.outlook.indent < indent &&
        x.outlook.comment.all (· < indent))

/-- The comments and joints at the head of some lexemes that belong before what a phrase begins
with, and what is left after them. -/
def takeExtras (lead : Option Mark) (indents : List Nat) :
    List Lexeme → Nat → List (Role × ConcreteTree) × List Lexeme × Nat
  | [], row => ([], [], row)
  | x :: rest, row =>
    let extra (t : ConcreteTree) :=
      if precedes indents x lead then
        let (extras, left, row) := takeExtras lead indents rest x.lastRow
        ((.part, t) :: extras, left, row)
      else ([], x :: rest, row)
    match x.kind with
    | .word _ => ([], x :: rest, row)
    | .comment => extra (.comment x)
    | .joint => extra (.joint x)

/-- A mark of layout at the end of what came before it. -/
def ofMark (m : Mark) (s : Rest) : ConcreteTree × Rest :=
  let indents := match m with
    | .lineEnd => s.indents
    | .blockOpen =>
      match s.lexemes with
      | x :: _ => x.outlook.indent :: s.indents
      | [] => 0 :: s.indents
    | .blockClose => s.indents.tail
  (.mark m s.row, { s with indents := indents })

/-- A word of a phrase with its lexeme. -/
def ofLeaf (kind : LeafKind) (s : Rest) : ConcreteTree × Rest :=
  match s.lexemes with
  | x :: rest => (.leaf kind x, { s with lexemes := rest, row := x.lastRow })
  | [] =>
    let missing : Lexeme := ⟨.word .finish, "", "", s.row, s.row, ⟨true, 0, none⟩, false⟩
    (.leaf kind missing, s)

mutual

/-- A phrase with its text, and what is left after it. -/
def dress : Phrase → Rest → ConcreteTree × Rest
  | .leaf kind, s => ofLeaf kind s
  | .mark m, s => ofMark m s
  | .node kind [], s => (.node kind [], s)
  | .node kind ((role, x) :: rest), s =>
    let (t, s) := dress x s
    let (children, s) := dressRest rest s
    (.node kind ((role, t) :: children), s)

/-- The parts of a phrase that follow another part, with their text and the comments and joints
before them. -/
def dressRest : List (Role × Phrase) → Rest → List (Role × ConcreteTree) × Rest
  | [], s => ([], s)
  | (role, x) :: rest, s =>
    let (extras, left, row) := takeExtras (leading x) s.indents s.lexemes s.row
    let (t, s) := dress x { s with lexemes := left, row := row }
    let (children, s) := dressRest rest s
    (extras ++ (role, t) :: children, s)

end

/-- The concrete tree of a whole program: all comments before its first word and after its last
one belong to it. -/
def ofPhrase (phrase : Phrase) (lexemes : List Lexeme) : ConcreteTree :=
  match phrase with
  | .node kind parts =>
    let (children, s) := dressRest parts ⟨lexemes, [], 1⟩
    let (extras, _, _) := takeExtras none [] s.lexemes s.row
    .node kind (children ++ extras)
  | x => (dress x ⟨lexemes, [], 1⟩).1

end ConcreteTree

end Lookalike.Python
