/-! ### Words and lexemes

The words of a program are what its grammar is about: names, numbers, the parts of quoted
literals, and signs. A lexeme is a word as it stands in the text: with the blanks before it and
the rows that it covers. Comments and joined lines are lexemes, but not words. A word that begins
a line outside all brackets carries the indentation of that line, which is all that the grammar
knows about layout. -/

namespace Lookalike.Python

/-- The kinds of words. Keywords are names: where a keyword has a meaning is for the grammar to
say. -/
inductive WordKind where
  | name
  | integer
  | float
  | sign
  | quoteOpen
  | quoteText
  | quoteClose
  | conversion
  | formatText
  | junk
  | finish
  deriving DecidableEq

/-- The indentation of a line that begins with a word: of the word itself, and the least one
among the word and the comments on the lines before it. -/
structure LineStart where
  indent : Nat
  margin : Nat
  deriving DecidableEq

/-- A word of the grammar. -/
structure Word where
  kind : WordKind
  text : String
  start : Option LineStart
  deriving DecidableEq

/-- The word after the last one. -/
def Word.finish : Word :=
  ⟨.finish, "", some ⟨0, 0⟩⟩

/-- A word as it would stand without comments on the lines before it. -/
def Word.uncommented (w : Word) : Word :=
  { w with start := w.start.map fun s => ⟨s.indent, s.indent⟩ }

/-- What the layout of a program looks like from the place where a lexeme before it ends: whether
a line ends before anything else comes, how far the next line of code is indented, and how far
the first comment line before it, if there is one. -/
structure Outlook where
  lineEnds : Bool
  indent : Nat
  comment : Option Nat
  deriving DecidableEq

/-- What a lexeme is. -/
inductive LexemeKind where
  | word (kind : WordKind)
  | comment
  | joint
  deriving DecidableEq

/-- A piece of the text with the blanks before it, the rows that it covers, counted from one, and
the outlook from the end of the piece before it. -/
structure Lexeme where
  kind : LexemeKind
  gap : String
  text : String
  firstRow : Nat
  lastRow : Nat
  outlook : Outlook
  inBrackets : Bool

/-- Whether a lexeme is a word. -/
def Lexeme.isWord (x : Lexeme) : Bool :=
  match x.kind with
  | .word _ => true
  | _ => false

end Lookalike.Python
