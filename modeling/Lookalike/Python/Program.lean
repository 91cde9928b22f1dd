import Lookalike.Python.Lexer
import Lookalike.Python.Lowering
import Lookalike.Python.Grammar.Statement

/-! ### Programs

`parse` reads the syntax tree of a program from its text: the text is cut into lexemes, the words
among them are read as a phrase, the phrase gets its text back, and its constructs are kept. -/

namespace Lookalike.Python

/-- Why a text has no syntax tree: a line at which it is malformed, or a fault of the parser
itself. -/
inductive ParseError where
  | malformed (line : Nat)
  | noGrammar (reason : String)
  | noTree
  deriving DecidableEq

/-- The text of an error. -/
def ParseError.message : ParseError → String
  | .malformed line => "syntax error near line " ++ toString line
  | .noGrammar reason => "failed to load grammar: " ++ reason
  | .noTree => "parser produced no tree"

/-- A way of reading syntax trees. -/
abbrev Parser := String → Except ParseError SyntaxTree

/-- The row of the word at which `left` words are left, counting itself. -/
def rowOfWord (xs : List Lexeme) (left : Nat) : Nat :=
  let words := xs.filter (·.isWord)
  match words.drop (words.length - left) with
  | x :: _ => x.firstRow
  | [] => 1

/-- The concrete tree of a program. -/
def concreteTree (source : String) : Except ParseError ConcreteTree :=
  let xs := lexemes source
  match Grammar.program (wordsOf xs) with
  | .ok phrase => .ok (.ofPhrase phrase xs)
  | .error left => .error (.malformed (rowOfWord xs left))

/-- The syntax tree of a program. -/
def parse : Parser := fun source =>
  (concreteTree source).map (moduleTree source)

end Lookalike.Python
