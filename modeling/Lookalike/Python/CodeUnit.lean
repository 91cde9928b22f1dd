import Lookalike.Digest.Sha256
import Lookalike.Python.Features
import Lookalike.Python.Program
import Lookalike.Text.Lines
import Lookalike.Text.PathName

/-! ### Units of code

A unit is a piece of program that is compared as a whole: a module, a function or a class. The
units of a text are its module and all functions and classes in it, at any depth. -/

namespace Lookalike.Python

/-- The kinds of units. -/
inductive UnitKind where
  | function
  | «class»
  | module
  deriving DecidableEq

namespace UnitKind

/-- The name of a kind. -/
def name : UnitKind → String
  | .function => "function"
  | .class => "class"
  | .module => "module"

/-- The kind with a given name. -/
def ofName? (s : String) : Option UnitKind :=
  [UnitKind.function, .class, .module].find? (·.name = s)

end UnitKind

/-- A unit of code: its text as written, the lines that it covers, the file that it comes from if
there is one, and its features. -/
structure CodeUnit where
  name : String
  kind : UnitKind
  source : String
  firstLine : Nat
  lastLine : Nat
  file : Option String
  features : Features
  signature : String
  deriving DecidableEq

/-- The number of lines from the first to the last. -/
def lineSpan (first last : Nat) : Nat :=
  last - first + 1

namespace CodeUnit

/-- The digest of the text, by which a unit is known. -/
def contentHash (u : CodeUnit) : String :=
  Sha256.ofText u.source

/-- The number of lines that a unit covers. -/
def lineCount (u : CodeUnit) : Nat :=
  lineSpan u.firstLine u.lastLine

/-- The file and the line where a unit stands. -/
def location (u : CodeUnit) : String :=
  u.file.getD "<memory>" ++ ":" ++ toString u.firstLine

/-- The unit that a tree stands for. -/
def ofTree (t : SyntaxTree) (name : String) (kind : UnitKind) (source : String)
    (file : Option String) : CodeUnit :=
  let features := Features.ofTree t
  ⟨name, kind, source, t.firstLine, t.lastLine, file, features, features.signature⟩

/-- The name and the kind of the unit that a construct makes, if it makes one. -/
def head? : Construct → Option (String × UnitKind)
  | .function head => some (head.name, .function)
  | .class head => some (head.name, .class)
  | _ => none

/-- The name of the module in a file. -/
def moduleName (file : Option String) : String :=
  (file.bind PathName.fileStem?).getD "module"

/-- The unit of a tree inside a module, if it makes one, with its lines of the text. -/
def ofInner? (source : String) (file : Option String) (t : SyntaxTree) : Option CodeUnit :=
  (head? t.construct).map fun (name, kind) =>
    ofTree t name kind (Text.lineRange source t.firstLine t.lastLine) file

/-- The units of a module: itself, and then the functions and classes in it. -/
def ofModule (tree : SyntaxTree) (source : String) (file : Option String) : List CodeUnit :=
  ofTree tree (moduleName file) .module source file :: tree.walk.filterMap (ofInner? source file)

/-- The units of a text, read by a parser. -/
def extractWith (parser : Parser) (source : String) (file : Option String) :
    Except ParseError (List CodeUnit) :=
  (parser source).map fun tree => ofModule tree source file

/-- The units of a text. -/
def extract (source : String) (file : Option String) : Except ParseError (List CodeUnit) :=
  extractWith parse source file

/-- The unit that stands for a text as a whole: the first function or class, or else the
module. -/
def primary? (units : List CodeUnit) : Option CodeUnit :=
  (units.find? (·.kind ≠ .module)).or (units.find? (·.kind = .module))

end CodeUnit

end Lookalike.Python
