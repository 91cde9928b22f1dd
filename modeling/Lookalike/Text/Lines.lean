/-! ### Lines of a text

A line ends with a line feed, before which one carriage return is not counted as part of the
line. A text that ends with a line feed has no empty last line. -/

namespace Lookalike.Text

/-- One step of `terminated`, from the right: a line feed closes a line. -/
def addToLines (c : Char) : List (List Char) → List (List Char)
  | [] => [[c]]
  | line :: rest => if c = '\n' then [c] :: line :: rest else (c :: line) :: rest

/-- The lines with their terminators. -/
def terminated (cs : List Char) : List (List Char) :=
  cs.foldr addToLines []

/-- A line without its terminator. -/
def chomp (line : List Char) : List Char :=
  match line.reverse with
  | '\n' :: '\r' :: rest => rest.reverse
  | '\n' :: rest => rest.reverse
  | _ => line

/-- The lines of a text, without their terminators. -/
def lines (s : String) : List String :=
  (terminated s.toList).map fun line => String.ofList (chomp line)

/-- The number of lines, where the empty text counts as one line. -/
def lineCount (s : String) : Nat :=
  max (terminated s.toList).length 1

/-- The lines `first` to `last`, counted from one, joined by line feeds. -/
def lineRange (s : String) (first last : Nat) : String :=
  "\n".intercalate (((lines s).drop (first - 1)).take (last - first + 1))

end Lookalike.Text
