/-! ### Blank characters, words and trimming

A text is cut at its blanks in two ways: `words` keeps the non-empty pieces between them, `trim`
drops the blanks at both ends. `squeeze` writes the words with single spaces between them, which
is the form in which a piece of program text is compared. -/

namespace Lookalike

/-- The characters with the Unicode property `White_Space`. -/
def isBlank (c : Char) : Bool :=
  let n := c.toNat
  (9 ≤ n && n ≤ 13) || n == 0x20 || n == 0x85 || n == 0xA0 || n == 0x1680 ||
    (0x2000 ≤ n && n ≤ 0x200A) || n == 0x2028 || n == 0x2029 || n == 0x202F || n == 0x205F ||
    n == 0x3000

namespace Text

/-- One step of `pieces`, from the right: a blank opens a new piece, any other character joins
the first one. -/
def addToPieces (c : Char) : List (List Char) → List (List Char)
  | [] => if isBlank c then [] else [[c]]
  | piece :: rest => if isBlank c then [] :: piece :: rest else (c :: piece) :: rest

/-- The stretches between blanks, some of them empty. -/
def pieces (cs : List Char) : List (List Char) :=
  cs.foldr addToPieces []

/-- The non-empty stretches between blanks. -/
def words (cs : List Char) : List (List Char) :=
  (pieces cs).filter (!·.isEmpty)

/-- The words of a text with one space between neighbours. -/
def squeeze (s : String) : String :=
  " ".intercalate ((words s.toList).map String.ofList)

/-- A text without the blanks at its two ends. -/
def trim (s : String) : String :=
  String.ofList ((s.toList.dropWhile isBlank).reverse.dropWhile isBlank).reverse

end Text

end Lookalike
