import Lookalike.Json.Basic
import Lookalike.Digest.Sha256

/-! ### Writing values

The compact form has no blanks. The wide form puts every item and every field on a line of its
own, indented by two spaces for each level, and writes empty arrays and objects without a line
break. Quotation marks, backslashes and control characters are escaped, all other characters
stand for themselves. -/

namespace Lookalike.Json

/-- A character inside quotation marks. -/
def escapeChar (c : Char) : List Char :=
  if c = '\x22' then ['\\', '\x22']
  else if c = '\\' then ['\\', '\\']
  else if c = '\n' then ['\\', 'n']
  else if c = '\r' then ['\\', 'r']
  else if c = '\t' then ['\\', 't']
  else if c = '\x08' then ['\\', 'b']
  else if c = '\x0c' then ['\\', 'f']
  else if c.toNat < 0x20 then '\\' :: 'u' :: Sha256.hex 4 c.toNat
  else [c]

/-- A text in quotation marks. -/
def quote (s : String) : List Char :=
  '\x22' :: s.toList.flatMap escapeChar ++ ['\x22']

/-- Pieces with a comma between neighbours. -/
def commaJoin : List (List Char) → List Char
  | [] => []
  | [p] => p
  | p :: ps => p ++ ',' :: commaJoin ps

mutual

/-- The compact form of a value. -/
def compactChars : Json → List Char
  | .null => ['n', 'u', 'l', 'l']
  | .bool true => ['t', 'r', 'u', 'e']
  | .bool false => ['f', 'a', 'l', 's', 'e']
  | .number n => n.render
  | .text s => quote s
  | .unpaired => ['n', 'u', 'l', 'l']
  | .array items => '[' :: commaJoin (compactItems items) ++ [']']
  | .object fields => '\x7b' :: commaJoin (compactFields fields) ++ ['\x7d']

/-- The compact forms of the items of an array. -/
def compactItems : List Json → List (List Char)
  | [] => []
  | v :: vs => compactChars v :: compactItems vs

/-- The compact forms of the fields of an object. -/
def compactFields : List (String × Json) → List (List Char)
  | [] => []
  | (k, v) :: fs => (quote k ++ ':' :: compactChars v) :: compactFields fs

end

/-- The compact form of a value. -/
def compact (v : Json) : String :=
  String.ofList (compactChars v)

/-- A line break and the indentation of a level. -/
def newLine (level : Nat) : String :=
  String.ofList ('\n' :: List.replicate (2 * level) ' ')

mutual

/-- The wide form of a value that stands at a level. -/
def wideAt (level : Nat) : Json → String
  | .array [] => "[]"
  | .array items =>
    "[" ++ newLine (level + 1) ++
      ("," ++ newLine (level + 1)).intercalate (wideItems (level + 1) items) ++
      newLine level ++ "]"
  | .object [] => "\x7b\x7d"
  | .object fields =>
    "\x7b" ++ newLine (level + 1) ++
      ("," ++ newLine (level + 1)).intercalate (wideFields (level + 1) fields) ++
      newLine level ++ "\x7d"
  | v => compact v

/-- The wide forms of the items of an array. -/
def wideItems (level : Nat) : List Json → List String
  | [] => []
  | v :: vs => wideAt level v :: wideItems level vs

/-- The wide forms of the fields of an object. -/
def wideFields (level : Nat) : List (String × Json) → List String
  | [] => []
  | (k, v) :: fs => (String.ofList (quote k) ++ ": " ++ wideAt level v) :: wideFields level fs

end

/-- The wide form of a value. -/
def wide (v : Json) : String :=
  wideAt 0 v

end Lookalike.Json
