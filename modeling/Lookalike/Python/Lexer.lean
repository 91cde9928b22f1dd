import Lookalike.Python.NameCharacter
import Lookalike.Python.Quotation

/-! ### Lexemes of a program

`lexemes` cuts a text into lexemes. At each place it skips blanks, and then takes the longest
piece that the place allows; what a place allows depends on the brackets, quotations and
replacements that are open around it. Every character of the text belongs to a lexeme or to the
blanks before one, up to a quotation that is broken off, where the cutting ends. `wordsOf` keeps
the words. -/

namespace Lookalike.Python

/-- What is open around a place. -/
inductive Frame where
  | bracket
  | quoted (q : Quotation)
  | replacement (lambdas : Nat)
  | format
  deriving DecidableEq

/-- The blanks between lexemes. -/
def isLayout (c : Char) : Bool :=
  c = ' ' || ('\t' ≤ c && c ≤ '\r') || c = '\uFEFF' || c = '\u2060' || c = '\u200B'

/-- The signs of three characters, then of two, then of one. -/
def signTable : List (List Char) :=
  ["**=", "//=", ">>=", "<<=", "...",
   "->", ":=", "==", "!=", "<=", ">=", "<>", "<<", ">>", "**", "//", "+=", "-=", "*=", "/=", "%=",
   "@=", "&=", "|=", "^=",
   "+", "-", "*", "/", "%", "@", "&", "|", "^", "~", "<", ">", "=", ".", ",", ":", ";", "(", ")",
   "[", "]", "\x7b", "\x7d"].map String.toList

/-- The longest sign at the head of a text. -/
def signAt? (cs : List Char) : Option (List Char) :=
  signTable.find? (·.isPrefixOf cs)

/-! ### Numbers -/

/-- The length of the longest run of digits in which single underscores may follow digits. -/
def digitRun (digit : Char → Bool) : List Char → Nat
  | [] => 0
  | c :: rest =>
    if digit c then
      match rest with
      | '_' :: _ => 1 + underscored rest
      | _ => 1 + digitRun digit rest
    else 0
where
  /-- The length of a run that begins with an underscore. -/
  underscored : List Char → Nat
    | [] => 0
    | _ :: rest => 1 + digitRun digit rest

/-- The length of a run in which single underscores may stand before digits. -/
def prefixedRun (digit : Char → Bool) : List Char → Nat
  | [] => 0
  | [c] => if digit c then 1 else 0
  | c :: d :: rest =>
    if digit c then 1 + prefixedRun digit (d :: rest)
    else if c = '_' ∧ digit d then 2 + prefixedRun digit rest
    else 0

/-- Whether the head of a text is one of two characters. -/
def headIs (a b : Char) : List Char → Bool
  | c :: _ => c = a || c = b
  | [] => false

/-- The length of a number in a base other than ten, after its two opening characters. -/
def basedLength (digit : Char → Bool) (cs : List Char) : Nat :=
  let n := prefixedRun digit cs
  if n = 0 then 0 else if headIs 'l' 'L' (cs.drop n) then n + 3 else n + 2

/-- The length of the power of ten at the head of a text. -/
def powerLength : List Char → Nat
  | c :: rest =>
    if c = 'e' ∨ c = 'E' then
      let signed := if headIs '+' '-' rest then 1 else 0
      let n := digitRun Char.isDigit (rest.drop signed)
      if n = 0 then 0 else 1 + signed + n
    else 0
  | [] => 0

/-- The length of the floating point number at the head of a text, zero if there is none. -/
def floatLength (cs : List Char) : Nat :=
  let whole := digitRun Char.isDigit cs
  let base := match cs.drop whole with
    | '.' :: rest =>
      let fraction := digitRun Char.isDigit rest
      if whole = 0 ∧ fraction = 0 then 0
      else
        let n := whole + 1 + fraction
        n + powerLength (cs.drop n)
    | rest =>
      let power := powerLength rest
      if whole = 0 ∨ power = 0 then 0 else whole + power
  if base = 0 then 0 else if headIs 'j' 'J' (cs.drop base) then base + 1 else base

/-- Whether a character is a digit in base eight. -/
def isOctal (c : Char) : Bool :=
  '0' ≤ c && c ≤ '7'

/-- Whether a character is a digit in base two. -/
def isBinary (c : Char) : Bool :=
  c = '0' || c = '1'

/-- Whether a character is a digit in base sixteen. -/
def isHexadecimal (c : Char) : Bool :=
  c.isDigit || ('a' ≤ c && c ≤ 'f') || ('A' ≤ c && c ≤ 'F')

/-- The length of the integer at the head of a text, zero if there is none. -/
def integerLength (cs : List Char) : Nat :=
  let based := match cs with
    | '0' :: c :: rest =>
      if c = 'x' ∨ c = 'X' then basedLength isHexadecimal rest
      else if c = 'o' ∨ c = 'O' then basedLength isOctal rest
      else if c = 'b' ∨ c = 'B' then basedLength isBinary rest
      else 0
    | _ => 0
  if based ≠ 0 then based
  else
    let n := digitRun Char.isDigit cs
    if n = 0 then 0
    else if headIs 'l' 'L' (cs.drop n) || headIs 'j' 'J' (cs.drop n) then n + 1 else n

/-! ### Layout before a lexeme -/

/-- Whether a line ends in the blanks, how far the line is indented so far, and whether a blank
was met that the indentation does not look behind. -/
structure Margin where
  lineEnds : Bool
  indent : Nat
  blocked : Bool

/-- The margin after one more blank. -/
def Margin.step (m : Margin) (c : Char) : Margin :=
  if m.blocked then m
  else if c = '\n' then ⟨true, 0, false⟩
  else if c = ' ' then { m with indent := m.indent + 1 }
  else if c = '\t' then { m with indent := m.indent + 8 }
  else if c = '\r' ∨ c = '\x0c' then { m with indent := 0 }
  else { m with blocked := true }

/-- The margin after some blanks, where the end of the text ends a line. -/
def marginOf (gap : List Char) (atEnd : Bool) : Margin :=
  let m := gap.foldl Margin.step ⟨false, 0, false⟩
  if atEnd ∧ !m.blocked then ⟨true, 0, false⟩ else m

/-- The number of line feeds in a text. -/
def lineFeeds (cs : List Char) : Nat :=
  cs.foldl (fun n c => if c = '\n' then n + 1 else n) 0

/-! ### Cutting -/

/-- A piece of the text, its kind, and the frames that are open after it. -/
structure Piece where
  kind : LexemeKind
  length : Nat
  frames : List Frame

/-- The frames after an opening or closing sign, and after a colon or a name that bears on the
colons of a replacement. -/
def framesAfter (text : List Char) (frames : List Frame) : List Frame :=
  match text, frames with
  | ['('], _ => .bracket :: frames
  | ['['], _ => .bracket :: frames
  | ['\x7b'], _ => .bracket :: frames
  | [')'], .bracket :: rest => rest
  | [']'], .bracket :: rest => rest
  | ['\x7d'], .bracket :: rest => rest
  | ['\x7d'], .replacement _ :: rest => rest
  | [':'], .replacement 0 :: _ => .format :: frames
  | [':'], .replacement (n + 1) :: rest => .replacement n :: rest
  | ['l', 'a', 'm', 'b', 'd', 'a'], .replacement n :: rest => .replacement (n + 1) :: rest
  | _, _ => frames

/-- The length of a line joint at the head of a text: a backslash with the end of its line. -/
def jointLength : List Char → Nat
  | '\\' :: '\n' :: _ => 2
  | '\\' :: '\r' :: '\n' :: _ => 3
  | '\\' :: '\x00' :: _ => 2
  | _ => 0

/-- The words behind which an expression may begin that stands in a replacement. -/
def expressionOpeners : List String :=
  ["\x7b", ",", ":", "not", "and", "or", "if", "else", "yield", "from"]

/-- The names in expressions that cannot be given a value. -/
def fixedNames : List String :=
  ["None", "True", "False", "yield", "lambda"]

/-- Whether a name that begins an expression in a replacement stands at the end of some lexemes,
which are in reverse order. Only such a name can be given a value; behind anything else a colon ends
the expression, and an equals sign after it belongs to the format. -/
def endsInVariable (done : List Lexeme) : Bool :=
  match done.filter Lexeme.isWord with
  | x :: y :: _ =>
    x.kind = .word .name && !fixedNames.contains x.text && expressionOpeners.contains y.text
  | _ => false

/-- The piece at the head of program text that does not begin with a blank, after the lexemes in
`done`. -/
def pieceAt (done : List Lexeme) (frames : List Frame) (cs : List Char) : Piece :=
  match cs with
  | [] => ⟨.word .finish, 0, frames⟩
  | c :: rest =>
    if c = '#' then ⟨.comment, (cs.takeWhile (· ≠ '\n')).length, frames⟩
    else if c = '\\' then
      let n := jointLength cs
      if n = 0 then ⟨.word .junk, 1, frames⟩ else ⟨.joint, n, frames⟩
    else
      match Quotation.open? cs with
      | some (q, opening, _) => ⟨.word .quoteOpen, opening.length, .quoted q :: frames⟩
      | none =>
        if opensName c then
          let text := c :: rest.takeWhile continuesName
          ⟨.word .name, text.length, framesAfter text frames⟩
        else
          -- The longer reading of a number counts.
          let float := floatLength cs
          let integer := integerLength cs
          if integer < float then ⟨.word .float, float, frames⟩
          else if integer ≠ 0 then ⟨.word .integer, integer, frames⟩
          else
            match frames, cs with
            | .replacement _ :: _, '!' :: d :: _ =>
              if 'a' ≤ d ∧ d ≤ 'z' then ⟨.word .conversion, 2, frames⟩ else signPiece
            | _, _ => signPiece
where
  /-- The piece that a sign makes. -/
  signPiece : Piece :=
    match frames, signAt? cs with
    | .replacement _ :: _, some [':', '='] =>
      let text := if endsInVariable done then [':', '='] else [':']
      ⟨.word .sign, text.length, framesAfter text frames⟩
    | _, some text => ⟨.word .sign, text.length, framesAfter text frames⟩
    | _, none => ⟨.word .junk, 1, frames⟩

/-- The piece at the head of a format, which runs up to a brace or the end of the line. -/
def formatPieceAt (frames : List Frame) (cs : List Char) : Piece :=
  match cs, frames with
  | '\x7b' :: _, _ => ⟨.word .sign, 1, .replacement 0 :: frames⟩
  | '\x7d' :: _, _ :: _ :: rest => ⟨.word .sign, 1, rest⟩
  | [], _ => ⟨.word .finish, 0, frames⟩
  | _, _ =>
    ⟨.word .formatText, (cs.takeWhile fun c => c ≠ '\x7b' && c ≠ '\x7d' && c ≠ '\n').length, frames⟩

/-- A lexeme with its blanks, in a list that is built from the end. -/
def lexemeOf (kind : LexemeKind) (gap text : List Char) (row : Nat) (frames : List Frame)
    (atEnd : Bool) : Lexeme :=
  let first := row + lineFeeds gap
  let m := marginOf gap atEnd
  { kind := kind, gap := String.ofList gap, text := String.ofList text, firstRow := first,
    lastRow := first + lineFeeds text, outlook := ⟨m.lineEnds, m.indent, none⟩,
    inBrackets := !frames.isEmpty }

/-- The lexemes of the rest of a text in reverse order, on top of `done`. -/
def cut : Nat → List Frame → Nat → List Char → List Lexeme → List Lexeme
  | 0, _, _, _, done => done
  | fuel + 1, frames, row, cs, done =>
    match frames with
    | .quoted q :: outer =>
      let (text, event, rest) := q.scan fuel false [] cs
      let textLexeme := lexemeOf (.word .quoteText) [] text.reverse row frames false
      let done := if text.isEmpty then done else textLexeme :: done
      let row := textLexeme.lastRow
      match event with
      | .fault => lexemeOf (.word .junk) [] [] row frames false :: done
      | .close =>
        let n := if q.triple then 3 else 1
        cut fuel outer row (rest.drop n)
          (lexemeOf (.word .quoteClose) [] (rest.take n) row frames false :: done)
      | .brace =>
        cut fuel (.replacement 0 :: frames) row (rest.drop 1)
          (lexemeOf (.word .sign) [] (rest.take 1) row frames false :: done)
    | _ =>
      -- In a format blanks are text, but for the ends of lines.
      let inFormat := frames.head? == some .format
      let blank (c : Char) : Bool := if inFormat then c = '\n' else isLayout c
      let gap := cs.takeWhile blank
      let rest := cs.drop gap.length
      let piece := if inFormat then formatPieceAt frames rest else pieceAt done frames rest
      let lexeme := lexemeOf piece.kind gap (rest.take piece.length) row frames rest.isEmpty
      if piece.length = 0 then lexeme :: done
      else cut fuel piece.frames lexeme.lastRow (rest.drop piece.length) (lexeme :: done)

/-- Adds to the outlook of each lexeme what stands behind it: a comment that begins a line hides
the indentation of the code after it, and a joint continues its line. The list is built from the
end, `done` holding what comes later. -/
def lookAhead : List Lexeme → List Lexeme → List Lexeme
  | [], done => done
  | x :: rest, done =>
    let later : Outlook := match done with
      | y :: _ => y.outlook
      | [] => ⟨true, 0, none⟩
    let here := x.outlook
    let outlook : Outlook := match x.kind with
      | .word _ => here
      | .comment =>
        if here.lineEnds then ⟨true, later.indent, some here.indent⟩ else here
      | .joint =>
        if later.lineEnds then later
        else ⟨here.lineEnds, here.indent + later.indent, later.comment⟩
    lookAhead rest ({ x with outlook := outlook } :: done)

/-- The lexemes of a text. The last one stands for its end, unless a quotation is broken off. -/
def lexemes (source : String) : List Lexeme :=
  let cs := source.toList
  lookAhead (cut (2 * cs.length + 2) [] 1 cs []) []

/-- The word of a lexeme, given the layout that was met on the way to it: the indentation of a
line start and the least indentation of the comments before it. -/
structure Pending where
  start : Option Nat
  margin : Option Nat

/-- The lesser of two indentations of which the first may be missing. -/
def lesser (a : Option Nat) (b : Nat) : Nat :=
  match a with
  | some n => min n b
  | none => b

/-- The words of a list of lexemes in reverse order, on top of `done`. -/
def wordsFrom : List Lexeme → Pending → List Word → List Word
  | [], _, done => done
  | x :: rest, pending, done =>
    let met : Pending :=
      if x.outlook.lineEnds && !x.inBrackets then
        ⟨some x.outlook.indent, match x.outlook.comment with
          | some indent => some (lesser pending.margin indent)
          | none => pending.margin⟩
      else pending
    match x.kind with
    | .word kind =>
      let start := met.start.map fun indent =>
        (⟨indent, lesser met.margin indent⟩ : LineStart)
      wordsFrom rest ⟨none, none⟩ (⟨kind, x.text, start⟩ :: done)
    | _ => wordsFrom rest met done

/-- The words of a list of lexemes. -/
def wordsOf (xs : List Lexeme) : List Word :=
  (wordsFrom xs ⟨none, none⟩ []).reverse

end Lookalike.Python
