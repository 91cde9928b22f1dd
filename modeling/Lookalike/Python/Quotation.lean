import Lookalike.Python.Word

/-! ### Quoted literals

A quotation opens with one or three quotation marks after letters that say how its text is to be
taken. `Quotation.scan` runs through the text up to the next event: the closing marks, a brace
that opens a replacement, or a fault. A line may end inside a quotation with single marks only
right after its opening, after an escape or after a replacement. -/

namespace Lookalike.Python

/-- How the text of a quotation is to be taken. -/
structure Quotation where
  mark : Char
  triple : Bool
  raw : Bool
  bytes : Bool
  format : Bool
  deriving DecidableEq

/-- What ends a run of text in a quotation. -/
inductive QuotationEvent where
  | close
  | brace
  | fault
  deriving DecidableEq

namespace Quotation

/-- Whether a character is one of the letters before a quotation mark. -/
def isFlag (c : Char) : Bool :=
  c = 'f' || c = 'F' || c = 'r' || c = 'R' || c = 'b' || c = 'B' || c = 'u' || c = 'U'

/-- Whether a character is a quotation mark. -/
def isMark (c : Char) : Bool :=
  c = '\x22' || c = '\x27' || c = '\x60'

/-- A quotation that opens here: how it is taken, its opening, and what follows. -/
def open? (cs : List Char) : Option (Quotation × List Char × List Char) :=
  let flags := cs.takeWhile isFlag
  match cs.dropWhile isFlag with
  | c :: rest =>
    if isMark c then
      let has (a b : Char) : Bool := flags.contains a || flags.contains b
      let make (triple : Bool) : Quotation :=
        ⟨c, triple, has 'r' 'R', has 'b' 'B', has 'f' 'F'⟩
      match rest with
      | c' :: c'' :: rest' =>
        if c ≠ '\x60' ∧ c' = c ∧ c'' = c then some (make true, flags ++ [c, c, c], rest')
        else some (make false, flags ++ [c], rest)
      | _ => some (make false, flags ++ [c], rest)
    else none
  | [] => none

/-- Whether all of the first `n` characters are hexadecimal digits, of which there are `n`. -/
def hexRun (n : Nat) (cs : List Char) : Bool :=
  (cs.take n).length = n && (cs.take n).all fun c =>
    c.isDigit || ('a' ≤ c && c ≤ 'f') || ('A' ≤ c && c ≤ 'F')

/-- The length of a named character after its letter, braces included. -/
def namedLength : List Char → Nat
  | '\x7b' :: rest =>
    let name := rest.takeWhile (· ≠ '\x7d')
    if name.isEmpty || (rest.drop name.length).isEmpty then 0 else name.length + 2
  | _ => 0

/-- The number of characters after a backslash that belong to its escape. -/
def escapeLength : List Char → Nat
  | [] => 0
  | '\r' :: '\n' :: _ => 2
  | c :: rest =>
    if c = 'u' then (if hexRun 4 rest then 5 else 0)
    else if c = 'U' then (if hexRun 8 rest then 9 else 0)
    else if c = 'x' then (if hexRun 2 rest then 3 else 0)
    else if c = 'N' then (let n := namedLength rest; if n = 0 then 0 else n + 1)
    else if c.isDigit then ((c :: rest).take 3).takeWhile Char.isDigit |>.length
    else if "\n\x27\x22abfrntv\\".toList.contains c then 1
    else 0

/-- The characters after a backslash in a raw quotation that the backslash protects. -/
def protectedLength (q : Quotation) (cs : List Char) : Nat :=
  let first := match cs with
    | c :: _ => if c = q.mark ∨ c = '\\' then 1 else 0
    | [] => 0
  match cs.drop first with
  | '\r' :: '\n' :: _ => first + 2
  | '\r' :: _ => first + 1
  | '\n' :: _ => first + 1
  | _ => first

/-- The text up to the next event, in reverse order and on top of `done`, the event, and what
follows. `running` says whether a run of plain text is under way. -/
def scan (q : Quotation) :
    Nat → Bool → List Char → List Char → List Char × QuotationEvent × List Char
  | 0, _, done, cs => (done, .fault, cs)
  | fuel + 1, running, done, cs =>
    match cs with
    | [] => (done, .fault, [])
    | '\x00' :: _ => (done, .fault, cs)
    | c :: rest =>
      -- A doubled brace stands for itself; only a single one opens a replacement.
      if q.format ∧ c = '\x7b' then
        match rest with
        | '\x7b' :: rest' => scan q fuel false ('\x7b' :: '\x7b' :: done) rest'
        | _ => (done, .brace, cs)
      else if q.format ∧ c = '\x7d' then
        match rest with
        | '\x7d' :: rest' => scan q fuel false ('\x7d' :: '\x7d' :: done) rest'
        | _ => (done, .fault, cs)
      else if c = '\\' then
        if q.raw then
          let n := q.protectedLength rest
          scan q fuel running ((rest.take n).reverse ++ c :: done) (rest.drop n)
        else
          -- Bytes know no names and numbers of characters: these letters are plain text there.
          match q.bytes, rest with
          | true, 'N' :: d :: rest' => scan q fuel true (d :: 'N' :: c :: done) rest'
          | true, 'u' :: d :: rest' => scan q fuel true (d :: 'u' :: c :: done) rest'
          | true, 'U' :: d :: rest' => scan q fuel true (d :: 'U' :: c :: done) rest'
          | _, _ =>
            let n := escapeLength rest
            scan q fuel false ((rest.take n).reverse ++ c :: done) (rest.drop n)
      else if c = q.mark then
        if q.triple then
          match rest with
          | d :: e :: _ =>
            if d = c ∧ e = c then (done, .close, cs)
            else if d = c then scan q fuel false (c :: c :: done) (rest.drop 1)
            else scan q fuel false (c :: done) rest
          | _ => scan q fuel false (c :: done) rest
        else (done, .close, cs)
      -- At the start of a run a line feed is let through, even between single marks.
      else if c = '\n' ∧ running ∧ !q.triple then (done, .fault, cs)
      else scan q fuel true (c :: done) rest

end Quotation

end Lookalike.Python
