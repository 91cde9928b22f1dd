import Lookalike.Python.Phrase

/-! ### Patterns

What stands on the left of an assignment is read as an expression and then turned into a pattern:
names, attributes and subscripts are patterns already, and tuples, lists and expressions in
parentheses are patterns of their parts. Nothing else can be assigned to. -/

namespace Lookalike.Python.Grammar

/-- Whether a phrase may follow a star in a pattern. -/
def isPlainTarget : Phrase → Bool
  | .leaf .identifier => true
  | .node .member _ => true
  | .node .subscript _ => true
  | _ => false

mutual

/-- The pattern that an expression stands for. -/
def toPattern? : Phrase → Option Phrase
  | .leaf .identifier => some (.leaf .identifier)
  | .node .member parts => some (.node .member parts)
  | .node .subscript parts => some (.node .subscript parts)
  | .node .listSplat [star, (r, x)] =>
    if isPlainTarget x then some (.node .listSplatPattern [star, (r, x)]) else none
  | .node .parenthesized parts => (toPatterns? parts).map (.node .tuplePattern)
  | .node .tuple parts => (toPatterns? parts).map (.node .tuplePattern)
  | .node .list parts => (toPatterns? parts).map (.node .listPattern)
  | _ => none

/-- The patterns that the parts of a tuple stand for, signs left as they are. -/
def toPatterns? : List (Role × Phrase) → Option (List (Role × Phrase))
  | [] => some []
  | (r, .leaf .anonymous) :: rest => (toPatterns? rest).map ((r, .leaf .anonymous) :: ·)
  | (r, x) :: rest =>
    match toPattern? x, toPatterns? rest with
    | some y, some ys => some ((r, y) :: ys)
    | _, _ => none

end

/-- The pattern that the left of an assignment stands for, where a list of expressions becomes a
list of patterns. -/
def toTarget? : Phrase → Option Phrase
  | .node .expressionList parts => (toPatterns? parts).map (.node .patternList)
  | x => toPattern? x

end Lookalike.Python.Grammar
