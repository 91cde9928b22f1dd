import Lookalike.Python.Word

/-! ### Phrases

A phrase is a tree over the words of a program, without their texts and places: two programs with
the same words have the same phrases. The marks of layout (the end of a line, the beginning and the
end of an indented block) are leaves of their own. Each part of a phrase may have a role in it. -/

namespace Lookalike.Python

/-- What a word is inside a phrase. Anonymous words are those that the kind of the phrase already
implies: signs and keywords. -/
inductive LeafKind where
  | identifier
  | integer
  | float
  | boolean
  | none
  | literal
  | anonymous
  deriving DecidableEq

/-- The kinds of phrases that matter for what comes after the grammar, and `other` for the
rest. -/
inductive PhraseKind where
  | other
  | functionDefinition
  | classDefinition
  | decoratedDefinition
  | decorator
  | ifStatement
  | elifClause
  | elseClause
  | forStatement
  | whileStatement
  | tryStatement
  | exceptClause
  | finallyClause
  | withStatement
  | withClause
  | withItem
  | matchStatement
  | caseClause
  | block
  | call
  | argumentList
  | keywordArgument
  | dictionarySplat
  | binaryOperator
  | comparison
  | booleanOperator
  | notOperator
  | unaryOperator
  | assignment
  | augmentedAssignment
  | returnStatement
  | raiseStatement
  | assertStatement
  | importStatement
  | aliasedImport
  | importFromStatement
  | futureImportStatement
  | lambda
  | listComprehension
  | dictionaryComprehension
  | setComprehension
  | generatorExpression
  | yield
  | await
  | breakStatement
  | continueStatement
  | passStatement
  | member
  | subscript
  | list
  | dictionary
  | set
  | tuple
  | parenthesized
  | string
  | concatenatedString
  | expressionList
  | patternList
  | tuplePattern
  | listPattern
  | listSplat
  | listSplatPattern
  | dictionarySplatPattern
  | typedParameter
  | defaultParameter
  | typedDefaultParameter
  deriving DecidableEq

/-- The roles of parts inside phrases. -/
inductive Role where
  | part
  | name
  | parameters
  | returnType
  | superclasses
  | body
  | definition
  | condition
  | consequence
  | alternative
  | left
  | right
  | operator
  | operators
  | function
  | arguments
  | object
  | memberName
  | moduleName
  | type
  deriving DecidableEq

/-- The marks of layout. -/
inductive Mark where
  | lineEnd
  | blockOpen
  | blockClose
  deriving DecidableEq

/-- A tree over words. A leaf does not repeat its word: the leaves of a phrase, in order, stand for
the words that it was read from. -/
inductive Phrase where
  | leaf (kind : LeafKind)
  | mark (m : Mark)
  | node (kind : PhraseKind) (parts : List (Role × Phrase))

namespace Phrase

/-- A part without a role. -/
def part (p : Phrase) : Role × Phrase :=
  (.part, p)

/-- A word that its phrase implies, as a part. -/
def token : Role × Phrase :=
  (.part, .leaf .anonymous)

/-- A name, as a part without a role. -/
def namePart : Role × Phrase :=
  (.part, .leaf .identifier)

/-- A phrase of a kind that does not matter later. -/
def other (parts : List (Role × Phrase)) : Phrase :=
  .node .other parts

end Phrase

end Lookalike.Python
