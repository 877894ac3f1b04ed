import TypedList.Diagnostic

/-!
# Synchronization

After a violation the check goes on at the next synchronization character of the point of the
grammar where the violation shows.  The end of the text always ends the search.
-/

namespace TypedList

/-- The characters at which a check may go on. -/
abbrev SyncChars := List Char

/-- The points of the grammar at which a check can lose its way. -/
inductive GrammarPoint
  | identifier
  | assign
  | openList
  | element
  | closeList
  | ending
deriving DecidableEq, Repr

/-- The characters at which a check goes on that has lost its way at a point of the grammar: those
that start what follows the missing piece. -/
def GrammarPoint.syncChars : GrammarPoint → SyncChars
  | identifier => ['=']
  | assign => ['[']
  | openList => [']']
  | element => [',', ']', ';']
  | closeList => [';']
  | ending => []

/-- The point of the grammar where a missing delimiter is noticed. -/
def Delimiter.grammarPoint : Delimiter → GrammarPoint
  | assign => .assign
  | openBracket => .openList
  | closeBracket => .closeList
  | semicolon => .ending
  | openingQuote => .element

/-- The point of the grammar that a violation loses the way at.  A digit in a name and text behind
the declaration do not: the check knows where it is. -/
def Violation.grammarPoint? : Violation → Option GrammarPoint
  | invalidIdentifierStart => some .identifier
  | digitInIdentifier => none
  | missingSymbol expected => some expected.grammarPoint
  | missingElement => some .element
  | unterminatedString => some .element
  | missingDigitAfterSign => some .element
  | missingDigitAfterDot => some .element
  | trailingContent => none

end TypedList
