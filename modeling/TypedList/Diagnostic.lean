import TypedList.Text.Escaped

/-!
# Diagnostics

A diagnostic says which rule of the grammar a text breaks, at which position, and what stands
there.  Its wording and its one-line display are fixed here.
-/

namespace TypedList

/-- What stands at a position of a text. -/
inductive Symbol
  | char (c : Char)
  | endOfInput
deriving DecidableEq, Repr

namespace Symbol

/-- What stands where the given text is left. -/
def atHead : Text → Symbol
  | [] => endOfInput
  | c :: _ => char c

/-- A symbol as diagnostics show it. -/
def display : Symbol → Text
  | char c => ['\''] ++ shownChar c ++ ['\'']
  | endOfInput => "end of input".toList

end Symbol

/-- The symbols that a list declaration needs at fixed points. -/
inductive Delimiter
  | assign
  | openBracket
  | closeBracket
  | semicolon
  | openingQuote
deriving DecidableEq, Repr

/-- The character of a delimiter. -/
def Delimiter.char : Delimiter → Char
  | assign => '='
  | openBracket => '['
  | closeBracket => ']'
  | semicolon => ';'
  | openingQuote => '"'

/-- The ways to break the grammar of list declarations. -/
inductive Violation
  | invalidIdentifierStart
  | digitInIdentifier
  | missingSymbol (expected : Delimiter)
  | missingElement
  | unterminatedString
  | missingDigitAfterSign
  | missingDigitAfterDot
  | trailingContent
deriving DecidableEq, Repr

/-- The wording of a violation. -/
def Violation.message : Violation → Text
  | invalidIdentifierStart => "identifier must start with an ASCII letter".toList
  | digitInIdentifier => "digit is not allowed in identifier".toList
  | missingSymbol expected => "expected '".toList ++ [expected.char] ++ "'".toList
  | missingElement => "expected element (number or string)".toList
  | unterminatedString => "string is not closed with a quote".toList
  | missingDigitAfterSign => "expected digit after sign".toList
  | missingDigitAfterDot => "expected at least one digit after '.'".toList
  | trailingContent => "unexpected characters after end of list".toList

/-- A violation with the position where it shows and what stands there.  Positions are counted
from zero. -/
structure Diagnostic where
  kind : Violation
  symbol : Symbol
  position : Nat
deriving DecidableEq, Repr

namespace Diagnostic

/-- The wording of a diagnostic's violation. -/
def message (d : Diagnostic) : Text :=
  d.kind.message

/-- The line of the error log for a diagnostic. -/
def display (d : Diagnostic) : Text :=
  "[position ".toList ++ decimal d.position ++ "] ".toList ++ d.message ++ " (found ".toList ++
    d.symbol.display ++ ")".toList

end Diagnostic

end TypedList
