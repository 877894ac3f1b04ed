import TypedList.Analysis
import TypedList.Json.Printer

/-!
# Reports in JSON

A report is an object that says whether the text is valid and holds a row for each token and each
diagnostic, as far as they are asked for.
-/

namespace TypedList

/-- The name of a delimiter in reports. -/
def Delimiter.name : Delimiter → Text
  | assign => "assign".toList
  | openBracket => "l_bracket".toList
  | closeBracket => "r_bracket".toList
  | semicolon => "semicolon".toList
  | openingQuote => "opening_quote".toList

/-- A violation in reports: its name, and for a missing symbol also which. -/
def Violation.toJson : Violation → Json
  | invalidIdentifierStart => .string "invalid_identifier_start".toList
  | digitInIdentifier => .string "digit_in_identifier".toList
  | missingSymbol expected => .object [("missing_symbol".toList, .string expected.name)]
  | missingElement => .string "missing_element".toList
  | unterminatedString => .string "unterminated_string".toList
  | missingDigitAfterSign => .string "missing_digit_after_sign".toList
  | missingDigitAfterDot => .string "missing_digit_after_dot".toList
  | trailingContent => .string "trailing_content".toList

/-- What stands at a position, in reports. -/
def Symbol.toJson : Symbol → Json
  | char c => .object [("char".toList, .string [c])]
  | endOfInput => .string "end_of_input".toList

/-- The row of a token. -/
def Token.toJson (token : Token) : Json :=
  .object
    [("code".toList, .number token.code.number),
      ("kind".toList, .string token.code.name),
      ("label".toList, .string token.label),
      ("lexeme".toList, .string token.lexeme),
      ("line".toList, .number token.span.line),
      ("start".toList, .number token.span.startColumn),
      ("end".toList, .number token.span.endColumn)]

/-- The row of a diagnostic. -/
def Diagnostic.toJson (d : Diagnostic) : Json :=
  .object
    [("message".toList, .string d.message),
      ("found".toList, .string d.symbol.display),
      ("kind".toList, d.kind.toJson),
      ("symbol".toList, d.symbol.toJson),
      ("position".toList, .number d.position)]

namespace Analysis

/-- The report on an analysis. -/
def toJson (a : Analysis) (parts : Parts) : Json :=
  let tokens := if parts.includeTokens then
    [("tokens".toList, .array (a.tokens.map Token.toJson))] else []
  let errors := if parts.includeErrors then
    [("errors".toList, .array (a.errors.map Diagnostic.toJson))] else []
  .object (("valid".toList, .bool a.isValid) :: tokens ++ errors)

/-- The report on an analysis as text. -/
def jsonReport (a : Analysis) (parts : Parts) : Text :=
  (a.toJson parts).render

end Analysis

end TypedList
