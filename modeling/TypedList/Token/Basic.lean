import TypedList.Location

/-!
# Tokens

A token is a piece of the text with its code and its place.  Text that fits no code becomes a
token of the code `error`, which carries the fault that made it one.
-/

namespace TypedList

/-- The kinds of token. -/
inductive Code
  | integer
  | float
  | identifier
  | assign
  | minus
  | comma
  | openBracket
  | closeBracket
  | semicolon
  | stringLiteral
  | keyword
  | plus
  | quoteMarker
  | error
deriving DecidableEq, Repr

namespace Code

/-- The number of a code in the token table. -/
def number : Code → Nat
  | integer => 1
  | float => 2
  | identifier => 3
  | assign => 4
  | minus => 5
  | comma => 6
  | openBracket => 7
  | closeBracket => 8
  | semicolon => 9
  | stringLiteral => 10
  | keyword => 11
  | plus => 13
  | quoteMarker => 14
  | error => 99

/-- The number in the table tells the code. -/
theorem number_injective {c d : Code} (h : c.number = d.number) : c = d := by
  cases c <;> cases d <;> first | rfl | exact absurd h (by decide)

/-- The name of a code in the log and in reports. -/
def name : Code → Text
  | integer => "Integer".toList
  | float => "Float".toList
  | identifier => "Identifier".toList
  | assign => "AssignOp".toList
  | minus => "Minus".toList
  | comma => "Comma".toList
  | openBracket => "LBracket".toList
  | closeBracket => "RBracket".toList
  | semicolon => "Semicolon".toList
  | stringLiteral => "StringLiteral".toList
  | keyword => "Keyword".toList
  | plus => "Plus".toList
  | quoteMarker => "StringQuoteMarker".toList
  | error => "Error".toList

/-- What the token table calls a token of the code. -/
def label : Code → Text
  | integer => "integer".toList
  | float => "float".toList
  | identifier => "identifier".toList
  | assign => "assignment operator".toList
  | minus => "minus sign".toList
  | comma => "comma".toList
  | openBracket => "opening bracket".toList
  | closeBracket => "closing bracket".toList
  | semicolon => "end of statement".toList
  | stringLiteral => "string".toList
  | keyword => "keyword".toList
  | plus => "plus sign".toList
  | quoteMarker => "quote".toList
  | error => "invalid character".toList

/-- The code of a character that is a token by itself. -/
def ofPunctuation? : Char → Option Code
  | '=' => some assign
  | '[' => some openBracket
  | ']' => some closeBracket
  | ',' => some comma
  | ';' => some semicolon
  | '+' => some plus
  | '-' => some minus
  | _ => none

/-- The reserved words. -/
def keywords : List Text :=
  ["List".toList]

/-- The code of a word: reserved words are keywords, all others identifiers. -/
def ofWord (word : Text) : Code :=
  if word ∈ keywords then keyword else identifier

end Code

/-- Why a piece of text fits no code. -/
inductive Fault
  | invalidCharacter
  | invalidIdentifierCharacter
  | malformedNumber
  | unterminatedString
deriving DecidableEq, Repr

/-- The wording of a fault. -/
def Fault.message : Fault → Text
  | invalidCharacter => "invalid character".toList
  | invalidIdentifierCharacter => "invalid character in identifier".toList
  | malformedNumber => "malformed number".toList
  | unterminatedString => "unterminated string".toList

/-- A piece of the text with its code, its place and, where it has one, its fault. -/
structure Token where
  code : Code
  lexeme : Text
  span : Span
  fault : Option Fault
deriving DecidableEq, Repr

namespace Token

/-- A token without a fault. -/
def sound (code : Code) (lexeme : Text) (span : Span) : Token :=
  ⟨code, lexeme, span, none⟩

/-- A token of the code `error` with its fault. -/
def faulty (fault : Fault) (lexeme : Text) (span : Span) : Token :=
  ⟨.error, lexeme, span, some fault⟩

/-- Whether the token has the code `error`. -/
def isError (token : Token) : Bool :=
  token.code = .error

/-- What the token table calls the token: its fault, or else its code. -/
def label (token : Token) : Text :=
  match token.fault with
  | some fault => fault.message
  | none => token.code.label

end Token

end TypedList
