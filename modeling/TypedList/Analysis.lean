import TypedList.Token.Scan
import TypedList.Check.Declaration

/-!
# Analyses

An analysis of a text is its tokens and its diagnostics, each found without the other.
-/

namespace TypedList

/-- The tokens and the diagnostics of a text. -/
structure Analysis where
  tokens : List Token
  errors : List Diagnostic
deriving DecidableEq, Repr

namespace Analysis

/-- Whether the text is a list declaration. -/
def isValid (a : Analysis) : Bool :=
  a.errors.isEmpty

/-- The number of tokens that are errors. -/
def lexicalErrors (a : Analysis) : Nat :=
  a.tokens.countP Token.isError

end Analysis

/-- The analysis of a text. -/
def analyze (mode : QuoteMode) (t : Text) : Analysis :=
  ⟨scan mode t, diagnose t⟩

/-- The parts of an analysis that a report shows. -/
inductive Parts
  | tokens
  | errors
  | both
deriving DecidableEq, Repr

namespace Parts

/-- Whether the tokens are shown. -/
def includeTokens : Parts → Bool
  | tokens => true
  | errors => false
  | both => true

/-- Whether the diagnostics are shown. -/
def includeErrors : Parts → Bool
  | tokens => false
  | errors => true
  | both => true

end Parts

end TypedList
