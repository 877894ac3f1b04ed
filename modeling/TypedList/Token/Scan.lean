import TypedList.Segment
import TypedList.Token.Basic

/-!
# The tokens of a text

Every segment of a text gives its tokens at the location where it stands: none for white space,
one for most segments, and for a word one token followed by an error token for each letter beyond
ASCII inside it.

Main results:

- Theorem `Segment.foreignLetters_cons`: the letters that a word reports are found one by one, each
  at its own column.
-/

namespace TypedList

namespace Segment

/-- The error tokens for the letters of a word that cannot stand in a name. -/
def foreignLetters (l : Location) (word : Text) : List Token :=
  (word.zipIdx l.column).filterMap fun (c, column) =>
    if isNameChar c then none
    else some (.faulty .invalidIdentifierCharacter [c] (.ofLength ⟨l.line, column⟩ 1))

/-- Every letter of a word takes one column. -/
theorem foreignLetters_cons (l : Location) (c : Char) (word : Text) :
    foreignLetters l (c :: word) =
      (if isNameChar c then []
        else [.faulty .invalidIdentifierCharacter [c] (.ofLength l 1)]) ++
          foreignLetters ⟨l.line, l.column + 1⟩ word := by
  by_cases hc : isNameChar c = true <;> simp [foreignLetters, List.zipIdx_cons, hc]

/-- The tokens of a word: the word without the letters that cannot stand in a name, but over all
its columns, and then those letters. -/
def wordTokens (l : Location) (word : Text) : List Token :=
  let lexeme := word.filter isNameChar
  .sound (.ofWord lexeme) lexeme (.ofLength l word.length) :: foreignLetters l word

/-- The token of a number: a point makes it a float, and without a digit it is none. -/
def numberToken (l : Location) (lexeme : Text) : Token :=
  let span := Span.ofLength l lexeme.length
  if lexeme.all (!·.isDigit) then .faulty .malformedNumber lexeme span
  else if '.' ∈ lexeme then .sound .float lexeme span
  else .sound .integer lexeme span

/-- The token of a character that stands alone. -/
def markToken (l : Location) (c : Char) : Token :=
  let span := Span.ofLength l 1
  if c = '"' then .sound .quoteMarker [c] span
  else
    match Code.ofPunctuation? c with
    | some code => .sound code [c] span
    | none => .faulty .invalidCharacter [c] span

/-- The tokens of a segment that stands at the given location.  The columns of a quoted segment
count all of its characters, on whatever line they stand. -/
def tokens (l : Location) : Segment → List Token
  | blank _ => []
  | word text => wordTokens l text
  | number text => [numberToken l text]
  | quoted body closed =>
    let span := Span.ofLength l (quoted body closed).text.length
    if closed then [.sound .stringLiteral body span]
    else [.faulty .unterminatedString body span]
  | mark c => [markToken l c]

end Segment

/-- The tokens of segments that stand one after another from a location on. -/
def tokensFrom (l : Location) : List Segment → List Token
  | [] => []
  | segment :: rest => segment.tokens l ++ tokensFrom (l.after segment.text) rest

/-- The tokens of a text. -/
def scan (mode : QuoteMode) (t : Text) : List Token :=
  tokensFrom .start (segments mode t)

end TypedList
