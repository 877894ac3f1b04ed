import TypedList.Text.Basic
import TypedList.Unicode.GraphemeExtend
import TypedList.Unicode.Unprintable

/-!
# Escaped texts

How characters are shown where a reader must be able to tell each of them apart and no line may
be broken: behind a backslash, or by their code point.  An `EscapeRule` fixes the two choices in
which the shown forms differ.
-/

namespace TypedList

/-- What a shown form escapes beyond the unprintable characters, the backslash and the
characters with a letter of their own. -/
structure EscapeRule where
  /-- The quotes written behind a backslash. -/
  quotes : List Char
  /-- Whether a mark that attaches to the character before it is written by its code point. -/
  extending : Bool

/-- The letter that stands behind a backslash for a character, where it has one. -/
def escapeLetter? : Char → Option Char
  | '\x00' => some '0'
  | '\t' => some 't'
  | '\r' => some 'r'
  | '\n' => some 'n'
  | '\\' => some '\\'
  | _ => none

/-- A character by its code point: `\u`, then the hexadecimal number in braces. -/
def codePointEscape (c : Char) : Text :=
  ['\\', 'u', '\x7b'] ++ hexadecimal c.toNat ++ ['\x7d']

/-- The shown form of one character. -/
def escapeChar (rule : EscapeRule) (c : Char) : Text :=
  match escapeLetter? c with
  | some letter => ['\\', letter]
  | none =>
    if c ∈ rule.quotes then ['\\', c]
    else if (rule.extending && isExtendingMark c) || isUnprintable c then codePointEscape c
    else [c]

/-! ## The three shown forms -/

/-- A character on its own: both quotes are escaped, and so is a mark that would attach to
whatever stands before it. -/
def shownChar (c : Char) : Text :=
  escapeChar ⟨['\'', '"'], true⟩ c

/-- A whole text: as its characters on their own, but only the first character can attach to
something outside the text. -/
def shownText : Text → Text
  | [] => []
  | c :: rest => shownChar c ++ rest.flatMap (escapeChar ⟨['\'', '"'], false⟩)

/-- A text in double quotes: the single quote needs no escape there. -/
def quotedText (t : Text) : Text :=
  ['"'] ++ t.flatMap (escapeChar ⟨['"'], true⟩) ++ ['"']

end TypedList
