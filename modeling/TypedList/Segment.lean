import TypedList.Text.Basic
import TypedList.Unicode.WhiteSpace
import TypedList.Unicode.Alphabetic

/-!
# Cutting a text into segments

The lexical structure of a text, before any token is made: white space, words, numbers, quoted
pieces, and the characters that stand alone.  Each segment goes on as far as its kind allows.

Main results:

- Theorem `Segment.first_lossless`: the first segment and what is left behind it make up the
  text.
- Theorem `Segment.length_first_le`: something is always cut off, so that cutting comes to an end.
-/

namespace TypedList

/-- Whether a double quote is a token of its own or opens a string literal. -/
inductive QuoteMode
  | marker
  | literal
deriving DecidableEq, Repr

/-- A piece of a text that the rules of the language keep together. -/
inductive Segment
  /-- A white space character, which no token covers. -/
  | blank (c : Char)
  /-- An ASCII letter and the word characters behind it. -/
  | word (text : Text)
  /-- Digits with at most one point among them. -/
  | number (text : Text)
  /-- What follows a double quote, up to the next one or, unclosed, to the end of the text. -/
  | quoted (body : Text) (closed : Bool)
  /-- Any other character. -/
  | mark (c : Char)
deriving DecidableEq, Repr

/-- Whether a character belongs to the lexeme of the word that it stands in. -/
def isNameChar (c : Char) : Bool :=
  c.isAlphanum || c = '_'

/-- Whether a character carries a word on; letters beyond ASCII do so without belonging to its
lexeme. -/
def isWordChar (c : Char) : Bool :=
  isNameChar c || isAlphabetic c

/-- A number and what is left behind it: digits, then perhaps a point and more digits. -/
def splitNumber (t : Text) : Text × Text :=
  match t.dropWhile Char.isDigit with
  | '.' :: rest =>
    (t.takeWhile Char.isDigit ++ '.' :: rest.takeWhile Char.isDigit, rest.dropWhile Char.isDigit)
  | rest => (t.takeWhile Char.isDigit, rest)

/-- Cutting a number off loses nothing. -/
theorem splitNumber_lossless (t : Text) : (splitNumber t).1 ++ (splitNumber t).2 = t := by
  unfold splitNumber
  split <;> rename_i h
  · rw [List.append_assoc, List.cons_append, List.takeWhile_append_dropWhile, ← h,
      List.takeWhile_append_dropWhile]
  · exact List.takeWhile_append_dropWhile

namespace Segment

/-- The characters of a segment. -/
def text : Segment → Text
  | blank c => [c]
  | word text => text
  | number text => text
  | quoted body true => '"' :: body ++ ['"']
  | quoted body false => '"' :: body
  | mark c => [c]

/-- The quoted piece behind an opening quote, and what is left behind it. -/
def quotedFrom (t : Text) : Segment × Text :=
  match t.dropWhile (· ≠ '"') with
  | [] => (quoted t false, [])
  | _ :: rest => (quoted (t.takeWhile (· ≠ '"')) true, rest)

/-- Neither does cutting a quoted piece off, with the quote in front of it. -/
theorem quotedFrom_lossless (t : Text) :
    (quotedFrom t).1.text ++ (quotedFrom t).2 = '"' :: t := by
  have hsplit : t.takeWhile (· ≠ '"') ++ t.dropWhile (· ≠ '"') = t :=
    List.takeWhile_append_dropWhile
  unfold quotedFrom
  split <;> rename_i h
  · simp [text]
  · rename_i c rest
    have hc : c = '"' := by
      have hhead := List.head?_dropWhile_not (fun x : Char => x ≠ '"') t
      rw [h] at hhead
      simpa using hhead
    subst hc
    rw [h] at hsplit
    simpa [text] using hsplit

/-- The segment at the start of a text that begins with the given character, and what is left
behind it. -/
def first (mode : QuoteMode) (c : Char) (rest : Text) : Segment × Text :=
  if isWhiteSpace c then (blank c, rest)
  else if c.isAlpha then (word (c :: rest.takeWhile isWordChar), rest.dropWhile isWordChar)
  else if c.isDigit then
    let split := splitNumber (c :: rest)
    (number split.1, split.2)
  else if c = '"' ∧ mode = .literal then quotedFrom rest
  else (mark c, rest)

/-- The first segment and what is left behind it make up the text. -/
theorem first_lossless (mode : QuoteMode) (c : Char) (rest : Text) :
    (first mode c rest).1.text ++ (first mode c rest).2 = c :: rest := by
  unfold first
  split
  · rfl
  · split
    · simp [text]
    · split
      · exact splitNumber_lossless _
      · split <;> rename_i h
        · rw [quotedFrom_lossless, h.1]
        · rfl

/-- A cut number that starts with a digit is not empty. -/
theorem splitNumber_fst_ne_nil {c : Char} (rest : Text) (hc : c.isDigit = true) :
    (splitNumber (c :: rest)).1 ≠ [] := by
  unfold splitNumber
  split <;> simp [hc]

/-- No segment at the start of a text is empty. -/
theorem first_text_ne_nil (mode : QuoteMode) (c : Char) (rest : Text) :
    (first mode c rest).1.text ≠ [] := by
  unfold first
  split
  · simp [text]
  · split
    · simp [text]
    · split <;> rename_i h
      · exact splitNumber_fst_ne_nil rest h
      · split
        · unfold quotedFrom
          split <;> simp [text]
        · simp [text]

/-- Something is always cut off. -/
theorem length_first_le (mode : QuoteMode) (c : Char) (rest : Text) :
    (first mode c rest).2.length ≤ rest.length := by
  have hlength := congrArg List.length (first_lossless mode c rest)
  have hpos := List.length_pos_iff.mpr (first_text_ne_nil mode c rest)
  simp only [List.length_append, List.length_cons] at hlength
  omega

end Segment

/-- The segments of a text, in order. -/
def segments (mode : QuoteMode) : Text → List Segment
  | [] => []
  | c :: rest =>
    let cut := Segment.first mode c rest
    cut.1 :: segments mode cut.2
termination_by t => t.length
decreasing_by
  exact Nat.lt_succ_of_le (Segment.length_first_le mode c rest)

@[simp]
theorem segments_nil (mode : QuoteMode) : segments mode [] = [] := by
  rw [segments]

/-- The first segment comes in front of those of what is left. -/
theorem segments_cons (mode : QuoteMode) (c : Char) (rest : Text) :
    segments mode (c :: rest) =
      (Segment.first mode c rest).1 :: segments mode (Segment.first mode c rest).2 := by
  rw [segments]

end TypedList
