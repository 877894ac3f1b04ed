import TypedList.Check.Basic

/-!
# Checking a list declaration

A declaration is a name, `=`, elements between brackets, and `;`, with white space anywhere
between them.  An element is a string in double quotes or a number with an optional sign.  The
check reads the text once, from left to right, and goes on behind every violation.

Main results:

- Theorem `Routine.forward_element`: checking an element never moves the cursor back, so the
  comma before it makes every round of `Routine.moreElements` shorter than the last.
-/

namespace TypedList

namespace Routine

/-! ## Names -/

/-- Passes over the letters and digits of a name and records every digit. -/
def nameTail : Routine := fun c =>
  let name := c.rest.takeWhile Char.isAlphanum
  let digits := (name.zipIdx c.offset).filter fun (ch, _) => ch.isDigit
  ⟨digits.map fun (ch, position) => .found ⟨.digitInIdentifier, .char ch, position⟩,
    c.skipWhile Char.isAlphanum⟩

/-- Checks the name of the list. -/
def name : Routine := fun c =>
  if c.startsWith Char.isAlpha then nameTail c.next
  else report .invalidIdentifierStart c

/-! ## Elements -/

/-- Whether a character is the sign of a number. -/
def isSign (c : Char) : Bool :=
  c = '+' || c = '-'

/-- Checks a string in double quotes; anything but a double quote may stand in it. -/
def string : Routine := fun c =>
  if c.startsWith (· = '"') then
    let closing := c.next.skipWhile (· ≠ '"')
    if closing.startsWith (· = '"') then .silent closing.next
    else report .unterminatedString closing
  else report (.missingSymbol .openingQuote) c

/-- Checks what may follow the digits of a number: a point and more digits. -/
def fraction : Routine := fun c =>
  if c.startsWith (· = '.') then
    let behind := c.next
    if behind.startsWith Char.isDigit then .silent (behind.skipWhile Char.isDigit)
    else report .missingDigitAfterDot behind
  else .silent c

/-- Checks the digits of a number and what may follow them. -/
def digits : Routine := fun c =>
  if c.startsWith Char.isDigit then fraction (c.skipWhile Char.isDigit)
  else report .missingDigitAfterSign c

/-- Checks a number: perhaps a sign, digits, perhaps a fraction. -/
def number : Routine := fun c =>
  if c.startsWith isSign then digits c.next else digits c

/-- Checks one element. -/
def element : Routine := fun c =>
  let c := c.skipBlanks
  if c.startsWith (· = '"') then string c
  else if c.startsWith fun ch => isSign ch || ch.isDigit then number c
  else report .missingElement c

/-- A string is passed over to its closing quote, or to the end of the text. -/
theorem forward_string : Forward string := by
  intro c
  have hclosing := Cursor.ahead_trans (Cursor.ahead_next c)
    (Cursor.ahead_skipWhile (· ≠ '"') c.next)
  simp only [string]
  split
  · split
    · exact Cursor.ahead_trans hclosing (Cursor.ahead_next _)
    · exact Cursor.ahead_trans hclosing (forward_report _ _)
  · exact forward_report _ c

/-- A point is passed over even if no digit follows it. -/
theorem forward_fraction : Forward fraction := by
  intro c
  simp only [fraction]
  split
  · split
    · exact Cursor.ahead_trans (Cursor.ahead_next c) (Cursor.ahead_skipWhile _ _)
    · exact Cursor.ahead_trans (Cursor.ahead_next c) (forward_report _ _)
  · exact Cursor.ahead_refl c

/-- Digits are passed over together with what may follow them. -/
theorem forward_digits : Forward digits := by
  intro c
  unfold digits
  split
  · exact Cursor.ahead_trans (Cursor.ahead_skipWhile _ c) (forward_fraction _)
  · exact forward_report _ c

/-- A sign is passed over before the digits are looked for. -/
theorem forward_number : Forward number := by
  intro c
  unfold number
  split
  · exact Cursor.ahead_trans (Cursor.ahead_next c) (forward_digits _)
  · exact forward_digits c

/-- Checking an element never moves the cursor back. -/
theorem forward_element : Forward element := by
  intro c
  have hblanks := Cursor.ahead_skipWhile isWhiteSpace c
  simp only [element]
  split
  · exact Cursor.ahead_trans hblanks (forward_string _)
  · split
    · exact Cursor.ahead_trans hblanks (forward_number _)
    · exact Cursor.ahead_trans hblanks (forward_report _ _)

/-- Checks the elements behind the first one.  Each follows a comma; the last comma may stand
right before the closing bracket. -/
def moreElements (c : Cursor) : Pass :=
  let separator := c.skipBlanks
  if _h : separator.startsWith (· = ',') then
    let following := separator.next.skipBlanks
    if following.startsWith (· = ']') then .silent following
    else
      let p := element following
      p.append (moreElements p.cursor)
  else .silent separator
termination_by c.rest.length
decreasing_by
  have hblanks := (Cursor.ahead_skipWhile isWhiteSpace c).length_le
  have hcomma := Cursor.length_next_lt _h
  have helement := (Cursor.ahead_trans
    (Cursor.ahead_skipWhile isWhiteSpace c.skipBlanks.next)
    (forward_element c.skipBlanks.next.skipBlanks)).length_le
  exact Nat.lt_of_le_of_lt helement (Nat.lt_of_lt_of_le hcomma hblanks)

/-- Checks all elements.  There need be none. -/
def elements : Routine := fun c =>
  let c := c.skipBlanks
  if c.rest.isEmpty || c.startsWith (· = ']') then .silent c
  else
    let p := element c
    p.append (moreElements p.cursor)

/-! ## The whole declaration -/

/-- Checks that nothing is left, and passes over it. -/
def ending : Routine := fun c =>
  if c.rest.isEmpty then .silent c
  else ⟨(report .trailingContent c).events, c.toEnd⟩

/-- Checks a list declaration. -/
def declaration : Routine :=
  inOrder
    [blanks, name,
      blanks, expect .assign,
      blanks, expect .openBracket,
      elements,
      blanks, expect .closeBracket,
      blanks, expect .semicolon,
      blanks, ending]

end Routine

/-- All that checking a text records. -/
def checkEvents (t : Text) : List Event :=
  (Routine.declaration (.start t)).events

/-- The violations of the grammar in a text, in the order in which they are found.  There are none
exactly when the text is a list declaration. -/
def diagnose (t : Text) : List Diagnostic :=
  (checkEvents t).filterMap Event.diagnostic?

end TypedList
