import TypedList.Json.Value

/-!
# Reading JSON

A reader for JSON texts whose numbers are natural: white space may stand between any two symbols,
and every escape of a string is understood.  It takes nothing for granted about how the text was
written.
-/

namespace TypedList

namespace Json

/-- Whether a character is white space in JSON. -/
def isSpace (c : Char) : Bool :=
  c = ' ' || c = '\n' || c = '\r' || c = '\t'

/-- What is left behind the white space at the start of a text. -/
def skipSpaces (t : Text) : Text :=
  t.dropWhile isSpace

/-! ## Strings -/

/-- The character that a letter behind a backslash stands for. -/
def unescape? : Char → Option Char
  | '"' => some '"'
  | '\\' => some '\\'
  | '/' => some '/'
  | 'b' => some '\x08'
  | 'f' => some '\x0c'
  | 'n' => some '\n'
  | 'r' => some '\r'
  | 't' => some '\t'
  | _ => none

/-- The value of a hexadecimal digit. -/
def hexDigit? (c : Char) : Option Nat :=
  if c.isDigit then some (c.toNat - '0'.toNat)
  else if 'a' ≤ c ∧ c ≤ 'f' then some (c.toNat - 'a'.toNat + 10)
  else if 'A' ≤ c ∧ c ≤ 'F' then some (c.toNat - 'A'.toNat + 10)
  else none

/-- The value of four hexadecimal digits. -/
def hexUnit? (a b c d : Char) : Option Nat := do
  return (((← hexDigit? a) * 16 + (← hexDigit? b)) * 16 + (← hexDigit? c)) * 16 + (← hexDigit? d)

/-- The character that two halves of a surrogate pair stand for. -/
def ofSurrogates? (high low : Nat) : Option Char :=
  if 0xD800 ≤ high ∧ high < 0xDC00 ∧ 0xDC00 ≤ low ∧ low < 0xE000 then
    some (Char.ofNat (0x10000 + (high - 0xD800) * 0x400 + (low - 0xDC00)))
  else none

/-- The character with a code point, unless that is a surrogate. -/
def ofUnit? (unit : Nat) : Option Char :=
  if unit.isValidChar then some (Char.ofNat unit) else none

/-- Reads the characters of a string up to its closing quote. -/
def readString : Text → Option (Text × Text)
  | [] => none
  | '"' :: rest => some ([], rest)
  | '\\' :: 'u' :: a :: b :: c :: d :: rest =>
    match hexUnit? a b c d with
    | none => none
    | some unit =>
      match ofUnit? unit, rest with
      | some ch, rest => (readString rest).map fun (t, left) => (ch :: t, left)
      | none, '\\' :: 'u' :: e :: f :: g :: h :: rest =>
        match (hexUnit? e f g h).bind (ofSurrogates? unit) with
        | none => none
        | some ch => (readString rest).map fun (t, left) => (ch :: t, left)
      | none, _ => none
  | '\\' :: letter :: rest =>
    match unescape? letter with
    | none => none
    | some ch => (readString rest).map fun (t, left) => (ch :: t, left)
  | ch :: rest =>
    if ch = '\\' ∨ ch.toNat < 0x20 then none
    else (readString rest).map fun (t, left) => (ch :: t, left)

/-- Reads a natural number: digits without a leading zero, and nothing behind them that would make
them another number. -/
def readNumber (t : Text) : Option (Nat × Text) :=
  let digits := t.takeWhile Char.isDigit
  let rest := t.dropWhile Char.isDigit
  if digits = [] ∨ (digits.head? = some '0' ∧ digits ≠ ['0']) then none
  else if rest.head?.any fun c => c = '.' || c = 'e' || c = 'E' then none
  else some (Nat.ofDigitChars 10 digits 0, rest)

/-! ## Values -/

mutual

/-- Reads a value at the start of a text.  The first argument bounds how often brackets and commas
may follow each other. -/
def readValue : Nat → Text → Option (Json × Text)
  | 0, _ => none
  | bound + 1, t =>
    match skipSpaces t with
    | 't' :: 'r' :: 'u' :: 'e' :: rest => some (bool true, rest)
    | 'f' :: 'a' :: 'l' :: 's' :: 'e' :: rest => some (bool false, rest)
    | '"' :: rest => (readString rest).map fun (s, left) => (string s, left)
    | '[' :: rest =>
      match skipSpaces rest with
      | ']' :: left => some (array [], left)
      | _ => (readItems bound rest).map fun (items, left) => (array items, left)
    | '\x7b' :: rest =>
      match skipSpaces rest with
      | '\x7d' :: left => some (object [], left)
      | _ => (readFields bound rest).map fun (fields, left) => (object fields, left)
    | rest => (readNumber rest).map fun (n, left) => (number n, left)

/-- Reads one or more items up to the bracket that closes their array. -/
def readItems : Nat → Text → Option (List Json × Text)
  | 0, _ => none
  | bound + 1, t =>
    match readValue bound t with
    | none => none
    | some (item, rest) =>
      match skipSpaces rest with
      | ',' :: rest => (readItems bound rest).map fun (items, left) => (item :: items, left)
      | ']' :: left => some ([item], left)
      | _ => none

/-- Reads one or more fields up to the brace that closes their object. -/
def readFields : Nat → Text → Option (List (Text × Json) × Text)
  | 0, _ => none
  | bound + 1, t =>
    match skipSpaces t with
    | '"' :: rest =>
      match readString rest with
      | none => none
      | some (name, rest) =>
        match skipSpaces rest with
        | ':' :: rest =>
          match readValue bound rest with
          | none => none
          | some (value, rest) =>
            match skipSpaces rest with
            | ',' :: rest =>
              (readFields bound rest).map fun (fields, left) => ((name, value) :: fields, left)
            | '\x7d' :: left => some ([(name, value)], left)
            | _ => none
        | _ => none
    | _ => none

end

end Json

end TypedList
