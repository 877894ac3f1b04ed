import TypedList.Json.Value

/-!
# Writing JSON

The indented form: every item of an array and every field of an object stands on a line of its
own, two spaces further in than the brackets around it.
-/

namespace TypedList

namespace Json

/-! ## Strings -/

/-- The letter that stands behind a backslash in a JSON string for a character, where it has one. -/
def escapeLetter? : Char → Option Char
  | '"' => some '"'
  | '\\' => some '\\'
  | '\x08' => some 'b'
  | '\t' => some 't'
  | '\n' => some 'n'
  | '\x0c' => some 'f'
  | '\r' => some 'r'
  | _ => none

/-- A character inside a JSON string.  Only quotes, backslashes and the characters below U+0020
are escaped. -/
def stringChar (c : Char) : Text :=
  match escapeLetter? c with
  | some letter => ['\\', letter]
  | none =>
    if c.toNat < 0x20 then
      ['\\', 'u', '0', '0', Nat.digitChar (c.toNat / 16), Nat.digitChar (c.toNat % 16)]
    else [c]

/-- A text as a JSON string. -/
def stringLiteral (t : Text) : Text :=
  '"' :: t.flatMap stringChar ++ ['"']

/-! ## Values -/

/-- The spaces that a line starts with at a nesting depth. -/
def indent (depth : Nat) : Text :=
  List.replicate (2 * depth) ' '

/-- Entries between brackets, each on a line of its own one level further in. -/
def block (opening closing : Char) (depth : Nat) (entries : List Text) : Text :=
  if entries.isEmpty then [opening, closing]
  else
    opening :: '\n' ::
      [',', '\n'].intercalate (entries.map (indent (depth + 1) ++ ·)) ++
        '\n' :: indent depth ++ [closing]

mutual

/-- A value as text, inside as many brackets as the depth says. -/
def pretty (depth : Nat) : Json → Text
  | bool true => "true".toList
  | bool false => "false".toList
  | number value => decimal value
  | string text => stringLiteral text
  | array items => block '[' ']' depth (prettyItems (depth + 1) items)
  | object fields => block '\x7b' '\x7d' depth (prettyFields (depth + 1) fields)

/-- The items of an array as texts. -/
def prettyItems (depth : Nat) : List Json → List Text
  | [] => []
  | item :: rest => pretty depth item :: prettyItems depth rest

/-- The fields of an object as texts, each with its name. -/
def prettyFields (depth : Nat) : List (Text × Json) → List Text
  | [] => []
  | (name, value) :: rest =>
    (stringLiteral name ++ [':', ' '] ++ pretty depth value) :: prettyFields depth rest

end

/-- A value as text, from the start of a line on. -/
def render (value : Json) : Text :=
  value.pretty 0

end Json

end TypedList
