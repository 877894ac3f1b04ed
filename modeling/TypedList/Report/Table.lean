import TypedList.Token.Basic
import TypedList.Text.Escaped
import TypedList.Unicode.WhiteSpace

/-!
# The token table

One line per token under a header and a rule.  Every column is as wide as its widest cell, and no
line ends in spaces.  No cell can be padded to more than `widestPadding` characters, so a table with
a wider column cannot be printed at all, although its text, `tokenTable`, is well defined.
-/

namespace TypedList

/-- The cells of one line of a table. -/
abbrev Row := List Text

namespace Row

/-- The widths that the columns need for one more row. -/
def widen (widths : List Nat) (row : Row) : List Nat :=
  List.zipWith (fun width cell => max width cell.length) widths row

/-- A cell with the spaces that fill its column, for a width of any size; `padding` is what can be
printed of it. -/
def pad (width : Nat) (cell : Text) : Text :=
  cell ++ List.replicate (width - cell.length) ' '

/-- A row as a line, without the spaces that only fill its last column. -/
def line (widths : List Nat) (row : Row) : Text :=
  trimEnd isWhiteSpace (" | ".toList.intercalate (List.zipWith pad widths row))

end Row

/-- A line of dashes over the columns, with a cross at every border between two of them. -/
def ruleLine (widths : List Nat) : Text :=
  "-+-".toList.intercalate (widths.map fun width => List.replicate width '-')

/-- Rows under a header and a rule, one line each. -/
def layOut (header : Row) (rows : List Row) : Text :=
  let widths := rows.foldl Row.widen (header.map List.length)
  let lines := header.line widths :: ruleLine widths :: rows.map (Row.line widths)
  lines.flatMap (· ++ ['\n'])

/-! ## Rows of tokens -/

/-- The header of the token table. -/
def tableHeader : Row :=
  ["Code".toList, "Type".toList, "Lexeme".toList, "Line".toList, "Start".toList, "End".toList]

/-- The row of a token. -/
def Token.row (token : Token) : Row :=
  [decimal token.code.number, token.label, shownText token.lexeme, decimal token.span.line,
    decimal token.span.startColumn, decimal token.span.endColumn]

/-- The text of the token table, however wide its columns are. -/
def tokenTable (tokens : List Token) : Text :=
  layOut tableHeader (tokens.map Token.row)

/-! ## Printing the table

Padding takes its width in sixteen bits.  A wider column breaks the program off at the first cell
that is padded, which is one of the header's; nothing of the table has left the program then. -/

/-- The greatest width that a cell can be padded to. -/
def widestPadding : Nat :=
  65535

/-- Why a table cannot be printed. -/
inductive TableFailure
  /-- A column is wider than padding can make it. -/
  | columnTooWide
deriving DecidableEq, Repr

/-- The message that the program breaks off with. -/
def TableFailure.message : TableFailure → Text
  | columnTooWide => "Formatting argument out of range".toList

/-- A cell with the spaces that fill its column, if they can be printed. -/
def Row.padding (width : Nat) (cell : Text) : Except TableFailure Text :=
  if width ≤ widestPadding then .ok (pad width cell) else .error .columnTooWide

/-- The line of a row, cell by cell. -/
def Row.print (widths : List Nat) (row : Row) : Except TableFailure Text := do
  let cells ← (widths.zip row).mapM fun column => padding column.1 column.2
  return trimEnd isWhiteSpace (" | ".toList.intercalate cells)

/-- The token table as it is printed: the header, the rule, and then the rows. -/
def printTable (tokens : List Token) : Except TableFailure Text := do
  let rows := tokens.map Token.row
  let widths := rows.foldl Row.widen (tableHeader.map List.length)
  let top ← tableHeader.print widths
  let body ← rows.mapM (Row.print widths)
  return (top :: ruleLine widths :: body).flatMap (· ++ ['\n'])

end TypedList
