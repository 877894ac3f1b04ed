import TypedList.Text.Basic

/-!
# Locations and spans

Lines and columns are counted from one.  A line ends behind its line feed, and every other
character takes one column.
-/

namespace TypedList

/-- A place in a text, by line and column. -/
structure Location where
  line : Nat
  column : Nat
deriving DecidableEq, Repr

namespace Location

/-- Where every text starts. -/
def start : Location := ⟨1, 1⟩

/-- The location behind a character that stands at the given one. -/
def step (l : Location) (c : Char) : Location :=
  if c = '\n' then ⟨l.line + 1, 1⟩ else ⟨l.line, l.column + 1⟩

/-- The location behind a text that starts at the given one. -/
def after (l : Location) (t : Text) : Location :=
  t.foldl step l

@[simp]
theorem after_nil (l : Location) : l.after [] = l :=
  rfl

@[simp]
theorem after_cons (l : Location) (c : Char) (t : Text) :
    l.after (c :: t) = (l.step c).after t :=
  rfl

@[simp]
theorem after_append (l : Location) (s t : Text) :
    l.after (s ++ t) = (l.after s).after t :=
  List.foldl_append

end Location

/-- The columns that a token takes up on the line where it starts. -/
structure Span where
  line : Nat
  startColumn : Nat
  endColumn : Nat
deriving DecidableEq, Repr

namespace Span

/-- The span of `length` characters from a location on, all counted as columns of its line. -/
def ofLength (l : Location) (length : Nat) : Span :=
  ⟨l.line, l.column, l.column + length - 1⟩

end Span

end TypedList
