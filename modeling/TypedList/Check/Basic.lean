import TypedList.Cursor

/-!
# Routines of a check

A routine starts at a cursor, records what it finds, and leaves the cursor where the next routine
takes over.  A violation that shows at the cursor is recorded by `Routine.report`, which also
decides where the check goes on; the digits of a name, which are reported behind it, are recorded by
the routine for the name itself.

Main results:

- Theorems `Routine.forward_report` and `Routine.forward_expect`: neither reporting a violation nor
  looking for a delimiter moves the cursor back.
-/

namespace TypedList

/-- What a check records. -/
inductive Event
  /-- A violation was found. -/
  | found (diagnostic : Diagnostic)
  /-- The check went on at a position, some characters behind the violation. -/
  | resumed (position skipped : Nat)
deriving DecidableEq, Repr

/-- The diagnostic that an event records. -/
def Event.diagnostic? : Event → Option Diagnostic
  | found diagnostic => some diagnostic
  | resumed _ _ => none

/-- What a routine records, in order, and where it leaves the cursor. -/
structure Pass where
  events : List Event
  cursor : Cursor
deriving DecidableEq, Repr

namespace Pass

/-- A pass that records nothing. -/
def silent (c : Cursor) : Pass :=
  ⟨[], c⟩

/-- A pass that goes on with another one, which started where the first one ended. -/
def append (p q : Pass) : Pass :=
  ⟨p.events ++ q.events, q.cursor⟩

end Pass

/-- A part of a check: from a cursor to what is found from there on and where it ends. -/
abbrev Routine := Cursor → Pass

namespace Routine

/-- Passes over white space. -/
def blanks : Routine := fun c =>
  .silent c.skipBlanks

/-- Records a violation at the cursor and, if its point of the grammar is lost, goes on at the
next synchronization character. -/
def report (kind : Violation) : Routine := fun c =>
  match kind.grammarPoint? with
  | none => ⟨[.found (c.diagnostic kind)], c⟩
  | some point =>
    let resumed := c.synchronize point.syncChars
    ⟨[.found (c.diagnostic kind), .resumed resumed.offset (resumed.offset - c.offset)], resumed⟩

/-- Passes over a delimiter, or reports that it is missing. -/
def expect (delimiter : Delimiter) : Routine := fun c =>
  if c.startsWith (· = delimiter.char) then .silent c.next
  else report (.missingSymbol delimiter) c

/-- Runs routines one after another. -/
def inOrder : List Routine → Routine
  | [] => .silent
  | r :: rs => fun c =>
    let p := r c
    p.append (inOrder rs p.cursor)

/-! ## Moving forward -/

/-- A routine that never moves the cursor back. -/
def Forward (r : Routine) : Prop :=
  ∀ c : Cursor, c.Ahead (r c).cursor

/-- Recovery only passes over text. -/
theorem forward_report (kind : Violation) : Forward (report kind) := by
  intro c
  unfold report
  split
  · exact Cursor.ahead_refl c
  · exact Cursor.ahead_skipWhile _ c

/-- A delimiter is passed over, and one that is missing is reported. -/
theorem forward_expect (delimiter : Delimiter) : Forward (expect delimiter) := by
  intro c
  unfold expect
  split
  · exact Cursor.ahead_next c
  · exact forward_report _ c

end Routine

end TypedList
