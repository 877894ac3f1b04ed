import TypedList.Synchronization
import TypedList.Unicode.WhiteSpace

/-!
# Cursors

A cursor is a position in a text together with the text that is left there.

Main results:

- Theorem `Cursor.ahead_trans` and the `ahead_` theorems of the single moves: a cursor only ever
  moves forward in its text, by as many positions as there are characters passed over.
-/

namespace TypedList

/-- A position in a text and what is left of the text there. -/
structure Cursor where
  offset : Nat
  rest : Text
deriving DecidableEq, Repr

namespace Cursor

/-! ## Places -/

/-- The cursor at the start of a text. -/
def start (t : Text) : Cursor :=
  ⟨0, t⟩

/-- The cursor at a position of a text, or at its end if the position lies beyond. -/
def ofPosition (t : Text) (position : Nat) : Cursor :=
  ⟨min position t.length, t.drop position⟩

/-- What stands at the cursor. -/
def symbol (c : Cursor) : Symbol :=
  .atHead c.rest

/-- Whether a character with the given property stands at the cursor. -/
def startsWith (p : Char → Bool) (c : Cursor) : Bool :=
  c.rest.head?.any p

/-- The diagnostic for a violation that shows at the cursor. -/
def diagnostic (c : Cursor) (kind : Violation) : Diagnostic :=
  ⟨kind, c.symbol, c.offset⟩

/-! ## Moves -/

/-- Past one character, unless none is left. -/
def next : Cursor → Cursor
  | ⟨offset, []⟩ => ⟨offset, []⟩
  | ⟨offset, _ :: rest⟩ => ⟨offset + 1, rest⟩

/-- Past the characters with the given property that stand at the cursor. -/
def skipWhile (p : Char → Bool) (c : Cursor) : Cursor :=
  ⟨c.offset + (c.rest.takeWhile p).length, c.rest.dropWhile p⟩

/-- Past the white space at the cursor. -/
def skipBlanks (c : Cursor) : Cursor :=
  c.skipWhile isWhiteSpace

/-- On to the next synchronization character, or to the end. -/
def synchronize (chars : SyncChars) (c : Cursor) : Cursor :=
  c.skipWhile (· ∉ chars)

/-- Past everything that is left. -/
def toEnd (c : Cursor) : Cursor :=
  ⟨c.offset + c.rest.length, []⟩

/-! ## Moving forward -/

/-- The second cursor stands in the same text as the first and not before it. -/
def Ahead (c d : Cursor) : Prop :=
  ∃ passed, c.rest = passed ++ d.rest ∧ d.offset = c.offset + passed.length

/-- A cursor that does not move has passed over nothing. -/
theorem ahead_refl (c : Cursor) : c.Ahead c :=
  ⟨[], rfl, rfl⟩

/-- What two moves pass over stands together in the text. -/
theorem ahead_trans {c d e : Cursor} (hcd : c.Ahead d) (hde : d.Ahead e) : c.Ahead e := by
  obtain ⟨xs, hrest, hoffset⟩ := hcd
  obtain ⟨ys, hrest', hoffset'⟩ := hde
  exact ⟨xs ++ ys, by rw [hrest, hrest', List.append_assoc],
    by rw [hoffset', hoffset, List.length_append, Nat.add_assoc]⟩

/-- One move passes over one character, or over nothing at the end. -/
theorem ahead_next (c : Cursor) : c.Ahead c.next := by
  obtain ⟨offset, rest⟩ := c
  cases rest with
  | nil => exact ahead_refl _
  | cons x rest => exact ⟨[x], rfl, rfl⟩

/-- A run of characters is passed over as a whole. -/
theorem ahead_skipWhile (p : Char → Bool) (c : Cursor) : c.Ahead (c.skipWhile p) :=
  ⟨c.rest.takeWhile p, List.takeWhile_append_dropWhile.symm, rfl⟩

/-- A cursor ahead of another has no more left. -/
theorem Ahead.length_le {c d : Cursor} (h : c.Ahead d) : d.rest.length ≤ c.rest.length := by
  obtain ⟨passed, hrest, -⟩ := h
  rw [hrest, List.length_append]
  exact Nat.le_add_left _ _

/-- Where something is left, the next cursor has less left. -/
theorem length_next_lt {c : Cursor} {p : Char → Bool} (h : c.startsWith p = true) :
    c.next.rest.length < c.rest.length := by
  obtain ⟨offset, rest⟩ := c
  cases rest with
  | nil => simp [startsWith] at h
  | cons x rest => exact Nat.lt_succ_self _

end Cursor

/-- The first position from the given one on that holds a synchronization character, or
the length of the text if there is none. -/
def syncPosition (t : Text) (position : Nat) (chars : SyncChars) : Nat :=
  ((Cursor.ofPosition t position).synchronize chars).offset

end TypedList
