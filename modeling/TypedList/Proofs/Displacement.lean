import Mathlib.Data.List.Forall2
import TypedList.Proofs.Coverage

/-!
# Displacement

No routine looks at the position of its cursor: from the same text further right it does the same,
further right.  White space in front of a text only moves the cursor.

Main results:

- Theorem `Routine.moved_of_composed`: every routine commutes with moving its cursor.
- Theorem `Routine.shifted_diagnostics`: what a routine finds in a text at two positions differs
  by their distance.
- Theorem `diagnose_append_of_isBlank`: behind white space everything is found as without it,
  further right.
-/

namespace TypedList

/-! ## Moving to the right -/

/-- The diagnostic, the given number of positions further right. -/
def Diagnostic.moved (k : Nat) (d : Diagnostic) : Diagnostic :=
  { d with position := d.position + k }

/-- The event, the given number of positions further right. -/
def Event.moved (k : Nat) : Event → Event
  | found diagnostic => found (diagnostic.moved k)
  | resumed position skipped => resumed (position + k) skipped

/-- The cursor, the given number of positions further right. -/
def Cursor.moved (k : Nat) (c : Cursor) : Cursor :=
  { c with offset := c.offset + k }

/-- The pass, the given number of positions further right. -/
def Pass.moved (k : Nat) (p : Pass) : Pass :=
  ⟨p.events.map (Event.moved k), p.cursor.moved k⟩

variable {k : Nat}

/-- One character further from a moved cursor is as far from the cursor itself. -/
theorem Cursor.next_moved (c : Cursor) : (c.moved k).next = c.next.moved k := by
  obtain ⟨offset, rest⟩ := c
  cases rest with
  | nil => rfl
  | cons x rest =>
    simp only [next, moved, Cursor.mk.injEq, and_true]
    omega

/-- So is the end of a run. -/
theorem Cursor.skipWhile_moved (p : Char → Bool) (c : Cursor) :
    (c.moved k).skipWhile p = (c.skipWhile p).moved k := by
  simp only [skipWhile, moved, Cursor.mk.injEq, and_true]
  omega

/-- Two passes that are joined move together. -/
theorem Pass.moved_append (p q : Pass) :
    (p.append q).moved k = (p.moved k).append (q.moved k) := by
  simp only [moved, append, List.map_append]

/-- Moving a pass moves its diagnostics. -/
theorem Pass.diagnostics_moved (p : Pass) :
    (p.moved k).diagnostics = p.diagnostics.map (Diagnostic.moved k) := by
  simp only [diagnostics, moved, List.filterMap_map, List.map_filterMap]
  congr 1
  funext e
  cases e <;> rfl

namespace Routine

/-- A report further right is the same report, and the check goes on as much further right. -/
theorem report_moved (kind : Violation) (c : Cursor) :
    report kind (c.moved k) = (report kind c).moved k := by
  unfold report
  split
  · rfl
  · rename_i point _
    have hresumed : (c.moved k).synchronize point.syncChars =
        (c.synchronize point.syncChars).moved k := Cursor.skipWhile_moved _ c
    have hskipped : ((c.synchronize point.syncChars).moved k).offset - (c.moved k).offset =
        (c.synchronize point.syncChars).offset - c.offset := by
      simp only [Cursor.moved]
      omega
    simp only [hresumed, hskipped]
    rfl

variable {r : Routine}

/-- Every routine commutes with moving its cursor. -/
theorem moved_of_composed (h : Composed r) (c : Cursor) : r (c.moved k) = (r c).moved k := by
  induction h generalizing c with
  | stay => rfl
  | next => exact congrArg Pass.silent (Cursor.next_moved c)
  | skipWhile p => exact congrArg Pass.silent (Cursor.skipWhile_moved p c)
  | report kind => exact report_moved kind c
  | branch p _ _ ihr ihs =>
    have hchoice : (c.moved k).startsWith p = c.startsWith p := rfl
    simp only [branch, hchoice]
    split
    · exact ihr c
    · exact ihs c
  | andThen _ _ ihr ihs =>
    simp only [andThen, ihr c, Pass.moved_append]
    exact congrArg (Pass.append _) (ihs _)
  | limit s _ hagree ih =>
    rw [hagree c.rest.length (c.moved k) le_rfl, hagree c.rest.length c le_rfl]
    exact ih _ c

end Routine

/-! ## Shifted lists -/

/-- The second list is the first one with `k` added to every position. -/
def Shifted (k : Int) : List Diagnostic → List Diagnostic → Prop :=
  List.Forall₂ fun d e =>
    e.kind = d.kind ∧ e.symbol = d.symbol ∧ (e.position : Int) = d.position + k

/-- Two displacements of the same diagnostics differ by their distance. -/
theorem shifted_map_moved (m n : Nat) (ds : List Diagnostic) :
    Shifted (n - m) (ds.map (Diagnostic.moved m)) (ds.map (Diagnostic.moved n)) := by
  rw [Shifted, List.forall₂_map_left_iff, List.forall₂_map_right_iff, List.forall₂_same]
  intro d _
  refine ⟨rfl, rfl, ?_⟩
  simp only [Diagnostic.moved]
  omega

/-- What a routine finds in a text at two positions differs by their distance. -/
theorem Routine.shifted_diagnostics {r : Routine} (h : Composed r) (m n : Nat) (t : Text) :
    Shifted (n - m) (r ⟨m, t⟩).diagnostics (r ⟨n, t⟩).diagnostics := by
  have hmoved (j : Nat) :
      (r ⟨j, t⟩).diagnostics = (r (.start t)).diagnostics.map (Diagnostic.moved j) := by
    have hstart : (⟨j, t⟩ : Cursor) = (Cursor.start t).moved j := by
      simp [Cursor.start, Cursor.moved]
    rw [hstart, moved_of_composed h, Pass.diagnostics_moved]
  rw [hmoved m, hmoved n]
  exact shifted_map_moved m n _

/-! ## White space in front of a text -/

namespace Routine

variable {w : Text}

/-- Cursors that white space leads to one place are checked alike. -/
theorem declaration_eq_of_skipBlanks {c d : Cursor} (h : c.skipBlanks = d.skipBlanks) :
    declaration c = declaration d := by
  have hfirst : declaration = andThen blanks (inOrder [name, blanks, expect .assign, blanks,
      expect .openBracket, elements, blanks, expect .closeBracket, blanks, expect .semicolon,
      blanks, ending]) := rfl
  rw [hfirst, andThen_blanks, andThen_blanks, h]

/-- White space in front of a text moves the check of it. -/
theorem declaration_start_append (hw : IsBlank w) (t : Text) :
    declaration (.start (w ++ t)) = (declaration (.start t)).moved w.length := by
  have hskip : (Cursor.start (w ++ t)).skipBlanks = ((Cursor.start t).moved w.length).skipBlanks :=
    skipBlanks_blank hw
  rw [declaration_eq_of_skipBlanks hskip, moved_of_composed composed_declaration]

end Routine

/-- Behind white space everything is found as without it, further right. -/
theorem diagnose_append_of_isBlank {w : Text} (hw : IsBlank w) (t : Text) :
    diagnose (w ++ t) = (diagnose t).map (Diagnostic.moved w.length) := by
  rw [diagnose_eq, Routine.declaration_start_append hw, Pass.diagnostics_moved, diagnose_eq]

/-- A text that breaks off behind a sign, moved by a line feed and a space. -/
theorem diagnose_append_of_isBlank_line_feed :
    IsBlank "\n ".toList ∧
      diagnose "\n 7=[-".toList = (diagnose "7=[-".toList).map (Diagnostic.moved 2) := by
  have hblank : IsBlank "\n ".toList := by
    intro c hc
    simp only [String.reduceToList, List.mem_cons, List.not_mem_nil, or_false] at hc
    rcases hc with rfl | rfl <;> rfl
  exact ⟨hblank, diagnose_append_of_isBlank hblank "7=[-".toList⟩

end TypedList
