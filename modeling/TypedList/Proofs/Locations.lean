import Mathlib.Data.List.DropRight
import TypedList.Location

/-!
# Locations by counting

A location is found step by step, but it can be told from the text before it at once: by its line
feeds and by what stands behind the last of them.  A text that is put behind another has its first
line moved to the right, and all its lines moved down.

Main results:

- Theorem `Location.start_after`: the location behind a text, by counting.
- Theorem `Location.after_behind`: moving a text behind another moves the location behind it too.
- Theorem `Location.after_cases`: behind a text is a later line, or the same line further right.
-/

namespace TypedList

/-- What stands behind the last line feed of a text; the whole text if it has none. -/
def lastLine (t : Text) : Text :=
  t.rtakeWhile (· ≠ '\n')

@[simp]
theorem lastLine_append_lineFeed (t : Text) : lastLine (t ++ ['\n']) = [] := by
  simp [lastLine]

/-- Any character but a line feed goes on with the last line. -/
theorem lastLine_concat (t : Text) {c : Char} (hc : c ≠ '\n') :
    lastLine (t ++ [c]) = lastLine t ++ [c] := by
  simp [lastLine, hc]

namespace Location

@[simp]
theorem step_lineFeed (l : Location) : l.step '\n' = ⟨l.line + 1, 1⟩ :=
  rfl

/-- Any character but a line feed takes one column. -/
theorem step_of_ne (l : Location) {c : Char} (hc : c ≠ '\n') :
    l.step c = ⟨l.line, l.column + 1⟩ := by
  simp [step, hc]

/-- The location behind a text: line feeds make the line, what stands behind the last of them the
column. -/
theorem start_after (t : Text) :
    start.after t = ⟨1 + t.count '\n', 1 + (lastLine t).length⟩ := by
  induction t using List.reverseRecOn with
  | nil => rfl
  | append_singleton t c ih =>
    rw [after_append, ih, after_cons, after_nil, List.count_append]
    by_cases hc : c = '\n'
    · subst hc
      simp [Nat.add_assoc]
    · rw [step_of_ne _ hc, lastLine_concat t hc]
      simp [hc, Nat.add_assoc]

/-- Without a line feed, the text takes one column for each character. -/
theorem after_of_notMem (l : Location) {t : Text} (ht : '\n' ∉ t) :
    l.after t = ⟨l.line, l.column + t.length⟩ := by
  induction t generalizing l with
  | nil => rfl
  | cons c t ih =>
    rw [List.mem_cons, not_or] at ht
    rw [after_cons, step_of_ne l (Ne.symm ht.1), ih _ ht.2, mk.injEq, List.length_cons]
    exact ⟨rfl, by simp only; omega⟩

/-- No text leads back to an earlier line. -/
theorem line_le_after (l : Location) (t : Text) : l.line ≤ (l.after t).line := by
  induction t generalizing l with
  | nil => exact le_rfl
  | cons c t ih =>
    have hstep : l.line ≤ (l.step c).line := by
      unfold step
      split <;> simp
    exact hstep.trans (ih (l.step c))

/-- Behind a text is a later line, or the same line as many columns on as the text is long. -/
theorem after_cases (l : Location) (t : Text) :
    l.line < (l.after t).line ∨ l.after t = ⟨l.line, l.column + t.length⟩ := by
  by_cases ht : '\n' ∈ t
  · left
    rcases List.append_of_mem ht with ⟨u, v, rfl⟩
    have hbefore := l.line_le_after u
    have hbehind := (l.after (u ++ ['\n'])).line_le_after v
    rw [after_append, after_cons, after_nil, step_lineFeed] at hbehind
    rw [after_append, after_cons, step_lineFeed]
    simp only at hbehind
    omega
  · exact Or.inr (l.after_of_notMem ht)

/-- Only behind no text at all is the same place. -/
theorem eq_nil_of_after {l : Location} {t : Text} (hline : (l.after t).line = l.line)
    (hcolumn : (l.after t).column = l.column) : t = [] := by
  rcases l.after_cases t with h | h
  · omega
  · rw [h] at hcolumn
    simp only at hcolumn
    rw [← List.length_eq_zero_iff]
    omega

end Location

/-! ## Behind another text -/

/-- Where a location of a text lies once the text stands behind another: on its first line further
right by the last line of the other, and further down by the line feeds of the other. -/
def Location.behind (l : Location) (before : Text) : Location :=
  if l.line = 1 then ⟨1 + before.count '\n', l.column + (lastLine before).length⟩
  else ⟨l.line + before.count '\n', l.column⟩

/-- Where a span of a text lies once the text stands behind another. -/
def Span.behind (span : Span) (before : Text) : Span :=
  if span.line = 1 then
    ⟨1 + before.count '\n', span.startColumn + (lastLine before).length,
      span.endColumn + (lastLine before).length⟩
  else ⟨span.line + before.count '\n', span.startColumn, span.endColumn⟩

/-- Lines and columns of the location are counted from one. -/
structure Location.Counted (l : Location) : Prop where
  line_pos : 1 ≤ l.line
  column_pos : 1 ≤ l.column

namespace Location

variable {l : Location}

/-- The start of a text is a place that counting leads to. -/
theorem counted_start : start.Counted :=
  ⟨le_rfl, le_rfl⟩

/-- So is the next column. -/
theorem Counted.next (h : l.Counted) : Counted ⟨l.line, l.column + 1⟩ :=
  ⟨h.line_pos, Nat.le_add_left 1 l.column⟩

/-- So is the place behind a character. -/
theorem Counted.step (h : l.Counted) (c : Char) : (l.step c).Counted := by
  by_cases hc : c = '\n'
  · subst hc
    exact ⟨Nat.le_add_left 1 l.line, le_rfl⟩
  · rw [step_of_ne l hc]
    exact h.next

/-- So is the place behind a text. -/
theorem Counted.after (h : l.Counted) (t : Text) : (l.after t).Counted := by
  induction t generalizing l with
  | nil => exact h
  | cons c t ih => exact ih (h.step c)

/-- On its first line, a location moves to the right. -/
theorem behind_of_first (hfirst : l.line = 1) (before : Text) :
    l.behind before = ⟨1 + before.count '\n', l.column + (lastLine before).length⟩ :=
  if_pos hfirst

/-- On a later line, a location only moves down. -/
theorem behind_of_later (hlater : l.line ≠ 1) (before : Text) :
    l.behind before = ⟨l.line + before.count '\n', l.column⟩ :=
  if_neg hlater

/-- The start of a text comes to lie where the other text ends. -/
theorem start_behind (before : Text) : start.behind before = start.after before := by
  rw [start_after]
  rfl

/-- The next column on the line, behind another text. -/
theorem next_behind (l : Location) (before : Text) :
    (⟨(l.behind before).line, (l.behind before).column + 1⟩ : Location) =
      (⟨l.line, l.column + 1⟩ : Location).behind before := by
  by_cases hfirst : l.line = 1
  · have hnext : (⟨l.line, l.column + 1⟩ : Location).line = 1 := hfirst
    rw [behind_of_first hfirst, behind_of_first hnext, mk.injEq]
    exact ⟨rfl, by simp only; omega⟩
  · have hnext : (⟨l.line, l.column + 1⟩ : Location).line ≠ 1 := hfirst
    rw [behind_of_later hfirst, behind_of_later hnext]

/-- A character is counted alike behind another text. -/
theorem step_behind (h : l.Counted) (before : Text) (c : Char) :
    (l.behind before).step c = (l.step c).behind before := by
  by_cases hc : c = '\n'
  · subst hc
    have hline := h.line_pos
    have hlater : (l.step '\n').line ≠ 1 := by
      rw [step_lineFeed]
      simp only
      omega
    rw [behind_of_later hlater, step_lineFeed, step_lineFeed, mk.injEq]
    refine ⟨?_, rfl⟩
    by_cases hfirst : l.line = 1
    · rw [behind_of_first hfirst]
      simp only
      omega
    · rw [behind_of_later hfirst]
      simp only
      omega
  · rw [step_of_ne _ hc, step_of_ne _ hc, next_behind]

/-- Moving a text behind another moves the location behind it too. -/
theorem after_behind (h : l.Counted) (before t : Text) :
    (l.behind before).after t = (l.after t).behind before := by
  induction t generalizing l with
  | nil => rfl
  | cons c t ih => rw [after_cons, after_cons, step_behind h, ih (h.step c)]

/-- A span moves with the location where it starts. -/
theorem ofLength_behind (h : l.Counted) (before : Text) (length : Nat) :
    Span.ofLength (l.behind before) length = (Span.ofLength l length).behind before := by
  have hcolumn := h.column_pos
  by_cases hfirst : l.line = 1
  · have hspan : (Span.ofLength l length).line = 1 := hfirst
    rw [behind_of_first hfirst, Span.behind, if_pos hspan]
    simp only [Span.ofLength, Span.mk.injEq, true_and]
    omega
  · have hspan : (Span.ofLength l length).line ≠ 1 := hfirst
    rw [behind_of_later hfirst, Span.behind, if_neg hspan]
    rfl

end Location

end TypedList
