import TypedList.Proofs.Order

/-!
# Appending text

A check of a text and a check of the same text with more behind it go in step for as long as the
first one has text left.  From there on they may differ, but only in what they find behind the end
of the shorter text.

Main results:

- Theorem `Routine.inStep_of_composed`: every routine keeps two checks in step.
- Theorem `before_diagnose_append`: appending text changes no diagnostic before it, and these
  diagnostics come first.
-/

namespace TypedList

/-- The diagnostics of a list that lie before a position. -/
def before (n : Nat) (ds : List Diagnostic) : List Diagnostic :=
  ds.filter fun d => d.position < n

/-- What lies before a position in two lists lies before it in one of them. -/
theorem before_append (n : Nat) (ds es : List Diagnostic) :
    before n (ds ++ es) = before n ds ++ before n es :=
  List.filter_append ..

/-- Nothing lies before a position that no diagnostic has reached. -/
theorem before_eq_nil {n : Nat} {ds : List Diagnostic} (h : ∀ d ∈ ds, n ≤ d.position) :
    before n ds = [] := by
  rw [before, List.filter_eq_nil_iff]
  intro d hd
  simpa using h d hd

/-- In order of their positions, the diagnostics before a position come first. -/
theorem before_isPrefix {n : Nat} {ds : List Diagnostic}
    (h : ds.Pairwise fun d e => d.position ≤ e.position) : before n ds <+: ds := by
  induction ds with
  | nil => exact List.nil_prefix
  | cons d ds ih =>
    rw [List.pairwise_cons] at h
    by_cases hd : d.position < n
    · rw [before, List.filter_cons_of_pos (by simpa using hd)]
      exact (List.prefix_cons_inj d).mpr (ih h.2)
    · -- From the first diagnostic that does not lie before the position on, none does.
      have hnone : before n (d :: ds) = [] := by
        apply before_eq_nil
        intro e he
        rcases List.mem_cons.mp he with rfl | he
        · exact Nat.le_of_not_lt hd
        · exact (Nat.le_of_not_lt hd).trans (h.1 e he)
      rw [hnone]
      exact List.nil_prefix

/-! ## Checks in step -/

namespace Cursor

/-- The cursor with more text behind what is left there. -/
def extend (u : Text) (c : Cursor) : Cursor :=
  ⟨c.offset, c.rest ++ u⟩

/-- The cursors of two checks, the second of which has more text, given the position where the
text of the first one ends: they stand at the same place before that position, or neither stands
before it. -/
inductive InStep (u : Text) (limit : Nat) (c d : Cursor) : Prop
  | going : c.rest ≠ [] → c.offset + c.rest.length = limit → d = c.extend u → InStep u limit c d
  | ended : c.rest = [] → limit ≤ c.offset → limit ≤ d.offset → InStep u limit c d

variable {u : Text} {limit : Nat} {c d : Cursor} {p : Char → Bool}

/-- More text behind the end puts two cursors in step. -/
theorem inStep_extend (h : c.offset + c.rest.length = limit) : c.InStep u limit (c.extend u) := by
  by_cases hrest : c.rest = []
  · rw [hrest, List.length_nil, Nat.add_zero] at h
    exact .ended hrest h.ge h.ge
  · exact .going hrest h rfl

/-- Where something is left, more text behind it does not show. -/
theorem startsWith_extend (h : c.rest ≠ []) : (c.extend u).startsWith p = c.startsWith p := by
  obtain ⟨offset, rest⟩ := c
  cases rest with
  | nil => contradiction
  | cons x rest => rfl

/-- Where something is left, the symbol there stays the same. -/
theorem symbol_extend (h : c.rest ≠ []) : (c.extend u).symbol = c.symbol := by
  obtain ⟨offset, rest⟩ := c
  cases rest with
  | nil => contradiction
  | cons x rest => rfl

/-- One character further two cursors are still in step. -/
theorem inStep_next (hrest : c.rest ≠ []) (h : c.offset + c.rest.length = limit) :
    c.next.InStep u limit (c.extend u).next := by
  obtain ⟨offset, rest⟩ := c
  cases rest with
  | nil => contradiction
  | cons x rest =>
    refine inStep_extend (c := ⟨offset + 1, rest⟩) ?_
    rw [← h, List.length_cons]
    dsimp only
    omega

/-- Behind a run of characters two cursors are in step, even if the longer text carries the run
on. -/
theorem inStep_skipWhile (h : c.offset + c.rest.length = limit) :
    (c.skipWhile p).InStep u limit ((c.extend u).skipWhile p) := by
  have hsplit : (c.rest.takeWhile p).length + (c.rest.dropWhile p).length = c.rest.length := by
    rw [← List.length_append, List.takeWhile_append_dropWhile]
  by_cases hdrop : c.rest.dropWhile p = []
  · have hall : ∀ x ∈ c.rest, p x = true := List.dropWhile_eq_nil_iff.mp hdrop
    rw [hdrop, List.length_nil, Nat.add_zero] at hsplit
    refine .ended hdrop ?_ ?_
    · simp only [skipWhile, hsplit, h, le_refl]
    · simp only [skipWhile, extend, List.takeWhile_append_of_pos hall, List.length_append]
      omega
  · have htake : (c.rest.takeWhile p).length ≠ c.rest.length := by
      intro heq
      rw [heq, Nat.add_eq_left, List.length_eq_zero_iff] at hsplit
      exact hdrop hsplit
    have hskip : (c.extend u).skipWhile p = (c.skipWhile p).extend u := by
      simp only [skipWhile, extend, List.takeWhile_append, if_neg htake, List.dropWhile_append,
        List.isEmpty_iff, if_neg hdrop]
    rw [hskip]
    refine inStep_extend ?_
    simp only [skipWhile]
    omega

end Cursor

/-- Passes of two checks that end in step and find the same before the text of the first ends. -/
structure Pass.InStep (u : Text) (limit : Nat) (p q : Pass) : Prop where
  cursors : p.cursor.InStep u limit q.cursor
  found : before limit p.diagnostics = before limit q.diagnostics

namespace Routine

variable {r : Routine} {u : Text} {limit : Nat} {c d : Cursor}

/-- Behind the end of the shorter text, nothing is found before it. -/
theorem before_diagnostics_eq_nil (h : Composed r) (hc : limit ≤ c.offset) :
    before limit (r c).diagnostics = [] :=
  before_eq_nil fun _ hd => hc.trans (offset_le_position h hd)

/-- Where the shorter text is used up, two checks need no longer agree to be in step. -/
theorem inStep_of_ended (h : Composed r) (hrest : c.rest = []) (hc : limit ≤ c.offset)
    (hd : limit ≤ d.offset) : (r c).InStep u limit (r d) := by
  refine ⟨.ended (rest_eq_nil_of_composed h hrest) (hc.trans (ahead_of_composed h c).offset_le)
    (hd.trans (ahead_of_composed h d).offset_le), ?_⟩
  rw [before_diagnostics_eq_nil h hc, before_diagnostics_eq_nil h hd]

/-- A report where something is left is the same in both texts, and so is where the check goes on,
as long as it goes on in the shorter one. -/
theorem inStep_report {kind : Violation} (hrest : c.rest ≠ [])
    (hlimit : c.offset + c.rest.length = limit) :
    (report kind c).InStep u limit (report kind (c.extend u)) := by
  have hdiagnostic : (c.extend u).diagnostic kind = c.diagnostic kind := by
    simp only [Cursor.diagnostic, Cursor.symbol_extend hrest]
    rfl
  unfold report
  split
  · exact ⟨Cursor.inStep_extend hlimit, by simp only [Pass.diagnostics, hdiagnostic]⟩
  · refine ⟨Cursor.inStep_skipWhile hlimit, ?_⟩
    simp only [Pass.diagnostics, List.filterMap_cons, Event.diagnostic?, hdiagnostic]

/-- Every routine keeps two checks in step. -/
theorem inStep_of_composed (h : Composed r) (hstep : c.InStep u limit d) :
    (r c).InStep u limit (r d) := by
  induction h generalizing c d with
  | stay => exact ⟨hstep, rfl⟩
  | next =>
    cases hstep with
    | going hrest hlimit heq =>
      subst heq
      exact ⟨Cursor.inStep_next hrest hlimit, rfl⟩
    | ended hrest hc hd => exact inStep_of_ended .next hrest hc hd
  | skipWhile p =>
    cases hstep with
    | going hrest hlimit heq =>
      subst heq
      exact ⟨Cursor.inStep_skipWhile hlimit, rfl⟩
    | ended hrest hc hd => exact inStep_of_ended (.skipWhile p) hrest hc hd
  | report kind =>
    cases hstep with
    | going hrest hlimit heq =>
      subst heq
      exact inStep_report hrest hlimit
    | ended hrest hc hd => exact inStep_of_ended (.report kind) hrest hc hd
  | branch p hr hs ihr ihs =>
    cases hstep with
    | going hrest hlimit heq =>
      -- Both checks see the same next character, so they make the same choice.
      have hchoice : d.startsWith p = c.startsWith p := by
        rw [heq, Cursor.startsWith_extend hrest]
      simp only [branch, hchoice]
      split
      · exact ihr (.going hrest hlimit heq)
      · exact ihs (.going hrest hlimit heq)
    | ended hrest hc hd => exact inStep_of_ended (.branch p hr hs) hrest hc hd
  | andThen _ _ ihr ihs =>
    have hfirst := ihr hstep
    have hsecond := ihs hfirst.cursors
    refine ⟨hsecond.cursors, ?_⟩
    simp only [andThen, Pass.diagnostics_append, before_append, hfirst.found, hsecond.found]
  | limit s _ hagree ih =>
    rw [hagree (max c.rest.length d.rest.length) c (le_max_left _ _),
      hagree (max c.rest.length d.rest.length) d (le_max_right _ _)]
    exact ih _ hstep

end Routine

/-- Appending text changes no diagnostic before it.  These diagnostics come first in both
checks. -/
theorem before_diagnose_append (t u : Text) :
    before t.length (diagnose (t ++ u)) = before t.length (diagnose t) ∧
      before t.length (diagnose (t ++ u)) <+: diagnose (t ++ u) ∧
      before t.length (diagnose t) <+: diagnose t := by
  have hstart : (Cursor.start t).InStep u t.length (Cursor.start (t ++ u)) :=
    Cursor.inStep_extend (Nat.zero_add _)
  have hchecks := Routine.inStep_of_composed Routine.composed_declaration hstart
  exact ⟨hchecks.found.symm, before_isPrefix (pairwise_position_le_diagnose _),
    before_isPrefix (pairwise_position_le_diagnose _)⟩

end TypedList
