import TypedList.Proofs.Composition

/-!
# The order of what is found

A check moves forward in its text and records every event where its cursor stands.  So the events
of a routine lie between where it starts and where it ends, in the order of their positions, and
every diagnostic shows the character of the text at its position.

Main results:

- Theorem `Routine.ordered_of_composed`: this holds of every routine that is put together from the
  simple ones.
- Theorem `pairwise_position_le_diagnose`: the positions of the diagnostics of a text never
  decrease.
- Theorem `eq_inText_of_mem_diagnose`: a diagnostic is determined by its violation, its position
  and the text.
-/

namespace TypedList

/-- The position of an event. -/
def Event.position : Event → Nat
  | found diagnostic => diagnostic.position
  | resumed position _ => position

/-- An event happens where the cursor stands. -/
def Event.HappensAt (c : Cursor) : Event → Prop
  | found diagnostic => diagnostic = c.diagnostic diagnostic.kind
  | resumed position _ => position = c.offset

/-- An event has the position of the cursor where it happens. -/
theorem Event.HappensAt.position_eq {c : Cursor} {e : Event} (h : e.HappensAt c) :
    e.position = c.offset := by
  cases e with
  | found diagnostic =>
    have hdiagnostic : diagnostic = c.diagnostic diagnostic.kind := h
    rw [position, hdiagnostic]
    rfl
  | resumed position skipped => exact h

/-- A cursor ahead of another stands no further left. -/
theorem Cursor.Ahead.offset_le {c d : Cursor} (h : c.Ahead d) : c.offset ≤ d.offset := by
  obtain ⟨passed, -, hoffset⟩ := h
  omega

/-- A pass from a cursor goes forward, and its events happen in order on its way. -/
structure Pass.Ordered (c : Cursor) (p : Pass) : Prop where
  ahead : c.Ahead p.cursor
  located : ∀ e ∈ p.events, ∃ d : Cursor, c.Ahead d ∧ d.Ahead p.cursor ∧ e.HappensAt d
  sorted : p.events.Pairwise fun e f => e.position ≤ f.position

namespace Pass

variable {c d : Cursor} {p q : Pass}

/-- A pass without events is in order. -/
theorem ordered_silent (h : c.Ahead d) : Ordered c (silent d) := by
  refine ⟨h, ?_, .nil⟩
  intro e he
  exact absurd he List.not_mem_nil

/-- Every event of a pass lies between where the pass starts and where it ends. -/
theorem Ordered.position_bounds (h : Ordered c p) {e : Event} (he : e ∈ p.events) :
    c.offset ≤ e.position ∧ e.position ≤ p.cursor.offset := by
  obtain ⟨d, hcd, hdp, hat⟩ := h.located e he
  rw [hat.position_eq]
  exact ⟨hcd.offset_le, hdp.offset_le⟩

/-- Two ordered passes make one: the events of the first lie before those of the second. -/
theorem Ordered.append (hp : Ordered c p) (hq : Ordered p.cursor q) : Ordered c (p.append q) := by
  refine ⟨Cursor.ahead_trans hp.ahead hq.ahead, ?_, ?_⟩
  · intro e he
    rcases List.mem_append.mp he with he | he
    · obtain ⟨d, hcd, hdp, hat⟩ := hp.located e he
      exact ⟨d, hcd, Cursor.ahead_trans hdp hq.ahead, hat⟩
    · obtain ⟨d, hpd, hdq, hat⟩ := hq.located e he
      exact ⟨d, Cursor.ahead_trans hp.ahead hpd, hdq, hat⟩
  · refine List.pairwise_append.mpr ⟨hp.sorted, hq.sorted, ?_⟩
    intro e he f hf
    exact (hp.position_bounds he).2.trans (hq.position_bounds hf).1

end Pass

namespace Routine

/-- A report happens where it is made, and the check goes on no further left. -/
theorem ordered_report (kind : Violation) (c : Cursor) : (report kind c).Ordered c := by
  unfold report
  split <;> rename_i hpoint
  · refine ⟨Cursor.ahead_refl c, ?_, List.pairwise_singleton _ _⟩
    intro e he
    rw [List.mem_singleton] at he
    subst he
    exact ⟨c, Cursor.ahead_refl c, Cursor.ahead_refl c, rfl⟩
  · rename_i point
    have hahead : c.Ahead (c.synchronize point.syncChars) := Cursor.ahead_skipWhile _ c
    refine ⟨hahead, ?_, List.pairwise_pair.mpr hahead.offset_le⟩
    intro e he
    simp only [List.mem_cons, List.not_mem_nil, or_false] at he
    rcases he with rfl | rfl
    · exact ⟨c, Cursor.ahead_refl c, hahead, rfl⟩
    · exact ⟨_, hahead, Cursor.ahead_refl _, rfl⟩

variable {r : Routine}

/-- The events of a routine happen in order between where it starts and where it ends. -/
theorem ordered_of_composed (h : Composed r) (c : Cursor) : (r c).Ordered c := by
  induction h generalizing c with
  | stay => exact Pass.ordered_silent (Cursor.ahead_refl c)
  | next => exact Pass.ordered_silent (Cursor.ahead_next c)
  | skipWhile p => exact Pass.ordered_silent (Cursor.ahead_skipWhile p c)
  | report kind => exact ordered_report kind c
  | branch p _ _ ihr ihs =>
    unfold branch
    split
    · exact ihr c
    · exact ihs c
  | andThen _ _ ihr ihs => exact (ihr c).append (ihs _)
  | limit s _ hagree ih =>
    rw [hagree c.rest.length c le_rfl]
    exact ih _ c

/-- No routine moves its cursor back. -/
theorem ahead_of_composed (h : Composed r) (c : Cursor) : c.Ahead (r c).cursor :=
  (ordered_of_composed h c).ahead

/-- At the end of a text every routine stays there. -/
theorem rest_eq_nil_of_composed (h : Composed r) {c : Cursor} (hc : c.rest = []) :
    (r c).cursor.rest = [] := by
  have hlength := (ahead_of_composed h c).length_le
  rw [hc, List.length_nil, Nat.le_zero, List.length_eq_zero_iff] at hlength
  exact hlength

end Routine

/-! ## Diagnostics -/

/-- The diagnostics of a pass are those that its events record. -/
theorem Pass.mem_diagnostics {p : Pass} {d : Diagnostic} :
    d ∈ p.diagnostics ↔ .found d ∈ p.events := by
  rw [diagnostics, List.mem_filterMap]
  constructor
  · rintro ⟨e, he, hd⟩
    cases e with
    | found diagnostic =>
      rw [Event.diagnostic?, Option.some.injEq] at hd
      exact hd ▸ he
    | resumed position skipped => contradiction
  · intro h
    exact ⟨_, h, rfl⟩

namespace Routine

variable {r : Routine} {c : Cursor} {d : Diagnostic}

/-- A routine finds nothing before where it starts. -/
theorem offset_le_position (h : Composed r) (hd : d ∈ (r c).diagnostics) :
    c.offset ≤ d.position :=
  ((ordered_of_composed h c).position_bounds (Pass.mem_diagnostics.mp hd)).1

/-- A routine finds nothing behind where it ends. -/
theorem position_le_offset (h : Composed r) (hd : d ∈ (r c).diagnostics) :
    d.position ≤ (r c).cursor.offset :=
  ((ordered_of_composed h c).position_bounds (Pass.mem_diagnostics.mp hd)).2

/-- What a routine finds comes in the order of the positions. -/
theorem pairwise_position_le (h : Composed r) (c : Cursor) :
    (r c).diagnostics.Pairwise fun d e => d.position ≤ e.position := by
  refine (ordered_of_composed h c).sorted.filterMap Event.diagnostic? ?_
  intro e f hle d hd d' hd'
  cases e with
  | found diagnostic =>
    cases f with
    | found diagnostic' =>
      rw [Event.diagnostic?, Option.some.injEq] at hd hd'
      subst hd hd'
      exact hle
    | resumed position skipped => contradiction
  | resumed position skipped => contradiction

end Routine

/-- The positions of the diagnostics of a text never decrease. -/
theorem pairwise_position_le_diagnose (t : Text) :
    (diagnose t).Pairwise fun d e => d.position ≤ e.position :=
  Routine.pairwise_position_le Routine.composed_declaration _

/-! ## Diagnostics and their text -/

/-- The diagnostic for a violation that shows at a position of a text. -/
def Diagnostic.inText (t : Text) (kind : Violation) (position : Nat) : Diagnostic :=
  ⟨kind, .atHead (t.drop position), position⟩

/-- A cursor of a text stands in front of what is left at its position. -/
theorem Cursor.Ahead.eq_of_start {t : Text} {c : Cursor} (h : (Cursor.start t).Ahead c) :
    c = ⟨c.offset, t.drop c.offset⟩ := by
  obtain ⟨passed, hrest, hoffset⟩ := h
  have htext : t = passed ++ c.rest := hrest
  rw [Cursor.start, Nat.zero_add] at hoffset
  rw [htext, hoffset, List.drop_left, ← hoffset]

/-- A diagnostic is determined by its violation, its position and the text. -/
theorem eq_inText_of_mem_diagnose {t : Text} {d : Diagnostic} (hd : d ∈ diagnose t) :
    d = .inText t d.kind d.position := by
  have hordered := Routine.ordered_of_composed Routine.composed_declaration (.start t)
  obtain ⟨c, hstart, -, hat⟩ := hordered.located _ (Pass.mem_diagnostics.mp hd)
  have hdiagnostic : d = c.diagnostic d.kind := hat
  rw [hdiagnostic, hstart.eq_of_start]
  rfl

end TypedList
