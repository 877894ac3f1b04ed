import TypedList.Proofs.Acceptance
import TypedList.Proofs.Incidents
import TypedList.Proofs.Stages

/-!
# Progress and termination

A check never leaves its text and never goes back in it.  Its one loop over further parts of the
text, the loop over the elements, passes over a comma in every iteration that does not leave it, so
there are no more iterations than characters.

Main results:

- Theorem `Routine.OfCheck.composed`: the routines of a check are put together from the simple ones.
- Theorem `Routine.GoesOn.ahead`: an iteration that does not leave the loop goes forward.
- Theorem `Routine.exists_iterates`: the loop ends after at most as many iterations as there are
  characters left.
- Theorem `check_progresses`: every routine of a check ends in its text and not before where it
  started, every recovery goes forward, the loop ends, and the check ends at the end of the text.
-/

namespace TypedList

namespace Routine

/-- The routines that a check calls. -/
inductive OfCheck : Routine → Prop
  | next : OfCheck next
  | blanks : OfCheck blanks
  | skipDigits : OfCheck (skipWhile Char.isDigit)
  | report (kind : Violation) : OfCheck (report kind)
  | expect (delimiter : Delimiter) : OfCheck (expect delimiter)
  | nameTail : OfCheck nameTail
  | name : OfCheck name
  | string : OfCheck string
  | fraction : OfCheck fraction
  | digits : OfCheck digits
  | number : OfCheck number
  | element : OfCheck element
  | moreElements : OfCheck moreElements
  | elements : OfCheck elements
  | ending : OfCheck ending
  | declaration : OfCheck declaration

/-- The routines of a check are put together from the simple ones. -/
theorem OfCheck.composed {r : Routine} (h : OfCheck r) : Composed r := by
  cases h with
  | next => exact .next
  | blanks => exact .skipWhile isWhiteSpace
  | skipDigits => exact .skipWhile Char.isDigit
  | report kind => exact .report kind
  | expect delimiter => exact composed_expect delimiter
  | nameTail => exact composed_nameTail
  | name => exact composed_name
  | string => exact composed_string
  | fraction => exact composed_fraction
  | digits => exact composed_digits
  | number => exact composed_number
  | element => exact composed_element
  | moreElements => exact composed_moreElements
  | elements => exact composed_elements
  | ending => exact composed_ending
  | declaration => exact composed_declaration

/-! ## The loop over the elements -/

/-- An iteration of the loop over the elements behind the first one leaves the loop, where no comma
stands or the list is closed behind it. -/
inductive Exits (c : Cursor) : Cursor → Prop
  | noComma : c.skipBlanks.startsWith (· = ',') = false → Exits c c.skipBlanks
  | closed : c.skipBlanks.startsWith (· = ',') = true →
      c.skipBlanks.next.skipBlanks.startsWith (· = ']') = true →
        Exits c c.skipBlanks.next.skipBlanks

/-- An iteration of the loop goes on to the next one, behind a comma and an element. -/
inductive GoesOn (c : Cursor) : Cursor → Prop
  | element : c.skipBlanks.startsWith (· = ',') = true →
      c.skipBlanks.next.skipBlanks.startsWith (· = ']') = false →
        GoesOn c (element c.skipBlanks.next.skipBlanks).cursor

/-- From the first cursor the loop goes on so many times and then leaves at the second one. -/
inductive Iterates : Cursor → Nat → Cursor → Prop
  | exit {c d : Cursor} : Exits c d → Iterates c 0 d
  | goOn {c d e : Cursor} {n : Nat} : GoesOn c d → Iterates d n e → Iterates c (n + 1) e

variable {t : Text} {c d : Cursor}

/-- An iteration that does not leave the loop goes forward in its text, by the comma at least. -/
theorem GoesOn.ahead (h : GoesOn c d) : c.Ahead d ∧ c.offset + 1 ≤ d.offset := by
  obtain ⟨hcomma, -⟩ := h
  have helement := ahead_of_composed composed_element c.skipBlanks.next.skipBlanks
  have hfollowing : c.Ahead c.skipBlanks.next.skipBlanks :=
    Cursor.ahead_trans (Cursor.ahead_skipWhile isWhiteSpace c)
      (Cursor.ahead_trans (Cursor.ahead_next _) (Cursor.ahead_skipWhile isWhiteSpace _))
  -- Nothing but the comma is sure to be passed over: the element may be empty.
  exact ⟨Cursor.ahead_trans hfollowing helement,
    Nat.le_trans (offset_lt_of_comma hcomma) helement.offset_le⟩

/-- The loop ends after at most as many iterations as there are characters left. -/
theorem exists_iterates (c : Cursor) :
    ∃ n, Iterates c n (moreElements c).cursor ∧ n ≤ c.rest.length := by
  fun_induction moreElements c with
  | case1 c separator hcomma following hclose =>
    exact ⟨0, .exit (.closed hcomma hclose), Nat.zero_le _⟩
  | case2 c separator hcomma following hopen p ih =>
    obtain ⟨n, hiterates, hle⟩ := ih
    refine ⟨n + 1, .goOn (.element hcomma (Bool.eq_false_iff.mpr hopen)) hiterates, ?_⟩
    exact Nat.lt_of_le_of_lt hle (length_listRound_lt hcomma)
  | case3 c separator hcomma =>
    exact ⟨0, .exit (.noComma (Bool.eq_false_iff.mpr hcomma)), Nat.zero_le _⟩

end Routine

/-! ## Recoveries -/

/-- A recovery goes to where the search from its violation ends, and never back. -/
theorem Cursor.InText.forward_recovery {t : Text} {c : Cursor} (hc : c.InText t) {kind : Violation}
    {r : Recovery} (hr : r ∈ (c.incident kind).recovery) :
    c.offset ≤ r.position ∧ c.offset + r.skipped = r.position ∧
      ∃ chars, kind.resumesAt? = some chars ∧ r.position = syncPosition t c.offset chars := by
  obtain ⟨point, hpoint, rfl⟩ := Option.map_eq_some_iff.mp hr
  have hskipped := (hc.leads_recovery point.syncChars).position_eq
  refine ⟨by omega, hskipped, point.syncChars, ?_, hc.synchronize point.syncChars⟩
  rw [resumesAt?_eq, hpoint]
  rfl

open Routine

/-- Every routine of a check that starts in the text ends in it, not before where it started, and
every recovery on its way goes forward.  Each iteration of the loop over the elements that does not
leave it goes forward by one character at least, so the loop ends after no more iterations than
there are characters left.  The check ends at the end of the text. -/
theorem check_progresses (t : Text) :
    (∀ r, OfCheck r → ∀ c : Cursor, c.InText t →
      (r c).cursor.InText t ∧ c.offset ≤ (r c).cursor.offset ∧
      ∃ incidents : List Incident, (r c).events = incidents.flatMap Incident.events ∧
        ∀ i ∈ incidents, ∀ recovery ∈ i.recovery,
          i.diagnostic.position ≤ recovery.position ∧
          i.diagnostic.position + recovery.skipped = recovery.position ∧
          ∃ chars, i.diagnostic.kind.resumesAt? = some chars ∧
            recovery.position = syncPosition t i.diagnostic.position chars) ∧
    (∀ c d : Cursor, GoesOn c d → c.InText t → d.InText t ∧ c.offset + 1 ≤ d.offset) ∧
    (∀ c : Cursor, c.InText t → ∃ n, Iterates c n (moreElements c).cursor ∧
      c.offset + n ≤ t.length) ∧
    (declaration (.start t)).cursor = ⟨t.length, []⟩ := by
  refine ⟨?_, ?_, ?_, ?_⟩
  · intro r hr c hc
    have hahead := ahead_of_composed hr.composed c
    obtain ⟨incidents, hevents, hreports⟩ := recorded_of_composed hr.composed c
    refine ⟨hc.ahead hahead, hahead.offset_le, incidents, hevents, ?_⟩
    intro i hi recovery hrecovery
    obtain ⟨d, kind, hcd, rfl⟩ := hreports i hi
    exact (hc.ahead hcd).forward_recovery hrecovery
  · intro c d hgoes hc
    exact ⟨hc.ahead hgoes.ahead.1, hgoes.ahead.2⟩
  · intro c hc
    obtain ⟨n, hiterates, hle⟩ := exists_iterates c
    have hlength : c.rest.length = t.length - c.offset := by rw [hc.rest_eq, List.length_drop]
    have hoffset := hc.offset_le
    exact ⟨n, hiterates, by omega⟩
  · have hend := (Cursor.inText_start t).ahead (ahead_of_composed composed_declaration _)
    have hrest := rest_declaration (.start t)
    rw [← hrest, ← hend.offset_eq_length hrest]

/-- A text that breaks off behind a comma and a sign. -/
theorem check_progresses_bare_sign :
    let t := "x=[1,-".toList
    let behindOne : Cursor := ⟨4, ",-".toList⟩
    OfCheck element ∧ behindOne.InText t ∧ (element behindOne).cursor.InText t ∧
      4 ≤ (element behindOne).cursor.offset ∧ GoesOn behindOne ⟨6, []⟩ ∧ 4 + 1 ≤ 6 ∧
      (∃ n, Iterates behindOne n (moreElements behindOne).cursor ∧ 4 + n ≤ t.length) ∧
      (declaration (.start t)).cursor = ⟨6, []⟩ := by
  intro t behindOne
  obtain ⟨hroutines, hgoes, hloop, hend⟩ := check_progresses t
  have hone : behindOne.InText t := ⟨by decide, rfl⟩
  have hround : GoesOn behindOne ⟨6, []⟩ := .element rfl rfl
  obtain ⟨hin, hforward, -⟩ := hroutines element .element behindOne hone
  exact ⟨.element, hone, hin, hforward, hround, (hgoes _ _ hround hone).2, hloop _ hone, hend⟩

end TypedList
