import TypedList.Proofs.Verdicts

/-!
# Accepted texts

The check accepts the list declarations and nothing else, and where it does not accept a text its
first diagnostic stands at the earliest possible position.

Main results:

- Theorem `diagnose_eq_nil_iff`: nothing is found in a text exactly when it is a list declaration.
- Theorem `longestViablePrefix_of_diagnose`: the first diagnostic stands behind the longest prefix
  of the text that can be completed to an accepted text.
-/

namespace TypedList

open Grammar

/-! ## The end of a check -/

namespace Routine

/-- Routines in order end where the last of them does. -/
theorem cursor_inOrder_concat (rs : List Routine) (r : Routine) (c : Cursor) :
    (inOrder (rs ++ [r]) c).cursor = (r (inOrder rs c).cursor).cursor := by
  induction rs generalizing c with
  | nil => rfl
  | cons s rs ih => exact ih (s c).cursor

/-- The last routine leaves nothing of the text. -/
theorem rest_ending (c : Cursor) : (ending c).cursor.rest = [] := by
  unfold ending
  split <;> rename_i h
  · exact List.isEmpty_iff.mp h
  · rfl

/-- A check leaves nothing of its text, whatever it finds. -/
theorem rest_declaration (c : Cursor) : (declaration c).cursor.rest = [] := by
  have hlast : declaration = inOrder
      ([blanks, name, blanks, expect .assign, blanks, expect .openBracket, elements,
        blanks, expect .closeBracket, blanks, expect .semicolon, blanks] ++ [ending]) := rfl
  rw [hlast, cursor_inOrder_concat]
  exact rest_ending _

end Routine

/-! ## Accepted texts -/

/-- The events of a check that find nothing are none. -/
theorem head?_diagnose {t : Text} {d : Diagnostic} (h : (checkEvents t).head? = some (.found d)) :
    (diagnose t).head? = some d := by
  rcases hevents : checkEvents t with - | ⟨event, events⟩
  · rw [hevents] at h
    contradiction
  · rw [hevents, List.head?_cons, Option.some.injEq] at h
    subst h
    simp [diagnose, hevents, Event.diagnostic?]

/-- A check finds nothing in a declaration, or its first diagnostic stands at the first character
that belongs to none. -/
theorem mem_declaration_or_rejects (t : Text) :
    (diagnose t = [] ∧ t ∈ declaration) ∨
      ∃ d passed left, (diagnose t).head? = some d ∧ d.position = passed.length ∧
        t = passed ++ left ∧ Rejects declaration passed left := by
  have hverdict := Routine.reads_declaration (.start t)
  cases hverdict with
  | clean hevents hleads =>
    left
    rcases hleads with ⟨passed, hpasses, hleaves⟩
    have hrest := hpasses.rest_eq
    rw [Routine.rest_declaration] at hleaves hrest
    refine ⟨by simp [diagnose, checkEvents, hevents], ?_⟩
    have hmem : passed ++ [] ∈ declaration := hleaves.mem_iff.mpr rfl
    rw [← hrest] at hmem
    exact hmem
  | fault d kind hfirst hstuck =>
    right
    rcases hstuck with ⟨passed, hpasses, hrejects⟩
    refine ⟨d.diagnostic kind, passed, d.rest, head?_diagnose hfirst, ?_, hpasses.rest_eq,
      hrejects⟩
    have hoffset := hpasses.offset_eq
    rw [Cursor.start, Nat.zero_add] at hoffset
    exact hoffset

/-- Nothing is found in a text exactly when the language of declarations holds it. -/
theorem diagnose_eq_nil_iff_mem (t : Text) : diagnose t = [] ↔ t ∈ declaration := by
  rcases mem_declaration_or_rejects t with ⟨hnil, hmem⟩ | ⟨d, passed, left, hfirst, -, rfl, hrejects⟩
  · exact ⟨fun _ => hmem, fun _ => hnil⟩
  · constructor
    · intro hnil
      rw [hnil] at hfirst
      contradiction
    · intro hmem
      exact absurd hmem (hrejects.fatal left rfl)

/-- Nothing is found in a text exactly when it is a list declaration. -/
theorem diagnose_eq_nil_iff (t : Text) : diagnose t = [] ↔ IsDeclaration t := by
  rw [diagnose_eq_nil_iff_mem, mem_declaration]

/-! ## Viable prefixes -/

/-- A text that can be completed to an accepted one. -/
def Viable (t : Text) : Prop :=
  ∃ s, diagnose (t ++ s) = []

/-- A viable text begins a declaration. -/
theorem viable_iff_mem {t : Text} : Viable t ↔ ∃ s, t ++ s ∈ declaration := by
  simp only [Viable, diagnose_eq_nil_iff_mem]

/-- What begins a viable text is viable. -/
theorem Viable.take {t : Text} (n : Nat) (h : Viable t) : Viable (t.take n) := by
  rcases h with ⟨s, hs⟩
  refine ⟨t.drop n ++ s, ?_⟩
  rw [← List.append_assoc, List.take_append_drop]
  exact hs

/-- The first characters of a text, up to a position, can be completed to an accepted text, and no
more of them can. -/
structure LongestViablePrefix (t : Text) (position : Nat) : Prop where
  le_length : position ≤ t.length
  viable : ∃ s, diagnose (t.take position ++ s) = []
  fatal : position < t.length → ∀ s, diagnose (t.take (position + 1) ++ s) ≠ []
  longest : ∀ n ≤ t.length, Viable (t.take n) ↔ n ≤ position
  at_end : position = t.length ↔ Viable t

/-- One character more than the longest viable prefix is too many, so are all greater numbers. -/
theorem LongestViablePrefix.of_fatal {t : Text} {position : Nat} (hle : position ≤ t.length)
    (hviable : Viable (t.take position))
    (hfatal : position < t.length → ¬ Viable (t.take (position + 1))) :
    LongestViablePrefix t position := by
  have hlongest : ∀ n ≤ t.length, Viable (t.take n) ↔ n ≤ position := by
    intro n hn
    constructor
    · intro hprefix
      by_contra hlt
      have hshorter := hprefix.take (position + 1)
      rw [List.take_take, Nat.min_eq_left (by omega)] at hshorter
      exact hfatal (by omega) hshorter
    · intro hnle
      have hshorter := hviable.take n
      rwa [List.take_take, Nat.min_eq_left hnle] at hshorter
  refine ⟨hle, hviable, ?_, hlongest, ?_⟩
  · intro hlt s hs
    exact hfatal hlt ⟨s, hs⟩
  · have hwhole := hlongest t.length le_rfl
    rw [List.take_length] at hwhole
    rw [hwhole]
    omega

/-- Where the language of declarations rejects a prefix, it is the longest viable one. -/
theorem longestViablePrefix_of_rejects {passed left : Text}
    (h : Rejects declaration passed left) :
    LongestViablePrefix (passed ++ left) passed.length := by
  apply LongestViablePrefix.of_fatal
  · simp
  · rw [List.take_left, viable_iff_mem]
    exact h.viable
  · intro hlt hviable
    rcases left with - | ⟨c, left⟩
    · simp at hlt
    · rw [viable_iff_mem] at hviable
      rcases hviable with ⟨s, hs⟩
      have htake : (passed ++ c :: left).take (passed.length + 1) = passed ++ [c] := by
        simp [List.take_append]
      rw [htake, List.append_assoc] at hs
      exact h.fatal ([c] ++ s) rfl hs

/-- The first diagnostic stands behind the longest viable prefix of the text. -/
theorem longestViablePrefix_of_diagnose {t : Text} {first : Diagnostic} {others : List Diagnostic}
    (h : diagnose t = first :: others) : LongestViablePrefix t first.position := by
  rcases mem_declaration_or_rejects t with ⟨hnil, -⟩ | ⟨d, passed, left, hfirst, hposition, rfl,
    hrejects⟩
  · rw [hnil] at h
    contradiction
  · rw [h, List.head?_cons, Option.some.injEq] at hfirst
    rw [hfirst, hposition]
    exact longestViablePrefix_of_rejects hrejects

/-- In a list whose second number has a sign but no digit, everything up to the sign is viable. -/
theorem longestViablePrefix_bare_sign :
    diagnose "ab=[1, -x];".toList = [⟨.missingDigitAfterSign, .char 'x', 8⟩] ∧
      LongestViablePrefix "ab=[1, -x];".toList 8 := by
  have hfound : diagnose "ab=[1, -x];".toList = [⟨.missingDigitAfterSign, .char 'x', 8⟩] := by
    decide +kernel
  exact ⟨hfound, longestViablePrefix_of_diagnose hfound⟩

end TypedList
