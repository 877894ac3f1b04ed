import TypedList.Proofs.Coverage
import TypedList.Proofs.Stages

/-!
# How much can be found

A check pays for what it finds.  The digits of a name and the commas of a list pay with themselves,
and the points of the grammar have a credit of one each.  A name with a letter pays for one of these
points, and a missing opening bracket is found in place of the elements; only where the text is used
up before its `=` is the credit all that there is.

Main results:

- Theorem `Routine.paidBy_moreElements`: the elements behind the first pay with their commas.
- Theorem `Routine.length_headPart_le`: the name and `=` pay for each other, or the text ends
  there.
- Theorem `length_diagnose_sharp`: the most that can be found in a text, by its length.
-/

namespace TypedList

/-! ## Paying with text -/

namespace Pass

/-- What a pass from a cursor finds is paid for by the characters that it passes over and a credit.
A credit below zero is what is left over. -/
structure PaidBy (c : Cursor) (p : Pass) (credit : Int) : Prop where
  le : (p.diagnostics.length : Int) + p.cursor.rest.length ≤ c.rest.length + credit

variable {c d : Cursor} {p q : Pass} {m n : Int}

/-- Passing over text without a finding costs nothing. -/
theorem paidBy_silent (h : c.Ahead d) : PaidBy c (silent d) 0 := by
  have hlength := h.length_le
  constructor
  rw [diagnostics_silent, cursor_silent, List.length_nil]
  omega

/-- One pass behind another has the credit of both. -/
theorem PaidBy.append (hp : PaidBy c p m) (hq : PaidBy p.cursor q n) :
    PaidBy c (p.append q) (m + n) := by
  have hfirst := hp.le
  have hsecond := hq.le
  constructor
  rw [diagnostics_append, cursor_append, List.length_append]
  omega

/-- A greater credit pays as well. -/
theorem PaidBy.mono (hp : PaidBy c p m) (hle : m ≤ n) : PaidBy c p n :=
  ⟨hp.le.trans (Int.add_le_add_left hle _)⟩

end Pass

namespace Routine

variable {r s : Routine} {rs : List Routine} {K : Violation → Prop} {c : Cursor} {m n : Int}

/-- Two routines, one behind the other, have the credit of both. -/
theorem PaidBy.andThen (hr : (r c).PaidBy c m) (hs : ∀ d, (s d).PaidBy d n) :
    (andThen r s c).PaidBy c (m + n) :=
  Pass.PaidBy.append hr (hs _)

/-- Where at most one violation is found, a credit of one is enough. -/
theorem paidBy_of_atMostOne (hahead : c.Ahead (r c).cursor)
    (hone : AtMostOne K (r c).diagnostics) : (r c).PaidBy c 1 := by
  have hrest := hahead.length_le
  have hlength := hone.length_le
  constructor
  omega

/-- White space is free. -/
theorem paidBy_blanks (c : Cursor) : (blanks c).PaidBy c 0 :=
  Pass.paidBy_silent (Cursor.ahead_skipWhile _ c)

/-- A delimiter costs no more than the report that it is missing. -/
theorem paidBy_expect (delimiter : Delimiter) (c : Cursor) : (expect delimiter c).PaidBy c 1 :=
  paidBy_of_atMostOne (forward_expect delimiter c) (atMostOne_expect delimiter c)

/-- A character that is passed over in silence is left over. -/
theorem paidBy_next {p : Char → Bool} (h : c.startsWith p = true) :
    (Pass.silent c.next).PaidBy c (-1) := by
  have hlength := Cursor.length_next_lt h
  constructor
  rw [Pass.diagnostics_silent, Pass.cursor_silent, List.length_nil]
  omega

/-- A delimiter is passed over, or it is missing and the check goes on at a synchronization
character. -/
theorem paidBy_expect_or_missing (delimiter : Delimiter) (c : Cursor) :
    (expect delimiter c).PaidBy c (-1) ∨ (expect delimiter c).diagnostics ≠ [] := by
  unfold expect
  split <;> rename_i hfound
  · exact Or.inl (paidBy_next hfound)
  · right
    simp

/-! ## Names -/

/-- Every digit of a name pays for itself. -/
theorem paidBy_nameTail (c : Cursor) : (nameTail c).PaidBy c 0 := by
  obtain ⟨offset, rest⟩ := c
  induction rest generalizing offset with
  | nil => exact Pass.paidBy_silent (Cursor.ahead_refl _)
  | cons x rest ih =>
    by_cases hx : x.isAlphanum = true
    · have htail := (ih (offset + 1)).le
      have hfound : (nameTail ⟨offset, x :: rest⟩).diagnostics.length ≤
          1 + (nameTail ⟨offset + 1, rest⟩).diagnostics.length := by
        rw [nameTail_cons _ _ hx, Pass.diagnostics, List.filterMap_append, List.length_append]
        cases x.isDigit <;> simp [Event.diagnostic?, Pass.diagnostics]
      have hcursor : (nameTail ⟨offset, x :: rest⟩).cursor =
          (nameTail ⟨offset + 1, rest⟩).cursor := by
        rw [nameTail_cons _ _ hx]
      constructor
      rw [hcursor]
      simp only [List.length_cons] at htail ⊢
      omega
    · have hnone : nameTail ⟨offset, x :: rest⟩ = .silent ⟨offset, x :: rest⟩ := by
        simp [nameTail, Cursor.skipWhile, hx, Pass.silent]
      rw [hnone]
      exact Pass.paidBy_silent (Cursor.ahead_refl _)

/-- A name leaves its first letter over, or no letter begins it and the check goes on at the next
`=`. -/
theorem paidBy_name_or_missing (c : Cursor) :
    (name c).PaidBy c (-1) ∨
      (name c).diagnostics.length = 1 ∧ Stops (· ∉ ['=']) (name c).cursor.rest := by
  unfold name
  split <;> rename_i hletter
  · have htail := (paidBy_next hletter).append (paidBy_nameTail c.next)
    exact Or.inl htail
  · refine Or.inr ⟨?_, stops_dropWhile (· ∉ GrammarPoint.identifier.syncChars) c.rest⟩
    rw [diagnostics_report, List.length_singleton]

/-! ## Elements -/

/-- An element costs no more than one report. -/
theorem paidBy_element (c : Cursor) : (element c).PaidBy c 1 :=
  paidBy_of_atMostOne (forward_element c) (onlyElement_element c)

/-- Each round of the loop pays for its element with its comma. -/
theorem paidBy_moreElements (c : Cursor) : (moreElements c).PaidBy c 0 := by
  fun_induction moreElements c with
  | case1 c separator hcomma following hclose =>
    refine Pass.paidBy_silent (Cursor.ahead_trans (Cursor.ahead_skipWhile isWhiteSpace c) ?_)
    exact Cursor.ahead_trans (Cursor.ahead_next _) (Cursor.ahead_skipWhile isWhiteSpace _)
  | case2 c separator hcomma following hopen p ih =>
    have hseparator : (Pass.silent separator).PaidBy c 0 := paidBy_blanks c
    have hfollowing : (Pass.silent following).PaidBy separator.next 0 := paidBy_blanks _
    have helement : p.PaidBy following 1 := paidBy_element following
    exact (hseparator.append ((paidBy_next hcomma).append
      (hfollowing.append (helement.append ih))))
  | case3 c separator hcomma => exact paidBy_blanks c

/-- So do all elements together, since each one behind the first comes with a comma. -/
theorem paidBy_elements (c : Cursor) : (elements c).PaidBy c 1 := by
  have hblanks := paidBy_blanks c
  simp only [elements]
  split
  · exact hblanks.mono (by decide)
  · exact hblanks.append ((paidBy_element _).append (paidBy_moreElements _))

/-! ## The parts of a declaration -/

/-- The check of the name and the `=`. -/
def headPart : Routine :=
  inOrder [blanks, name, blanks, expect .assign]

/-- The check of the opening bracket and the elements. -/
def listPart : Routine :=
  inOrder [blanks, expect .openBracket, elements]

/-- The check from the closing bracket on. -/
def endPart : Routine :=
  inOrder [blanks, expect .closeBracket, blanks, expect .semicolon, blanks, ending]

/-- The check is cut into three parts that are paid for separately. -/
theorem declaration_eq : declaration = andThen headPart (andThen listPart endPart) := by
  rw [headPart, listPart, endPart, ← inOrder_append, ← inOrder_append]
  rfl

/-- Doing nothing costs nothing. -/
theorem paidBy_nil (c : Cursor) : (inOrder [] c).PaidBy c 0 :=
  Pass.paidBy_silent (Cursor.ahead_refl c)

/-- Looking for `=` costs no more than one report. -/
theorem paidBy_assignment (c : Cursor) : (inOrder [blanks, expect .assign] c).PaidBy c 1 :=
  (paidBy_blanks c).append ((paidBy_expect .assign _).append (paidBy_nil _))

/-- Where the check stands at an `=`, it passes over it. -/
theorem paidBy_assignment_of_stops (hstops : Stops (· ∉ ['=']) c.rest) (hrest : c.rest ≠ []) :
    (inOrder [blanks, expect .assign] c).PaidBy c (-1) := by
  obtain ⟨offset, rest⟩ := c
  obtain ⟨x, rest, rfl⟩ := List.exists_cons_of_ne_nil hrest
  have hx : x = '=' := by simpa using hstops
  subst hx
  exact paidBy_next (p := (· = '=')) rfl

/-- The name and the `=` pay for each other, or both are missing and the text is used up. -/
theorem length_headPart_le (c : Cursor) :
    (headPart c).diagnostics.length + (headPart c).cursor.rest.length ≤ max 2 c.rest.length := by
  have hpaid {m n : Int} (hname : (name c.skipBlanks).PaidBy c.skipBlanks m)
      (hassign : (inOrder [blanks, expect .assign] (name c.skipBlanks).cursor).PaidBy
        (name c.skipBlanks).cursor n) : (headPart c).PaidBy c (0 + (m + n)) :=
    (paidBy_blanks c).append (hname.append hassign)
  rcases paidBy_name_or_missing c.skipBlanks with hname | ⟨hone, hstops⟩
  · have hhead := (hpaid hname (paidBy_assignment _)).le
    omega
  · by_cases hrest : (name c.skipBlanks).cursor.rest = []
    · -- the name and the `=` are found missing, one at a time
      have hassign := (paidBy_assignment (name c.skipBlanks).cursor).le
      have hfound : (headPart c).diagnostics.length = 1 +
          (inOrder [blanks, expect .assign] (name c.skipBlanks).cursor).diagnostics.length := by
        rw [← hone, ← List.length_append, ← Pass.diagnostics_append]
        rfl
      have hcursor : (headPart c).cursor =
          (inOrder [blanks, expect .assign] (name c.skipBlanks).cursor).cursor := rfl
      rw [hrest] at hassign
      rw [hfound, hcursor]
      simp only [List.length_nil] at hassign
      omega
    · have hname : (name c.skipBlanks).PaidBy c.skipBlanks 1 := by
        have hlength := (ahead_of_composed composed_name c.skipBlanks).length_le
        constructor
        omega
      have hhead := (hpaid hname (paidBy_assignment_of_stops hstops hrest)).le
      omega

/-- An opening bracket pays for the first element.  Where it is missing, no element is looked
for. -/
theorem paidBy_listPart (c : Cursor) : (listPart c).PaidBy c 1 := by
  rcases paidBy_expect_or_missing .openBracket c.skipBlanks with hfound | hmissing
  · have hlist : (listPart c).PaidBy c 0 :=
      (paidBy_blanks c).append (hfound.append ((paidBy_elements _).append (paidBy_nil _)))
    exact hlist.mono (by decide)
  · have hnone : (elements (expect .openBracket c.skipBlanks).cursor).PaidBy
        (expect .openBracket c.skipBlanks).cursor 0 := by
      rw [elements_of_closed (stops_expect_of_missing hmissing)]
      exact Pass.paidBy_silent (Cursor.ahead_refl _)
    exact (paidBy_blanks c).append
      ((paidBy_expect .openBracket _).append (hnone.append (paidBy_nil _)))

/-- The last symbol is missing, or something stands behind it, but not both. -/
theorem paidBy_end (c : Cursor) : (inOrder [expect .semicolon, blanks, ending] c).PaidBy c 1 := by
  have hcomposed : Composed (inOrder [expect .semicolon, blanks, ending]) :=
    composed_of_mem_declaration (by simp)
  have hahead := ahead_of_composed hcomposed c
  have hdiagnostics : (inOrder [expect .semicolon, blanks, ending] c).diagnostics =
      (expect .semicolon c).diagnostics ++
        (ending (expect .semicolon c).cursor.skipBlanks).diagnostics := by
    simp only [inOrder, blanks, Pass.silent_append, Pass.cursor_silent, Pass.diagnostics_append,
      Pass.diagnostics_silent, List.append_nil]
  have hone := atMostOne_end c
  rw [← hdiagnostics] at hone
  exact paidBy_of_atMostOne hahead hone

/-- What follows the elements costs no more than two reports, since the semicolon and the ending are
not both reported. -/
theorem paidBy_endPart (c : Cursor) : (endPart c).PaidBy c 2 :=
  (paidBy_blanks c).append ((paidBy_expect .closeBracket _).append
    ((paidBy_blanks _).append (paidBy_end _)))

end Routine

/-! ## The most that is found -/

open Routine

variable {digits : Text} {c : Char}

/-- The name and the `=` are paid for by the text, or there are two diagnostics for them; all that
stands behind them has a credit of three. -/
theorem length_diagnose_le (t : Text) : (diagnose t).length ≤ max 5 (t.length + 3) := by
  have hhead := length_headPart_le (.start t)
  have hbehind :=
    (PaidBy.andThen (paidBy_listPart (headPart (.start t)).cursor) paidBy_endPart).le
  have hrest : (Cursor.start t).rest.length = t.length := rfl
  rw [diagnose_eq, declaration_eq, andThen, Pass.diagnostics_append, List.length_append]
  omega

/-- As many findings as there are digits. -/
theorem length_nameFindings (n : Nat) (hdigits : ∀ d ∈ digits, d.isDigit = true) :
    (nameFindings n digits).length = digits.length := by
  induction digits generalizing n with
  | nil => rfl
  | cons d digits ih =>
    have hrest := ih (n + 1) fun e he => hdigits e (List.mem_cons_of_mem d he)
    rw [nameFindings, if_pos (hdigits d List.mem_cons_self), List.length_cons, hrest,
      List.length_cons]

/-- At the end of the text, behind a name, four symbols are missing. -/
theorem length_diagnostics_atEnd (n : Nat) :
    (inOrder [blanks, expect .assign, blanks, expect .openBracket, elements, blanks,
      expect .closeBracket, blanks, expect .semicolon, blanks, ending]
        ⟨n, []⟩).diagnostics.length = 4 := by
  have hblanks : blanks ⟨n, []⟩ = .silent ⟨n, []⟩ := rfl
  have hcursor (delimiter : Delimiter) : (expect delimiter ⟨n, []⟩).cursor = ⟨n, []⟩ := rfl
  have hfound (delimiter : Delimiter) : (expect delimiter ⟨n, []⟩).diagnostics.length = 1 := rfl
  have helements : elements ⟨n, []⟩ = .silent ⟨n, []⟩ := rfl
  have hending : ending ⟨n, []⟩ = .silent ⟨n, []⟩ := rfl
  simp only [inOrder, hblanks, hcursor, helements, hending, Pass.silent_append, Pass.cursor_silent,
    Pass.diagnostics_append, Pass.diagnostics_silent, List.length_append, hfound, List.length_nil]

/-- A letter and digits have a diagnostic for each of the digits and four for what is missing. -/
theorem length_diagnose_name (hc : c.isAlpha = true) (hdigits : ∀ d ∈ digits, d.isDigit = true) :
    (diagnose (c :: digits)).length = digits.length + 4 := by
  have hname : IsLooseName (c :: digits) := by
    refine ⟨hc, ?_⟩
    intro d hd
    rcases List.mem_cons.mp hd with rfl | hd
    · exact isAlphanum_of_isAlpha hc
    · exact isAlphanum_of_isDigit (hdigits d hd)
  have hnamed : Covers (inOrder [blanks, name]) 0 (c :: digits) [] (nameFindings 0 (c :: digits)) :=
    covers_named isBlank_nil hname (stops_nil _)
  have hfound := congrArg List.length hnamed.findings
  have hcursor := hnamed.cursor
  rw [List.append_nil] at hfound hcursor
  rw [Pass.findings, List.length_map, nameFindings, isDigit_of_isAlpha hc, if_neg (by decide),
    length_nameFindings _ hdigits] at hfound
  have hsplit : declaration = andThen (inOrder [blanks, name]) (inOrder [blanks, expect .assign,
      blanks, expect .openBracket, elements, blanks, expect .closeBracket, blanks,
      expect .semicolon, blanks, ending]) := by
    rw [← inOrder_append]
    rfl
  rw [diagnose_eq, hsplit, andThen, Pass.diagnostics_append, List.length_append, Cursor.start,
    hfound, hcursor, length_diagnostics_atEnd]

/-- A text of `n` characters has at most `n + 3` diagnostics, or five if it is very short, and for
every length some text has as many. -/
theorem length_diagnose_sharp :
    (∀ t : Text, (diagnose t).length ≤ max 5 (t.length + 3)) ∧
      ∀ n, ∃ t : Text, t.length = n ∧ (diagnose t).length = max 5 (n + 3) := by
  refine ⟨length_diagnose_le, ?_⟩
  intro n
  match n with
  | 0 => exact ⟨[], rfl, rfl⟩
  | 1 => exact ⟨['?'], rfl, by decide +kernel⟩
  | n + 2 =>
    have hdigits : ∀ d ∈ List.replicate (n + 1) '1', d.isDigit = true := by
      intro d hd
      rw [List.eq_of_mem_replicate hd]
      rfl
    refine ⟨'a' :: List.replicate (n + 1) '1', by simp, ?_⟩
    rw [length_diagnose_name rfl hdigits, List.length_replicate]
    omega

end TypedList
