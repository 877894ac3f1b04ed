import Mathlib.Data.List.TakeWhile
import Mathlib.Logic.Function.Iterate
import TypedList.Check.Declaration

/-!
# How a check is put together

The routines of a check are put together from four: to stay, to pass over one character, to pass
over a run of characters, and to report a violation.  A routine may look at the next character to
choose between two others, run one behind another, or run rounds for as long as text is left.  A
property of routines that these steps keep is therefore a property of the whole check.

Main results:

- Theorem `Routine.composed_of_rounds`: a loop is put together from its rounds.
- Theorem `Routine.composed_declaration`: so is the whole check from the four routines.
-/

namespace TypedList

/-! ## What a pass finds -/

namespace Pass

/-- The diagnostics of a pass, in order. -/
def diagnostics (p : Pass) : List Diagnostic :=
  p.events.filterMap Event.diagnostic?

@[simp]
theorem diagnostics_silent (c : Cursor) : (silent c).diagnostics = [] :=
  rfl

@[simp]
theorem diagnostics_append (p q : Pass) :
    (p.append q).diagnostics = p.diagnostics ++ q.diagnostics :=
  List.filterMap_append

@[simp]
theorem cursor_silent (c : Cursor) : (silent c).cursor = c :=
  rfl

@[simp]
theorem cursor_append (p q : Pass) : (p.append q).cursor = q.cursor :=
  rfl

@[simp]
theorem silent_append (c : Cursor) (p : Pass) : (silent c).append p = p :=
  rfl

/-- It does not matter which of three passes are joined first. -/
theorem append_assoc (p q r : Pass) : (p.append q).append r = p.append (q.append r) := by
  simp only [append, List.append_assoc]

end Pass

/-- The diagnostics of a text are those of the check from its start. -/
theorem diagnose_eq (t : Text) : diagnose t = (Routine.declaration (.start t)).diagnostics :=
  rfl

/-- A character of the class is the first that is passed over. -/
theorem Cursor.skipWhile_cons_of_pos {p : Char → Bool} {offset : Nat} {x : Char} {rest : Text}
    (hx : p x = true) : (⟨offset, x :: rest⟩ : Cursor).skipWhile p =
      (⟨offset + 1, rest⟩ : Cursor).skipWhile p := by
  simp only [skipWhile, List.takeWhile_cons_of_pos hx, List.dropWhile_cons_of_pos hx,
    List.length_cons, Cursor.mk.injEq, and_true]
  omega

/-- Every character belongs to the class of all of them. -/
theorem Cursor.skipWhile_true (c : Cursor) : c.skipWhile (fun _ => true) = c.toEnd := by
  have htake : c.rest.takeWhile (fun _ => true) = c.rest :=
    List.takeWhile_eq_self_iff.mpr fun _ _ => rfl
  have hdrop : c.rest.dropWhile (fun _ => true) = [] :=
    List.dropWhile_eq_nil_iff.mpr fun _ _ => rfl
  simp only [skipWhile, toEnd, htake, hdrop]

namespace Routine

/-! ## Choices and sequences -/

/-- Runs the first routine, and the second one where the first one ends. -/
def andThen (r s : Routine) : Routine := fun c =>
  (r c).append (s (r c).cursor)

/-- Runs the first routine if a character with the given property stands at the cursor, and the
second one if not. -/
def branch (p : Char → Bool) (r s : Routine) : Routine := fun c =>
  if c.startsWith p then r c else s c

/-- Passes over one character. -/
def next : Routine := fun c =>
  .silent c.next

/-- Passes over the characters with the given property. -/
def skipWhile (p : Char → Bool) : Routine := fun c =>
  .silent (c.skipWhile p)

@[simp]
theorem andThen_next (r : Routine) (c : Cursor) : andThen next r c = r c.next :=
  rfl

@[simp]
theorem andThen_blanks (r : Routine) (c : Cursor) : andThen blanks r c = r c.skipBlanks :=
  rfl

/-- A routine that is put together from the simple ones by choices, sequences and loops. -/
inductive Composed : Routine → Prop
  | stay : Composed .silent
  | next : Composed next
  | skipWhile (p : Char → Bool) : Composed (skipWhile p)
  | report (kind : Violation) : Composed (report kind)
  | branch (p : Char → Bool) {r s : Routine} :
      Composed r → Composed s → Composed (branch p r s)
  | andThen {r s : Routine} : Composed r → Composed s → Composed (andThen r s)
  /-- For texts up to each length the routine is one that is put together. -/
  | limit {r : Routine} (s : Nat → Routine) :
      (∀ n, Composed (s n)) → (∀ n c, c.rest.length ≤ n → r c = s n c) → Composed r

variable {r : Routine} {rs : List Routine} {c : Cursor}

/-- A loop is put together from its rounds if every round leaves less text for the next one. -/
theorem composed_of_rounds (round : Routine → Routine)
    (hround : ∀ s, Composed s → Composed (round s))
    (hloop : ∀ s c, (∀ d, d.rest.length < c.rest.length → r d = s d) → r c = round s c) :
    Composed r := by
  refine .limit (fun n => round^[n + 1] .silent) ?_ ?_
  · intro n
    induction n with
    | zero => exact hround _ .stay
    | succ n ih =>
      rw [Function.iterate_succ_apply']
      exact hround _ ih
  · intro n
    induction n with
    | zero =>
      intro c hc
      exact hloop _ c fun d hd => absurd hd (by omega)
    | succ n ih =>
      intro c hc
      rw [Function.iterate_succ_apply']
      exact hloop _ c fun d hd => ih d (by omega)

/-! ## The routines of a declaration -/

/-- Looking for a delimiter is a choice between a move and a report. -/
theorem composed_expect (delimiter : Delimiter) : Composed (expect delimiter) :=
  .branch _ .next (.report _)

/-- A row of routines is put together if each of them is. -/
theorem composed_inOrder (h : ∀ r ∈ rs, Composed r) : Composed (inOrder rs) := by
  induction rs with
  | nil => exact .stay
  | cons r rs ih =>
    exact .andThen (h r List.mem_cons_self) (ih fun s hs => h s (List.mem_cons_of_mem r hs))

/-- Routines in order are the first of them and then the others. -/
theorem inOrder_append (rs ss : List Routine) :
    inOrder (rs ++ ss) = andThen (inOrder rs) (inOrder ss) := by
  induction rs with
  | nil => rfl
  | cons r rs ih =>
    funext c
    simp only [List.cons_append, inOrder, ih, andThen, Pass.append_assoc, Pass.cursor_append]

/-! ### Names -/

/-- One round of `nameTail`: a digit is reported and passed over, a letter is passed over. -/
def nameRound (s : Routine) : Routine :=
  branch Char.isDigit (andThen (report .digitInIdentifier) (andThen next s))
    (branch Char.isAlpha (andThen next s) .silent)

/-- A digit of a name is reported, and a letter is not. -/
theorem nameTail_cons (offset : Nat) (rest : Text) {x : Char} (hx : x.isAlphanum = true) :
    nameTail ⟨offset, x :: rest⟩ =
      ⟨(if x.isDigit then [.found ⟨.digitInIdentifier, .char x, offset⟩] else []) ++
        (nameTail ⟨offset + 1, rest⟩).events, (nameTail ⟨offset + 1, rest⟩).cursor⟩ := by
  simp only [nameTail, Cursor.skipWhile_cons_of_pos hx, List.takeWhile_cons_of_pos hx,
    List.zipIdx_cons, List.filter_cons]
  cases x.isDigit <;> rfl

/-- A name is checked in rounds of one character. -/
theorem nameTail_eq (c : Cursor) : nameTail c = nameRound nameTail c := by
  obtain ⟨offset, rest⟩ := c
  cases rest with
  | nil => rfl
  | cons x rest =>
    cases hdigit : x.isDigit with
    | true =>
      have halphanum : x.isAlphanum = true := by simp [Char.isAlphanum, hdigit]
      rw [nameTail_cons offset rest halphanum]
      simp only [nameRound, branch, Cursor.startsWith, List.head?_cons, Option.any_some, hdigit]
      rfl
    | false =>
      cases hletter : x.isAlpha with
      | true =>
        have halphanum : x.isAlphanum = true := by simp [Char.isAlphanum, hletter]
        rw [nameTail_cons offset rest halphanum]
        simp only [nameRound, branch, Cursor.startsWith, List.head?_cons, Option.any_some, hdigit,
          hletter]
        rfl
      | false =>
        have halphanum : x.isAlphanum = false := by simp [Char.isAlphanum, hdigit, hletter]
        simp [nameTail, nameRound, branch, Cursor.startsWith, Cursor.skipWhile, halphanum, hdigit,
          hletter, Pass.silent]

/-- The rest of a name is read character by character, in rounds. -/
theorem composed_nameTail : Composed nameTail := by
  apply composed_of_rounds nameRound
  · intro s hs
    exact .branch _ (.andThen (.report _) (.andThen .next hs)) (.branch _ (.andThen .next hs) .stay)
  · intro s c hagree
    have hnext {p : Char → Bool} (hc : c.startsWith p = true) :
        andThen next nameTail c = andThen next s c := hagree _ (Cursor.length_next_lt hc)
    rw [nameTail_eq]
    simp only [nameRound, branch]
    split <;> rename_i hdigit
    · exact congrArg (Pass.append _) (hnext hdigit)
    · split <;> rename_i hletter
      · exact hnext hletter
      · rfl

/-- A name is a choice at its first character. -/
theorem name_eq :
    name = branch Char.isAlpha (andThen next nameTail) (report .invalidIdentifierStart) :=
  rfl

/-- The check of a name is put together from the four routines. -/
theorem composed_name : Composed name :=
  .branch _ (.andThen .next composed_nameTail) (.report _)

/-! ### Elements -/

/-- A string is a quote, a run up to the next one, and that quote; either quote may be missing. -/
theorem string_eq :
    string = branch (· = '"')
      (andThen next (andThen (skipWhile (· ≠ '"'))
        (branch (· = '"') next (report .unterminatedString))))
      (report (.missingSymbol .openingQuote)) :=
  rfl

/-- A fraction is a choice at the point and another one behind it. -/
theorem fraction_eq :
    fraction = branch (· = '.')
      (andThen next
        (branch Char.isDigit (skipWhile Char.isDigit) (report .missingDigitAfterDot))) .silent :=
  rfl

/-- Digits are a run with a fraction behind it, or a report. -/
theorem digits_eq :
    digits = branch Char.isDigit (andThen (skipWhile Char.isDigit) fraction)
      (report .missingDigitAfterSign) :=
  rfl

/-- An element is a choice at its first character, behind white space. -/
theorem element_eq :
    element = andThen blanks (branch (· = '"') string
      (branch (fun ch => isSign ch || ch.isDigit) number (report .missingElement))) :=
  rfl

/-- The check of a string is put together from the four routines. -/
theorem composed_string : Composed string :=
  .branch _ (.andThen .next (.andThen (.skipWhile _) (.branch _ .next (.report _)))) (.report _)

/-- So is that of a fraction. -/
theorem composed_fraction : Composed fraction :=
  .branch _ (.andThen .next (.branch _ (.skipWhile _) (.report _))) .stay

/-- So is that of digits with a fraction. -/
theorem composed_digits : Composed digits :=
  .branch _ (.andThen (.skipWhile _) composed_fraction) (.report _)

/-- So is that of a number with its sign. -/
theorem composed_number : Composed number :=
  .branch _ (.andThen .next composed_digits) composed_digits

/-- So is that of an element of either kind. -/
theorem composed_element : Composed element :=
  .andThen (.skipWhile _)
    (.branch _ composed_string (.branch _ composed_number (.report _)))

/-! ### Lists of elements -/

/-- One round of `moreElements`: a comma, and an element unless the list is closed there. -/
def listRound (s : Routine) : Routine :=
  andThen blanks
    (branch (· = ',')
      (andThen next (andThen blanks (branch (· = ']') .silent (andThen element s)))) .silent)

/-- The elements behind the first one are checked in rounds of a comma and an element. -/
theorem moreElements_eq (c : Cursor) : moreElements c = listRound moreElements c := by
  rw [moreElements]
  simp only [listRound, andThen_blanks, branch, andThen_next]
  split
  · rfl
  · rfl

/-- Behind a comma and an element less text is left. -/
theorem length_listRound_lt (hcomma : c.skipBlanks.startsWith (· = ',') = true) :
    (element c.skipBlanks.next.skipBlanks).cursor.rest.length < c.rest.length := by
  have hblanks := (Cursor.ahead_skipWhile isWhiteSpace c).length_le
  have hnext := Cursor.length_next_lt hcomma
  have helement := (Cursor.ahead_trans (Cursor.ahead_skipWhile isWhiteSpace c.skipBlanks.next)
    (forward_element c.skipBlanks.next.skipBlanks)).length_le
  exact Nat.lt_of_le_of_lt helement (Nat.lt_of_lt_of_le hnext hblanks)

/-- The elements behind the first are checked in rounds, one for each comma. -/
theorem composed_moreElements : Composed moreElements := by
  apply composed_of_rounds listRound
  · intro s hs
    exact .andThen (.skipWhile _) (.branch _
      (.andThen .next (.andThen (.skipWhile _) (.branch _ .stay (.andThen composed_element hs))))
      .stay)
  · intro s c hagree
    rw [moreElements_eq]
    simp only [listRound, andThen_blanks, branch, andThen_next]
    split <;> rename_i hcomma
    · simp only [andThen, hagree _ (length_listRound_lt hcomma)]
    · rfl

/-- The elements are a choice at the closing bracket, behind white space. -/
theorem elements_eq :
    elements = andThen blanks
      (branch (fun _ => true) (branch (· = ']') .silent (andThen element moreElements))
        .silent) := by
  funext c
  simp only [elements, andThen_blanks, branch]
  cases hrest : c.skipBlanks.rest with
  | nil => simp [Cursor.startsWith, hrest]
  | cons x rest => simp [Cursor.startsWith, hrest, andThen]

/-- The check of all elements is put together from the four routines. -/
theorem composed_elements : Composed elements := by
  rw [elements_eq]
  exact .andThen (.skipWhile _) (.branch _
    (.branch _ .stay (.andThen composed_element composed_moreElements)) .stay)

/-! ### The whole declaration -/

/-- Trailing content is reported once and then passed over. -/
theorem ending_eq :
    ending = branch (fun _ => true) (andThen (report .trailingContent) (skipWhile fun _ => true))
      .silent := by
  funext c
  obtain ⟨offset, rest⟩ := c
  cases rest with
  | nil => rfl
  | cons x rest =>
    simp only [branch, andThen, skipWhile, Cursor.skipWhile_true]
    rfl

/-- The check of the ending is put together from the four routines. -/
theorem composed_ending : Composed ending := by
  rw [ending_eq]
  exact .branch _ (.andThen (.report _) (.skipWhile _)) .stay

/-- The routines of a declaration are put together from the simple ones. -/
theorem composed_of_mem_declaration {rs : List Routine}
    (h : rs ⊆ [blanks, name, expect .assign, expect .openBracket, elements,
      expect .closeBracket, expect .semicolon, ending]) : Composed (inOrder rs) := by
  apply composed_inOrder
  intro r hr
  have hmem := h hr
  simp only [List.mem_cons, List.not_mem_nil, or_false] at hmem
  rcases hmem with rfl | rfl | rfl | rfl | rfl | rfl | rfl | rfl
  · exact .skipWhile _
  · exact composed_name
  · exact composed_expect _
  · exact composed_expect _
  · exact composed_elements
  · exact composed_expect _
  · exact composed_expect _
  · exact composed_ending

/-- The whole check is put together from the simple routines. -/
theorem composed_declaration : Composed declaration :=
  composed_of_mem_declaration (by simp)

end Routine

end TypedList
