import TypedList.Proofs.Coverage
import TypedList.Proofs.Stages
import TypedList.Proofs.Verdicts

/-!
# The evidence for a diagnostic

What the text around a position must show for a violation to be reported there, and how the check
keeps to it: from every place of which something is known, a routine reports only what the text
shows, and ends at a place of which something is known again.

Main results:

- Theorem `justified_diagnostic`: what is reported at a cursor is justified by evidence there.
- Theorems `Routine.Triple.andThen` and `Routine.Triple.branch`: what is known of a place is carried
  through sequences and choices.
- Theorem `Routine.triple_report`: a report needs evidence, and leaves the check at a
  synchronization character.
-/

namespace TypedList

/-! ## Evidence -/

/-- The last character of a text that is not white space. -/
def lastSolid? (t : Text) : Option Char :=
  (t.filter fun c => !isWhiteSpace c).getLast?

/-- The text ends, apart from white space, where an element must follow. -/
def AwaitsElement (before : Text) : Prop :=
  lastSolid? before = some '[' ∨ lastSolid? before = some ','

/-- A sign of a number, or nothing. -/
def IsOptionalSign (t : Text) : Prop :=
  t = [] ∨ ∃ c, Routine.isSign c = true ∧ t = [c]

/-- What the text before a position and the text from there on show where a violation is
reported. -/
def Violation.Evident : Violation → Text → Text → Prop
  | invalidIdentifierStart, before, after =>
    IsBlank before ∧ Stops isWhiteSpace after ∧ Stops Char.isAlpha after
  | digitInIdentifier, before, after =>
    Begins Char.isDigit after ∧
      ∃ blank name, before = blank ++ name ∧ IsBlank blank ∧ Routine.IsLooseName name
  | missingSymbol expected, _, after =>
    Stops (· = expected.char) after ∧ Stops isWhiteSpace after
  | missingElement, before, after =>
    AwaitsElement before ∧ Stops isWhiteSpace after ∧ Stops Grammar.startsElement after ∧
      Stops (· = ']') after
  | unterminatedString, before, after =>
    after = [] ∧
      ∃ front body, before = front ++ '"' :: body ∧ '"' ∉ body ∧ AwaitsElement front
  | missingDigitAfterSign, before, after =>
    Stops Char.isDigit after ∧
      ∃ front sign, before = front ++ [sign] ∧ Routine.isSign sign = true ∧ AwaitsElement front
  | missingDigitAfterDot, before, after =>
    Stops Char.isDigit after ∧
      ∃ front sign digits, before = front ++ sign ++ digits ++ ['.'] ∧ IsOptionalSign sign ∧
        IsDigits digits ∧ AwaitsElement front
  | trailingContent, before, after =>
    lastSolid? before = some ';' ∧ after ≠ [] ∧ Stops isWhiteSpace after

/-- A diagnostic shows what stands at its position in the text, and the text around the position
is evidence for it. -/
structure Diagnostic.Justified (t : Text) (d : Diagnostic) : Prop where
  position_le : d.position ≤ t.length
  symbol_eq : d.symbol = (t[d.position]?).elim .endOfInput .char
  endOfInput_iff : d.symbol = .endOfInput ↔ d.position = t.length
  evident : d.kind.Evident (t.take d.position) (t.drop d.position)

variable {x w before : Text} {c : Cursor} {kind : Violation}

/-- White space behind a text does not count. -/
theorem lastSolid?_append_of_isBlank (hw : IsBlank w) : lastSolid? (x ++ w) = lastSolid? x := by
  have hnone : w.filter (fun c => !isWhiteSpace c) = [] := by
    rw [List.filter_eq_nil_iff]
    intro ch hch
    simp [hw ch hch]
  rw [lastSolid?, List.filter_append, hnone, List.append_nil]
  rfl

/-- Any other character behind it does. -/
theorem lastSolid?_concat {ch : Char} (hch : isWhiteSpace ch = false) :
    lastSolid? (x ++ [ch]) = some ch := by
  simp [lastSolid?, List.filter_append, hch]

/-- What is reported at a cursor is justified by evidence at the cursor. -/
theorem justified_diagnostic (hc : c.offset = before.length) (h : kind.Evident before c.rest) :
    (c.diagnostic kind).Justified (before ++ c.rest) := by
  obtain ⟨offset, rest⟩ := c
  subst hc
  refine ⟨by simp [Cursor.diagnostic], ?_, ?_, ?_⟩
  · cases rest <;> simp [Cursor.diagnostic, Cursor.symbol, Symbol.atHead]
  · cases rest <;> simp [Cursor.diagnostic, Cursor.symbol, Symbol.atHead]
  · simpa [Cursor.diagnostic] using h

/-! ## Places and what is known of them -/

/-- What is known of a place in a text, said about the text before it and the text from there on. -/
abbrev Assertion := Text → Text → Prop

/-- A pass from a cursor behind the text `before` reports only what is justified, and ends at a
place of which `Q` holds. -/
structure Pass.Warranted (before : Text) (c : Cursor) (Q : Assertion) (p : Pass) : Prop where
  ends : ∃ passed, c.Passes passed p.cursor ∧ Q (before ++ passed) p.cursor.rest
  justified : ∀ d ∈ p.diagnostics, d.Justified (before ++ c.rest)

namespace Pass

variable {d : Cursor} {p q : Pass} {Q R : Assertion}

/-- A pass without a report needs to justify nothing. -/
theorem warranted_silent (hcd : c.Passes x d) (h : Q (before ++ x) d.rest) :
    (silent d).Warranted before c Q :=
  ⟨⟨x, hcd, h⟩, fun _ hd => absurd hd List.not_mem_nil⟩

/-- A pass may start further back. -/
theorem Warranted.after (hcd : c.Passes x d) (h : p.Warranted (before ++ x) d Q) :
    p.Warranted before c Q := by
  obtain ⟨passed, hpasses, hQ⟩ := h.ends
  rw [List.append_assoc] at hQ
  refine ⟨⟨x ++ passed, hcd.trans hpasses, hQ⟩, ?_⟩
  rw [hcd.rest_eq, ← List.append_assoc]
  exact h.justified

/-- What holds where the first pass ends is what the second may rely on. -/
theorem Warranted.append (hc : c.offset = before.length) (hp : p.Warranted before c Q)
    (hq : ∀ front, p.cursor.offset = front.length → Q front p.cursor.rest →
      q.Warranted front p.cursor R) : (p.append q).Warranted before c R := by
  obtain ⟨passed, hpasses, hQ⟩ := hp.ends
  have hoffset : p.cursor.offset = (before ++ passed).length := by
    rw [hpasses.offset_eq, hc, List.length_append]
  have hrest := (hq _ hoffset hQ).after hpasses
  refine ⟨hrest.ends, ?_⟩
  intro d hd
  rw [diagnostics_append] at hd
  rcases List.mem_append.mp hd with hd | hd
  · exact hp.justified d hd
  · exact hrest.justified d hd

end Pass

namespace Routine

/-- From every place of which `P` holds the routine reports only what is justified, and it ends at
a place of which `Q` holds. -/
def Triple (P : Assertion) (r : Routine) (Q : Assertion) : Prop :=
  ∀ before (c : Cursor), c.offset = before.length → P before c.rest →
    (r c).Warranted before c Q

variable {r s : Routine} {rs : List Routine} {p : Char → Bool} {P P' Q Q' R : Assertion}

/-- More may be known before a routine, and less be claimed behind it. -/
theorem Triple.mono (h : Triple P r Q) (hP : ∀ before after, P' before after → P before after)
    (hQ : ∀ before after, Q before after → Q' before after) : Triple P' r Q' := by
  intro before c hc hP'
  have hpass := h before c hc (hP before c.rest hP')
  obtain ⟨passed, hpasses, hend⟩ := hpass.ends
  exact ⟨⟨passed, hpasses, hQ _ _ hend⟩, hpass.justified⟩

/-- What is known of a place stays known where nothing is done. -/
theorem triple_silent : Triple P .silent P := by
  intro before c hc hP
  refine Pass.warranted_silent (Cursor.passes_refl c) ?_
  rw [List.append_nil]
  exact hP

/-- What is known behind the first routine is what the second one starts from. -/
theorem Triple.andThen (hr : Triple P r Q) (hs : Triple Q s R) : Triple P (andThen r s) R := by
  intro before c hc hP
  exact (hr before c hc hP).append hc fun front hfront hQ => hs front _ hfront hQ

/-- An empty row of routines changes nothing of what is known. -/
theorem triple_nil : Triple P (inOrder []) P :=
  triple_silent

/-- A row of routines passes on what is known from each to the next. -/
theorem triple_cons (hr : Triple P r Q) (hrs : Triple Q (inOrder rs) R) :
    Triple P (inOrder (r :: rs)) R :=
  hr.andThen hrs

/-- A choice makes the next character known to both routines. -/
theorem Triple.branch (hr : Triple (fun before after => P before after ∧ Begins p after) r Q)
    (hs : Triple (fun before after => P before after ∧ Stops p after) s Q) :
    Triple P (branch p r s) Q := by
  intro before c hc hP
  unfold Routine.branch
  split <;> rename_i hp
  · exact hr before c hc ⟨hP, hp⟩
  · exact hs before c hc ⟨hP, stops_of_not_startsWith hp⟩

/-- One character further, that character is part of what has been read. -/
theorem triple_next
    (h : ∀ before ch after, P before (ch :: after) → p ch = true → Q (before ++ [ch]) after) :
    Triple (fun before after => P before after ∧ Begins p after) next Q := by
  intro before c hc hP
  obtain ⟨ch, after, hch, hrest⟩ := begins_iff.mp hP.2
  have hpasses := Cursor.passes_next hrest
  refine Pass.warranted_silent hpasses ?_
  have hafter : c.next.rest = after := by
    have hsplit := hpasses.rest_eq
    rw [hrest] at hsplit
    exact (List.cons.inj hsplit).2.symm
  rw [hafter]
  exact h before ch after (hrest ▸ hP.1) hch

/-- Behind a run, all of it has been read, and none of its characters follows. -/
theorem triple_skipWhile
    (h : ∀ before x after, P before (x ++ after) → (∀ ch ∈ x, p ch = true) → Stops p after →
      Q (before ++ x) after) : Triple P (skipWhile p) Q := by
  intro before c hc hP
  have hpasses := Cursor.passes_skipWhile p c
  refine Pass.warranted_silent hpasses ?_
  refine h before _ _ ?_ (fun _ hch => List.mem_takeWhile_imp hch) (stops_dropWhile p c.rest)
  rw [← hpasses.rest_eq]
  exact hP

/-- Whatever is known behind white space or without it is known behind all of it. -/
theorem triple_blanks
    (h : ∀ before w after, P before (w ++ after) → IsBlank w → Stops isWhiteSpace after →
      Q (before ++ w) after) : Triple P blanks Q :=
  triple_skipWhile h

/-- A report is justified by its evidence, and the check goes on at a synchronization character. -/
theorem triple_report (hevident : ∀ before after, P before after → kind.Evident before after) :
    Triple P (report kind) fun _ after =>
      ∀ point ∈ kind.grammarPoint?, Stops (· ∉ point.syncChars) after := by
  intro before c hc hP
  have hjustified : ∀ d ∈ (report kind c).diagnostics, d.Justified (before ++ c.rest) := by
    intro d hd
    rw [diagnostics_report, List.mem_singleton] at hd
    subst hd
    exact justified_diagnostic hc (hevident before c.rest hP)
  refine ⟨?_, hjustified⟩
  cases hpoint : kind.grammarPoint? with
  | none =>
    have hcursor : (report kind c).cursor = c := by simp only [report, hpoint]
    rw [hcursor]
    exact ⟨[], Cursor.passes_refl c, fun point hnone => absurd hnone (by simp)⟩
  | some point =>
    have hcursor : (report kind c).cursor = c.skipWhile (· ∉ point.syncChars) := by
      simp only [report, hpoint, Cursor.synchronize]
    rw [hcursor]
    refine ⟨_, Cursor.passes_skipWhile _ c, ?_⟩
    rintro _ ⟨⟩
    exact stops_dropWhile _ c.rest

/-- Nothing need be known behind a routine. -/
theorem Triple.weaken (h : Triple P r Q) : Triple P r fun _ _ => True :=
  h.mono (fun _ _ hP => hP) fun _ _ _ => trivial

end Routine

end TypedList
