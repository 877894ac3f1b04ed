import TypedList.Proofs.Order
import TypedList.Proofs.Runs

/-!
# The stages of a check

A check goes through its points of the grammar once, in a fixed order: the name, `=`, `[`, the
elements, `]`, and the end.  Each stage finds only violations of its own kinds, most of them at
most one, so the diagnostics of a text fall into six stretches, and no two of them are equal.

Main results:

- Theorems `Routine.onlyElement_element` and `Routine.onlyElements_moreElements`: an element has at
  most one diagnostic, and the comma between two elements keeps their positions apart.
- Theorem `exists_stages`: the diagnostics of every text are those of the six stages, in order of
  their positions and without repetition.
-/

namespace TypedList

/-! ## Stages -/

/-- The violations that an element can have. -/
def Violation.isOfElement : Violation → Bool
  | missingElement => true
  | unterminatedString => true
  | missingDigitAfterSign => true
  | missingDigitAfterDot => true
  | invalidIdentifierStart => false
  | digitInIdentifier => false
  | missingSymbol _ => false
  | trailingContent => false

/-- There is at most one diagnostic, and its violation has the given property. -/
structure AtMostOne (K : Violation → Prop) (ds : List Diagnostic) : Prop where
  length_le : ds.length ≤ 1
  kind : ∀ d ∈ ds, K d.kind

/-- The positions strictly increase. -/
def Increasing (ds : List Diagnostic) : Prop :=
  ds.Pairwise fun d e => d.position < e.position

/-- What the stages of a check find. -/
structure Stages where
  name : List Diagnostic
  assign : List Diagnostic
  openBracket : List Diagnostic
  elements : List Diagnostic
  closeBracket : List Diagnostic
  ending : List Diagnostic

/-- What all stages find, in order. -/
def Stages.all (s : Stages) : List Diagnostic :=
  s.name ++ (s.assign ++ (s.openBracket ++ (s.elements ++ (s.closeBracket ++ s.ending))))

/-- What the stage with a number finds. -/
def Stages.part (s : Stages) : Nat → List Diagnostic
  | 0 => s.name
  | 1 => s.assign
  | 2 => s.openBracket
  | 3 => s.elements
  | 4 => s.closeBracket
  | _ => s.ending

/-- Each stage finds what belongs to it. -/
structure Stages.WellFormed (s : Stages) : Prop where
  /-- A name has no letter to begin with, or digits. -/
  name : AtMostOne (· = .invalidIdentifierStart) s.name ∨
    ∀ d ∈ s.name, d.kind = .digitInIdentifier
  assign : AtMostOne (· = .missingSymbol .assign) s.assign
  openBracket : AtMostOne (· = .missingSymbol .openBracket) s.openBracket
  elements : ∀ d ∈ s.elements, d.kind.isOfElement = true
  closeBracket : AtMostOne (· = .missingSymbol .closeBracket) s.closeBracket
  /-- The last symbol is missing, or something stands behind it, but not both. -/
  ending : AtMostOne (fun kind => kind = .missingSymbol .semicolon ∨ kind = .trailingContent)
    s.ending
  /-- Where no list is opened, no element is looked for. -/
  elements_eq_nil : s.openBracket ≠ [] → s.elements = []
  increasing_name : Increasing s.name
  increasing_elements : Increasing s.elements

/-! ### Order and repetition -/

/-- The number of the stage that finds a violation. -/
def Violation.stage : Violation → Nat
  | invalidIdentifierStart => 0
  | digitInIdentifier => 0
  | missingSymbol .assign => 1
  | missingSymbol .openBracket => 2
  | missingElement => 3
  | unterminatedString => 3
  | missingDigitAfterSign => 3
  | missingDigitAfterDot => 3
  | missingSymbol .openingQuote => 3
  | missingSymbol .closeBracket => 4
  | missingSymbol .semicolon => 5
  | trailingContent => 5

/-- The first diagnostic is found at an earlier stage, or at the same stage and further left. -/
def Diagnostic.Precedes (d e : Diagnostic) : Prop :=
  d.kind.stage < e.kind.stage ∨ d.kind.stage = e.kind.stage ∧ d.position < e.position

/-- A single diagnostic is in order. -/
theorem AtMostOne.increasing {K : Violation → Prop} {ds : List Diagnostic}
    (h : AtMostOne K ds) : Increasing ds := by
  rcases ds with - | ⟨d, - | ⟨e, ds⟩⟩
  · exact .nil
  · exact List.pairwise_singleton _ _
  · have hlength := h.length_le
    simp at hlength

/-- The diagnostics of the stages from the given one on precede one another in their order. -/
def FromStage (n : Nat) (ds : List Diagnostic) : Prop :=
  ds.Pairwise Diagnostic.Precedes ∧ ∀ d ∈ ds, n ≤ d.kind.stage

/-- What one stage finds stands before what the later stages find. -/
theorem FromStage.append {n : Nat} {ds es : List Diagnostic} (hds : Increasing ds)
    (hstage : ∀ d ∈ ds, d.kind.stage = n) (hes : FromStage (n + 1) es) :
    FromStage n (ds ++ es) := by
  constructor
  · refine List.pairwise_append.mpr ⟨?_, hes.1, ?_⟩
    · refine hds.imp_of_mem ?_
      intro d e hd he hlt
      exact Or.inr ⟨(hstage d hd).trans (hstage e he).symm, hlt⟩
    · intro d hd e he
      left
      rw [hstage d hd]
      exact hes.2 e he
  · intro d hd
    rcases List.mem_append.mp hd with hd | hd
    · exact (hstage d hd).ge
    · exact Nat.le_of_succ_le (hes.2 d hd)

namespace Stages

variable {s : Stages}

/-- What a stage finds has the number of the stage. -/
theorem WellFormed.stage_eq (h : s.WellFormed) {n : Nat} (hn : n ≤ 5) {d : Diagnostic}
    (hd : d ∈ s.part n) : d.kind.stage = n := by
  match n, hn with
  | 0, _ =>
    rcases h.name with hname | hname
    · rw [hname.kind d hd]
      rfl
    · rw [hname d hd]
      rfl
  | 1, _ =>
    rw [h.assign.kind d hd]
    rfl
  | 2, _ =>
    rw [h.openBracket.kind d hd]
    rfl
  | 3, _ =>
    have hkind := h.elements d hd
    cases hcase : d.kind <;> rw [hcase] at hkind <;> first | rfl | contradiction
  | 4, _ =>
    rw [h.closeBracket.kind d hd]
    rfl
  | 5, _ =>
    rcases h.ending.kind d hd with hkind | hkind <;> rw [hkind] <;> rfl

/-- Every diagnostic is found by the stage of its violation. -/
theorem WellFormed.mem_part (h : s.WellFormed) {d : Diagnostic} (hd : d ∈ s.all) :
    d ∈ s.part d.kind.stage := by
  have hsome : ∃ n ≤ 5, d ∈ s.part n := by
    simp only [all, List.mem_append] at hd
    rcases hd with hd | hd | hd | hd | hd | hd
    · exact ⟨0, by decide, hd⟩
    · exact ⟨1, by decide, hd⟩
    · exact ⟨2, by decide, hd⟩
    · exact ⟨3, by decide, hd⟩
    · exact ⟨4, by decide, hd⟩
    · exact ⟨5, by decide, hd⟩
  obtain ⟨n, hn, hpart⟩ := hsome
  rw [h.stage_eq hn hpart]
  exact hpart

/-- Well-formed stages put together stand in their order. -/
theorem WellFormed.fromStage (h : s.WellFormed) : FromStage 0 s.all := by
  have hend : FromStage 5 (s.ending ++ []) :=
    FromStage.append h.ending.increasing (fun _ => h.stage_eq le_rfl)
      ⟨.nil, fun d hd => absurd hd List.not_mem_nil⟩
  rw [List.append_nil] at hend
  have hclose := FromStage.append h.closeBracket.increasing
    (fun _ => h.stage_eq (n := 4) (by decide)) hend
  have helements := FromStage.append h.increasing_elements
    (fun _ => h.stage_eq (n := 3) (by decide)) hclose
  have hopen := FromStage.append h.openBracket.increasing
    (fun _ => h.stage_eq (n := 2) (by decide)) helements
  have hassign := FromStage.append h.assign.increasing
    (fun _ => h.stage_eq (n := 1) (by decide)) hopen
  exact FromStage.append h.increasing_name (fun _ => h.stage_eq (n := 0) (by decide)) hassign

/-- The stages find nothing twice. -/
theorem WellFormed.nodup (h : s.WellFormed) : s.all.Nodup := by
  refine h.fromStage.1.imp ?_
  rintro d e hprecedes rfl
  rcases hprecedes with hlt | ⟨-, hlt⟩
  · exact Nat.lt_irrefl _ hlt
  · exact Nat.lt_irrefl _ hlt

/-- No stage misses an opening quote. -/
theorem WellFormed.kind_ne_openingQuote (h : s.WellFormed) {d : Diagnostic} (hd : d ∈ s.all) :
    d.kind ≠ .missingSymbol .openingQuote := by
  intro hkind
  have hpart := h.mem_part hd
  rw [hkind] at hpart
  have helement := h.elements d hpart
  rw [hkind] at helement
  contradiction

end Stages

/-! ## What the routines find -/

namespace Routine

variable {K : Violation → Prop} {c : Cursor}

@[simp]
theorem diagnostics_report (kind : Violation) (c : Cursor) :
    (report kind c).diagnostics = [c.diagnostic kind] := by
  unfold report
  split <;> rfl

/-- An empty list has at most one diagnostic. -/
theorem atMostOne_nil : AtMostOne K [] :=
  ⟨Nat.zero_le _, fun _ hd => absurd hd List.not_mem_nil⟩

/-- A report is one diagnostic. -/
theorem atMostOne_report {kind : Violation} (h : K kind) :
    AtMostOne K (report kind c).diagnostics := by
  rw [diagnostics_report]
  refine ⟨le_rfl, ?_⟩
  intro d hd
  rw [List.mem_singleton] at hd
  rw [hd]
  exact h

/-- A delimiter is reported at most once, as missing. -/
theorem atMostOne_expect (delimiter : Delimiter) (c : Cursor) :
    AtMostOne (· = .missingSymbol delimiter) (expect delimiter c).diagnostics := by
  unfold expect
  split
  · exact atMostOne_nil
  · exact atMostOne_report rfl

/-! ### Names -/

/-- Inside a name only digits are found. -/
theorem digitInIdentifier_of_mem_nameTail {d : Diagnostic} (hd : d ∈ (nameTail c).diagnostics) :
    d.kind = .digitInIdentifier := by
  rw [Pass.mem_diagnostics, nameTail] at hd
  obtain ⟨⟨ch, position⟩, -, heq⟩ := List.mem_map.mp hd
  rw [← (Event.found.inj heq)]

/-- The digits of a name are reported from left to right. -/
theorem increasing_nameTail (c : Cursor) : Increasing (nameTail c).diagnostics := by
  obtain ⟨offset, rest⟩ := c
  induction rest generalizing offset with
  | nil => exact .nil
  | cons x rest ih =>
    by_cases hx : x.isAlphanum = true
    · have hdiagnostics : (nameTail ⟨offset, x :: rest⟩).diagnostics =
          (if x.isDigit then [⟨.digitInIdentifier, .char x, offset⟩] else []) ++
            (nameTail ⟨offset + 1, rest⟩).diagnostics := by
        rw [nameTail_cons _ _ hx, Pass.diagnostics, List.filterMap_append]
        cases x.isDigit <;> rfl
      rw [hdiagnostics]
      refine List.pairwise_append.mpr ⟨?_, ih (offset + 1), ?_⟩
      · cases x.isDigit
        · exact .nil
        · exact List.pairwise_singleton _ _
      · intro d hd e he
        have hposition : d.position = offset := by
          cases hdigit : x.isDigit <;> simp [hdigit] at hd
          rw [hd]
        have hbehind := offset_le_position composed_nameTail he
        dsimp only at hbehind
        omega
    · have hnone : nameTail ⟨offset, x :: rest⟩ = .silent ⟨offset, x :: rest⟩ := by
        simp [nameTail, Cursor.skipWhile, hx, Pass.silent]
      rw [hnone]
      exact .nil

/-- A name has no letter to begin with, or its digits are reported from left to right. -/
theorem found_name (c : Cursor) :
    (AtMostOne (· = .invalidIdentifierStart) (name c).diagnostics ∨
      ∀ d ∈ (name c).diagnostics, d.kind = .digitInIdentifier) ∧
    Increasing (name c).diagnostics := by
  unfold name
  split
  · exact ⟨Or.inr fun d hd => digitInIdentifier_of_mem_nameTail hd, increasing_nameTail _⟩
  · have hone : AtMostOne (· = .invalidIdentifierStart)
        (report .invalidIdentifierStart c).diagnostics := atMostOne_report rfl
    exact ⟨Or.inl hone, hone.increasing⟩

/-! ### Elements -/

/-- An element has at most one diagnostic, for a violation of an element. -/
abbrev OnlyElement (ds : List Diagnostic) : Prop :=
  AtMostOne (fun kind => kind.isOfElement = true) ds

/-- The check of a string is only made where there is a quote, so none is missing. -/
theorem onlyElement_string (hquote : c.startsWith (· = '"') = true) :
    OnlyElement (string c).diagnostics := by
  simp only [string, if_pos hquote]
  split
  · exact atMostOne_nil
  · exact atMostOne_report rfl

/-- In a fraction at most its digits are missing. -/
theorem onlyElement_fraction (c : Cursor) : OnlyElement (fraction c).diagnostics := by
  simp only [fraction]
  split
  · split
    · exact atMostOne_nil
    · exact atMostOne_report rfl
  · exact atMostOne_nil

/-- In digits and their fraction at most one violation is found. -/
theorem onlyElement_digits (c : Cursor) : OnlyElement (digits c).diagnostics := by
  unfold digits
  split
  · exact onlyElement_fraction _
  · exact atMostOne_report rfl

/-- A sign adds none to it. -/
theorem onlyElement_number (c : Cursor) : OnlyElement (number c).diagnostics := by
  unfold number
  split
  · exact onlyElement_digits _
  · exact onlyElement_digits c

/-- So in an element at most one violation is found, and it is one of elements. -/
theorem onlyElement_element (c : Cursor) : OnlyElement (element c).diagnostics := by
  simp only [element]
  split <;> rename_i hquote
  · exact onlyElement_string hquote
  · split
    · exact onlyElement_number _
    · exact atMostOne_report rfl

/-! ### Lists of elements -/

/-- Violations of elements, from left to right. -/
structure OnlyElements (ds : List Diagnostic) : Prop where
  kind : ∀ d ∈ ds, d.kind.isOfElement = true
  increasing : Increasing ds

/-- Without elements none is broken. -/
theorem onlyElements_nil : OnlyElements [] :=
  ⟨fun _ hd => absurd hd List.not_mem_nil, .nil⟩

/-- Behind an element the further ones are found further right. -/
theorem OnlyElements.cons_element {ds : List Diagnostic} (hds : OnlyElements ds)
    (hbehind : ∀ d ∈ ds, (element c).cursor.offset < d.position) :
    OnlyElements ((element c).diagnostics ++ ds) := by
  have hone := onlyElement_element c
  constructor
  · intro d hd
    rcases List.mem_append.mp hd with hd | hd
    · exact hone.kind d hd
    · exact hds.kind d hd
  · refine List.pairwise_append.mpr ⟨hone.increasing, hds.increasing, ?_⟩
    intro d hd e he
    exact Nat.lt_of_le_of_lt (position_le_offset composed_element hd) (hbehind e he)

/-- Behind a comma nothing is found before it. -/
theorem offset_lt_of_comma (hcomma : c.skipBlanks.startsWith (· = ',') = true) :
    c.offset < c.skipBlanks.next.skipBlanks.offset := by
  have hblanks : c.offset ≤ c.skipBlanks.offset := (Cursor.ahead_skipWhile isWhiteSpace c).offset_le
  have hfollowing : c.skipBlanks.next.offset ≤ c.skipBlanks.next.skipBlanks.offset :=
    (Cursor.ahead_skipWhile isWhiteSpace c.skipBlanks.next).offset_le
  obtain ⟨x, rest, -, hrest⟩ := begins_iff.mp hcomma
  have hnext : c.skipBlanks.next.offset = c.skipBlanks.offset + 1 := by
    have hcursor : c.skipBlanks = ⟨c.skipBlanks.offset, x :: rest⟩ := by rw [← hrest]
    rw [hcursor]
    rfl
  omega

/-- Each round of the loop finds its diagnostic behind the comma that it begins with. -/
theorem onlyElements_moreElements (c : Cursor) : OnlyElements (moreElements c).diagnostics ∧
    ∀ d ∈ (moreElements c).diagnostics, c.offset < d.position := by
  fun_induction moreElements c with
  | case1 c separator hcomma following hclose =>
    exact ⟨onlyElements_nil, fun d hd => absurd hd List.not_mem_nil⟩
  | case2 c separator hcomma following hopen p ih =>
    have hoffset : c.offset < following.offset := offset_lt_of_comma hcomma
    have hahead : following.offset ≤ p.cursor.offset :=
      (ahead_of_composed composed_element following).offset_le
    rw [Pass.diagnostics_append]
    refine ⟨ih.1.cons_element ih.2, ?_⟩
    intro d hd
    rcases List.mem_append.mp hd with hd | hd
    · exact Nat.lt_of_lt_of_le hoffset (offset_le_position composed_element hd)
    · exact Nat.lt_trans (Nat.lt_of_lt_of_le hoffset hahead) (ih.2 d hd)
  | case3 c separator hcomma =>
    exact ⟨onlyElements_nil, fun d hd => absurd hd List.not_mem_nil⟩

/-- In a list only elements are broken, from left to right. -/
theorem onlyElements_elements (c : Cursor) : OnlyElements (elements c).diagnostics := by
  simp only [elements]
  split
  · exact onlyElements_nil
  · rw [Pass.diagnostics_append]
    have hmore := onlyElements_moreElements (element c.skipBlanks).cursor
    exact hmore.1.cons_element hmore.2

/-- Where a delimiter is missing the check goes on at a synchronization character. -/
theorem stops_expect_of_missing {delimiter : Delimiter}
    (hmissing : (expect delimiter c).diagnostics ≠ []) :
    Stops (· ∉ delimiter.grammarPoint.syncChars) (expect delimiter c).cursor.rest := by
  unfold expect at hmissing ⊢
  split <;> rename_i hfound
  · rw [if_pos hfound] at hmissing
    exact absurd rfl hmissing
  · exact stops_dropWhile (· ∉ delimiter.grammarPoint.syncChars) c.rest

/-- Where the list is closed or nothing is left, no element is looked for. -/
theorem elements_of_closed (hclosed : Stops (· ∉ [']']) c.rest) : elements c = .silent c := by
  obtain ⟨offset, rest⟩ := c
  cases rest with
  | nil => rfl
  | cons x rest =>
    have hx : x = ']' := by simpa using hclosed
    subst hx
    rfl

/-- Where the check goes on behind a missing opening bracket, the list is empty. -/
theorem diagnostics_elements_of_missing
    (hmissing : (expect .openBracket c).diagnostics ≠ []) :
    (elements (expect .openBracket c).cursor).diagnostics = [] := by
  rw [elements_of_closed (stops_expect_of_missing hmissing)]
  rfl

/-! ### The end -/

/-- Trailing content is reported at most once. -/
theorem atMostOne_ending (c : Cursor) :
    AtMostOne (· = .trailingContent) (ending c).diagnostics := by
  unfold ending
  split
  · exact atMostOne_nil
  · exact atMostOne_report rfl

/-- Where the last symbol is missing the check goes on at the end, and nothing is left there. -/
theorem atMostOne_end (c : Cursor) :
    AtMostOne (fun kind => kind = .missingSymbol .semicolon ∨ kind = .trailingContent)
      ((expect .semicolon c).diagnostics ++
        (ending (expect .semicolon c).cursor.skipBlanks).diagnostics) := by
  unfold expect
  split
  · have hend := atMostOne_ending c.next.skipBlanks
    exact ⟨hend.length_le, fun d hd => Or.inr (hend.kind d hd)⟩
  · have hcursor : (report (.missingSymbol .semicolon) c).cursor = c.toEnd := by
      change c.skipWhile (· ∉ []) = c.toEnd
      rw [← Cursor.skipWhile_true]
      simp
    have hnothing : (ending c.toEnd.skipBlanks).diagnostics = [] := rfl
    rw [hcursor, hnothing, List.append_nil]
    exact atMostOne_report (Or.inl rfl)

end Routine

/-! ## The stages of a text -/

/-- What the stages of a check from a cursor find. -/
def stagesFrom (c : Cursor) : Stages :=
  let named := Routine.name c.skipBlanks
  let assigned := Routine.expect .assign named.cursor.skipBlanks
  let opened := Routine.expect .openBracket assigned.cursor.skipBlanks
  let listed := Routine.elements opened.cursor
  let closed := Routine.expect .closeBracket listed.cursor.skipBlanks
  let ended := Routine.expect .semicolon closed.cursor.skipBlanks
  { name := named.diagnostics
    assign := assigned.diagnostics
    openBracket := opened.diagnostics
    elements := listed.diagnostics
    closeBracket := closed.diagnostics
    ending := ended.diagnostics ++ (Routine.ending ended.cursor.skipBlanks).diagnostics }

/-- The stages of a check are well formed. -/
theorem wellFormed_stagesFrom (c : Cursor) : (stagesFrom c).WellFormed where
  name := (Routine.found_name _).1
  assign := Routine.atMostOne_expect .assign _
  openBracket := Routine.atMostOne_expect .openBracket _
  elements := (Routine.onlyElements_elements _).kind
  closeBracket := Routine.atMostOne_expect .closeBracket _
  ending := Routine.atMostOne_end _
  elements_eq_nil := Routine.diagnostics_elements_of_missing
  increasing_name := (Routine.found_name _).2
  increasing_elements := (Routine.onlyElements_elements _).increasing

/-- White space is passed over in silence between the stages. -/
theorem diagnose_eq_all (t : Text) : diagnose t = (stagesFrom (.start t)).all := by
  rw [diagnose_eq, Routine.declaration]
  simp only [Routine.inOrder, Routine.blanks, Pass.silent_append, Pass.cursor_silent,
    Pass.diagnostics_append, Pass.diagnostics_silent, List.append_nil]
  rfl

/-- What is found in a text is what the stages find, in order of position and without
repetition. -/
theorem exists_stages (t : Text) :
    ∃ s : Stages, diagnose t = s.all ∧ s.WellFormed ∧
      ((diagnose t).Pairwise fun d e => d.position ≤ e.position) ∧ (diagnose t).Nodup ∧
      ∀ d ∈ diagnose t, d.kind ≠ .missingSymbol .openingQuote := by
  have hstages := wellFormed_stagesFrom (.start t)
  refine ⟨stagesFrom (.start t), diagnose_eq_all t, hstages, pairwise_position_le_diagnose t, ?_⟩
  rw [diagnose_eq_all]
  exact ⟨hstages.nodup, fun d hd => hstages.kind_ne_openingQuote hd⟩

end TypedList
