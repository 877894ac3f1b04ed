import TypedList.Proofs.Evidence

/-!
# Diagnostics are justified

Every diagnostic is justified by the text around its position.  A routine can rely on what it knows
of the place where it is entered, whatever the routines before it have skipped: white space has
been passed over, or a symbol has been read, or the check has gone on at a synchronization
character.

Main results:

- Theorems `Routine.triple_element` and `Routine.triple_moreElements`: an element is only looked
  for behind `[` or a comma.
- Theorem `justified_of_diagnose`: every diagnostic of every text is justified, and every digit of
  the name is reported once.
-/

namespace TypedList

namespace Routine

variable {x before : Text} {c : Cursor} {rs : List Routine} {P : Assertion}

/-! ## Names and symbols -/

/-- A name and the white space before it, as far as they have been read. -/
def InName (before : Text) : Prop :=
  ∃ blank name, before = blank ++ name ∧ IsBlank blank ∧ IsLooseName name

/-- A letter or digit goes on with the name. -/
theorem InName.concat {ch : Char} (h : InName before) (hch : ch.isAlphanum = true) :
    InName (before ++ [ch]) := by
  obtain ⟨blank, name, rfl, hblank, hbegins, hname⟩ := h
  refine ⟨blank, name ++ [ch], by rw [List.append_assoc], hblank, ?_, ?_⟩
  · obtain ⟨a, name, ha, rfl⟩ := begins_iff.mp hbegins
    exact ha
  · intro d hd
    rcases List.mem_append.mp hd with hd | hd
    · exact hname d hd
    · exact List.mem_singleton.mp hd ▸ hch

/-- Every digit behind the first letter is reported inside the name. -/
theorem triple_nameTail : Triple (fun before _ => InName before) nameTail fun _ _ => True := by
  rintro before ⟨offset, rest⟩ hc hname
  induction rest generalizing before offset with
  | nil => exact Pass.warranted_silent (Cursor.passes_refl _) trivial
  | cons ch rest ih =>
    by_cases hch : ch.isAlphanum = true
    · have hoffset : offset + 1 = (before ++ [ch]).length := by
        rw [List.length_append, List.length_singleton, ← hc]
      have htail := (ih (before ++ [ch]) (offset + 1) hoffset (hname.concat hch)).after
        (c := ⟨offset, ch :: rest⟩) (Cursor.passes_next rfl)
      rw [nameTail_cons offset rest hch]
      refine ⟨htail.ends, ?_⟩
      intro d hd
      simp only [Pass.diagnostics, List.filterMap_append, List.mem_append] at hd
      rcases hd with hd | hd
      · cases hdigit : ch.isDigit with
        | false => simp [hdigit] at hd
        | true =>
          simp only [hdigit, if_true, List.filterMap_cons, Event.diagnostic?, List.filterMap_nil,
            List.mem_singleton] at hd
          subst hd
          have hevident : Violation.Evident .digitInIdentifier before (ch :: rest) :=
            ⟨hdigit, hname⟩
          exact justified_diagnostic hc hevident
      · exact htail.justified d hd
    · have hnone : nameTail ⟨offset, ch :: rest⟩ = .silent ⟨offset, ch :: rest⟩ := by
        simp [nameTail, Cursor.skipWhile, hch, Pass.silent]
      rw [hnone]
      exact Pass.warranted_silent (Cursor.passes_refl _) trivial

/-- Behind white space a name reports a missing letter where none stands, and then its digits. -/
theorem triple_name :
    Triple (fun before after => IsBlank before ∧ Stops isWhiteSpace after) name
      fun _ _ => True := by
  have hletter : Triple (fun before after => (IsBlank before ∧ Stops isWhiteSpace after) ∧
      Begins Char.isAlpha after) next fun before _ => InName before := by
    refine triple_next ?_
    rintro before ch after ⟨hblank, -⟩ hch
    refine ⟨before, [ch], rfl, hblank, hch, ?_⟩
    intro d hd
    exact List.mem_singleton.mp hd ▸ isAlphanum_of_isAlpha hch
  rw [name_eq]
  refine .branch (hletter.andThen triple_nameTail) (triple_report ?_).weaken
  rintro before after ⟨⟨hblank, hspace⟩, hstops⟩
  exact ⟨hblank, hspace, hstops⟩

/-- A delimiter has been read, or the check goes on at a synchronization character. -/
theorem triple_expect (delimiter : Delimiter) :
    Triple (fun _ after => Stops isWhiteSpace after) (expect delimiter) fun before after =>
      lastSolid? before = some delimiter.char ∨
        Stops (· ∉ delimiter.grammarPoint.syncChars) after := by
  refine .branch (triple_next ?_) ((triple_report ?_).mono (fun _ _ hP => hP) ?_)
  · intro before ch after _ hch
    rw [of_decide_eq_true hch]
    exact .inl (lastSolid?_concat (isWhiteSpace_delimiter delimiter))
  · rintro before after ⟨hspace, hmissing⟩
    exact ⟨hmissing, hspace⟩
  · intro before after hsync
    exact .inr (hsync _ rfl)

/-! ## Elements -/

/-- A string reports the end of the text only if its closing quote is missing. -/
theorem triple_string :
    Triple (fun before after => AwaitsElement before ∧ Begins (· = '"') after) string
      fun _ _ => True := by
  have hopening : Triple (fun before after => (AwaitsElement before ∧ Begins (· = '"') after) ∧
      Begins (· = '"') after) next
      fun before _ => ∃ front, before = front ++ ['"'] ∧ AwaitsElement front := by
    refine triple_next ?_
    rintro before ch after ⟨hawaits, -⟩ hch
    rw [of_decide_eq_true hch]
    exact ⟨before, rfl, hawaits⟩
  have hbody : Triple (fun before _ => ∃ front, before = front ++ ['"'] ∧ AwaitsElement front)
      (skipWhile (· ≠ '"')) fun before after => (∃ front body, before = front ++ '"' :: body ∧
        '"' ∉ body ∧ AwaitsElement front) ∧ Stops (· ≠ '"') after := by
    refine triple_skipWhile ?_
    rintro _ body after ⟨front, rfl, hawaits⟩ hbody hstops
    refine ⟨⟨front, body, by simp, ?_, hawaits⟩, hstops⟩
    intro hmem
    simpa using hbody _ hmem
  rw [string_eq]
  refine .branch (hopening.andThen (hbody.andThen (.branch
    (triple_next fun _ _ _ _ _ => trivial) (triple_report ?_).weaken))) (triple_report ?_).weaken
  · rintro before after ⟨⟨hopen, hstops⟩, hquote⟩
    -- The search for the closing quote ended, but not at a quote.
    have hend : after = [] := eq_nil_of_stops hstops hquote fun ch => by
      by_cases hch : ch = '"' <;> simp [hch]
    exact ⟨hend, hopen⟩
  · rintro before after ⟨⟨-, hbegins⟩, hquote⟩
    exact absurd hquote hbegins.not_stops

/-- The part of a number that has been read: perhaps a sign, and digits. -/
def InNumber (before : Text) : Prop :=
  ∃ front sign digits, before = front ++ sign ++ digits ∧ IsOptionalSign sign ∧
    IsDigits digits ∧ AwaitsElement front

/-- Behind a number a fraction reports its missing digits. -/
theorem triple_fraction :
    Triple (fun before _ => InNumber before) fraction fun _ _ => True := by
  have hpoint : Triple (fun before after => InNumber before ∧ Begins (· = '.') after) next
      fun before _ => ∃ front sign digits, before = front ++ sign ++ digits ++ ['.'] ∧
        IsOptionalSign sign ∧ IsDigits digits ∧ AwaitsElement front := by
    refine triple_next ?_
    rintro _ ch after ⟨front, sign, digits, rfl, hnumber⟩ hch
    rw [of_decide_eq_true hch]
    exact ⟨front, sign, digits, rfl, hnumber⟩
  rw [fraction_eq]
  refine .branch (hpoint.andThen (.branch (triple_skipWhile fun _ _ _ _ _ _ => trivial)
    (triple_report ?_).weaken)) triple_silent.weaken
  rintro before after ⟨hread, hdigit⟩
  exact ⟨hdigit, hread⟩

/-- Digits are looked for behind a sign, or where the first of them stands. -/
theorem triple_digits :
    Triple (fun before after => ∃ front sign, before = front ++ sign ∧ IsOptionalSign sign ∧
        AwaitsElement front ∧ (sign = [] → Begins Char.isDigit after)) digits
      fun _ _ => True := by
  rw [digits_eq]
  refine .branch (.andThen (triple_skipWhile (Q := fun before _ => InNumber before) ?_)
    triple_fraction) (triple_report ?_).weaken
  · rintro _ digits after ⟨⟨front, sign, rfl, hsign, hawaits, -⟩, hbegins⟩ hdigits hstops
    refine ⟨front, sign, digits, rfl, hsign, ⟨?_, hdigits⟩, hawaits⟩
    rintro rfl
    exact hbegins.not_stops hstops
  · rintro _ after ⟨⟨front, sign, rfl, hsign, hawaits, hbegins⟩, hdigit⟩
    rcases hsign with rfl | ⟨ch, hch, rfl⟩
    · exact absurd hdigit (hbegins rfl).not_stops
    · exact ⟨hdigit, front, ch, rfl, hch, hawaits⟩

/-- A number reports missing digits behind its sign or its point. -/
theorem triple_number :
    Triple (fun before after => AwaitsElement before ∧
        Begins (fun ch => isSign ch || ch.isDigit) after) number fun _ _ => True := by
  refine .branch (.andThen (triple_next ?_) triple_digits) (triple_digits.mono ?_ fun _ _ h => h)
  · rintro before ch after ⟨hawaits, -⟩ hch
    exact ⟨before, [ch], rfl, .inr ⟨ch, hch, rfl⟩, hawaits, fun hnil => absurd hnil (by simp)⟩
  · rintro before after ⟨⟨hawaits, hbegins⟩, hsign⟩
    refine ⟨before, [], (List.append_nil _).symm, .inl rfl, hawaits, fun _ => ?_⟩
    obtain ⟨ch, after, hch, rfl⟩ := begins_iff.mp hbegins
    rw [stops_cons] at hsign
    rwa [hsign, Bool.false_or] at hch

/-- Where an element must follow, and the list is not closed. -/
def AtElement : Assertion := fun before after =>
  AwaitsElement before ∧ Stops isWhiteSpace after ∧ Stops (· = ']') after

/-- An element is checked where one must follow. -/
theorem triple_element : Triple AtElement element fun _ _ => True := by
  have hblanks : Triple AtElement blanks AtElement := by
    refine triple_blanks ?_
    rintro before (- | ⟨ch, w⟩) after hP hw -
    · rw [List.append_nil]
      exact hP
    · have hspace : isWhiteSpace ch = false := hP.2.1
      rw [hw ch List.mem_cons_self] at hspace
      contradiction
  rw [element_eq]
  refine hblanks.andThen (.branch (triple_string.mono ?_ fun _ _ h => h)
    (.branch (triple_number.mono ?_ fun _ _ h => h) (triple_report ?_).weaken))
  · rintro before after ⟨⟨hawaits, -, -⟩, hquote⟩
    exact ⟨hawaits, hquote⟩
  · rintro before after ⟨⟨⟨hawaits, -, -⟩, -⟩, hnumber⟩
    exact ⟨hawaits, hnumber⟩
  · rintro before after ⟨⟨⟨hawaits, hspace, hclose⟩, hquote⟩, hnumber⟩
    refine ⟨hawaits, hspace, ?_, hclose⟩
    cases after with
    | nil => exact stops_nil _
    | cons ch after =>
      rw [stops_cons] at hquote hnumber ⊢
      simp only [Grammar.startsElement, Grammar.startsNumber, hquote, hnumber, Bool.or_self]

/-- Behind a comma and white space an element must follow. -/
theorem passes_comma (hcomma : c.skipBlanks.startsWith (· = ',') = true) :
    ∃ passed, c.Passes passed c.skipBlanks.next.skipBlanks ∧
      ∀ before, AwaitsElement (before ++ passed) := by
  obtain ⟨ch, rest, hch, hrest⟩ := begins_iff.mp hcomma
  rw [of_decide_eq_true hch] at hrest
  have hfollowing := Cursor.passes_skipWhile isWhiteSpace c.skipBlanks.next
  refine ⟨_, ((Cursor.passes_skipWhile isWhiteSpace c).trans
    (Cursor.passes_next hrest)).trans hfollowing, ?_⟩
  intro before
  right
  rw [← List.append_assoc, ← List.append_assoc,
    lastSolid?_append_of_isBlank fun _ hch => List.mem_takeWhile_imp hch]
  exact lastSolid?_concat rfl

/-- Each round of the loop looks for an element behind its own comma, so nothing need be known
where the loop starts. -/
theorem triple_moreElements : Triple (fun _ _ => True) moreElements fun _ _ => True := by
  intro before c hc _
  fun_induction moreElements c generalizing before with
  | case1 c separator hcomma following hclose =>
    obtain ⟨passed, hpasses, -⟩ := passes_comma hcomma
    exact Pass.warranted_silent hpasses trivial
  | case2 c separator hcomma following hopen p ih =>
    obtain ⟨passed, hpasses, hawaits⟩ := passes_comma hcomma
    have hoffset : following.offset = (before ++ passed).length := by
      rw [hpasses.offset_eq, hc, List.length_append]
    have helement : p.Warranted (before ++ passed) following fun _ _ => True :=
      triple_element _ following hoffset
        ⟨hawaits before, stops_dropWhile _ _, stops_of_not_startsWith hopen⟩
    exact (helement.append hoffset fun front hfront _ => ih front hfront).after hpasses
  | case3 c separator hcomma =>
    exact Pass.warranted_silent (Cursor.passes_skipWhile isWhiteSpace c) trivial

/-- Behind `[` the elements are checked; where `[` is missing the list is closed there. -/
theorem triple_elements :
    Triple (fun before after => lastSolid? before = some '[' ∨ Stops (· ∉ [']']) after) elements
      fun _ _ => True := by
  have hblanks : Triple (fun before after => lastSolid? before = some '[' ∨
      Stops (· ∉ [']']) after) blanks fun before after => Stops isWhiteSpace after ∧
        (lastSolid? before = some '[' ∨ Stops (· ∉ [']']) after) := by
    refine triple_blanks ?_
    rintro before w after (hopen | hclose) hw hspace
    · exact ⟨hspace, .inl ((lastSolid?_append_of_isBlank hw).trans hopen)⟩
    · rcases w with - | ⟨ch, w⟩
      · exact ⟨hspace, .inr hclose⟩
      · have hch : ch = ']' := by simpa using hclose
        have hblank := hw ch List.mem_cons_self
        rw [hch] at hblank
        contradiction
  rw [elements_eq]
  refine hblanks.andThen (.branch (.branch triple_silent.weaken
    (.andThen (triple_element.mono ?_ fun _ _ h => h) triple_moreElements)) triple_silent.weaken)
  rintro before after ⟨⟨⟨hspace, hopen⟩, hsome⟩, hclose⟩
  rcases hopen with hopen | hsync
  · exact ⟨.inl hopen, hspace, hclose⟩
  · obtain ⟨ch, after, -, rfl⟩ := begins_iff.mp hsome
    have hch : ch = ']' := by simpa using hsync
    subst hch
    contradiction

/-! ## The whole declaration -/

/-- Trailing content is reported behind the semicolon, or the text is at its end. -/
theorem triple_ending :
    Triple (fun before after => (lastSolid? before = some ';' ∧ Stops isWhiteSpace after) ∨
      after = []) ending fun _ _ => True := by
  rw [ending_eq]
  refine .branch (.andThen (triple_report ?_).weaken
    (triple_skipWhile fun _ _ _ _ _ _ => trivial)) triple_silent.weaken
  rintro before after ⟨hend, hsome⟩
  obtain ⟨ch, after, -, rfl⟩ := begins_iff.mp hsome
  rcases hend with ⟨hlast, hspace⟩ | hnil
  · exact ⟨hlast, List.cons_ne_nil _ _, hspace⟩
  · exact absurd hnil (List.cons_ne_nil _ _)

/-- Behind white space the next symbol is looked at. -/
theorem triple_space : Triple P blanks fun _ after => Stops isWhiteSpace after :=
  triple_blanks fun _ _ _ _ _ hspace => hspace

/-- The whole check reports only what is justified. -/
theorem triple_declaration : Triple (fun before _ => before = []) declaration fun _ _ => True := by
  have hstart : Triple (fun before _ => before = []) blanks fun before after =>
      IsBlank before ∧ Stops isWhiteSpace after := by
    refine triple_blanks ?_
    rintro _ w after rfl hw hspace
    exact ⟨hw, hspace⟩
  have hend : Triple (fun before after => lastSolid? before = some ';' ∨
      Stops (· ∉ GrammarPoint.ending.syncChars) after) blanks fun before after =>
        (lastSolid? before = some ';' ∧ Stops isWhiteSpace after) ∨ after = [] := by
    refine triple_blanks ?_
    rintro before w after (hlast | hsync) hw hspace
    · exact .inl ⟨(lastSolid?_append_of_isBlank hw).trans hlast, hspace⟩
    · right
      have hnil : w ++ after = [] := eq_nil_of_stops hsync hsync fun _ => .inl rfl
      exact (List.append_eq_nil_iff.mp hnil).2
  exact triple_cons hstart (triple_cons triple_name (triple_cons triple_space
    (triple_cons (triple_expect .assign) (triple_cons triple_space
      (triple_cons (triple_expect .openBracket) (triple_cons triple_elements
        (triple_cons triple_space (triple_cons (triple_expect .closeBracket)
          (triple_cons triple_space (triple_cons (triple_expect .semicolon)
            (triple_cons hend (triple_cons triple_ending triple_nil))))))))))))

/-! ### Digits of the name -/

/-- A digit of a name is among its findings. -/
theorem mem_nameFindings {n : Nat} {y : Text} {digit : Char} (hdigit : digit.isDigit = true) :
    (.digitInIdentifier, n + x.length) ∈ nameFindings n (x ++ digit :: y) := by
  induction x generalizing n with
  | nil => simp [nameFindings, hdigit]
  | cons ch x ih =>
    have hrest := ih (n := n + 1)
    rw [List.length_cons, Nat.add_comm x.length 1, ← Nat.add_assoc, List.cons_append, nameFindings]
    split
    · exact List.mem_cons_of_mem _ hrest
    · exact hrest

/-- What the first routines find is found by all of them. -/
theorem mem_diagnostics_append {ss : List Routine} {d : Diagnostic}
    (hd : d ∈ (inOrder rs c).diagnostics) : d ∈ (inOrder (rs ++ ss) c).diagnostics := by
  rw [inOrder_append, Routine.andThen, Pass.diagnostics_append]
  exact List.mem_append_left _ hd

/-- Every digit of the leading name is reported. -/
theorem mem_diagnose_of_digit {blank name rest : Text} {digit : Char} (hblank : IsBlank blank)
    (hname : IsLooseName name) (hdigit : digit.isDigit = true) :
    ⟨.digitInIdentifier, .char digit, (blank ++ name).length⟩ ∈
      diagnose (blank ++ name ++ digit :: rest) := by
  have hword : IsLooseName (name ++ digit :: rest.takeWhile Char.isAlphanum) := by
    obtain ⟨ch, name, hch, rfl⟩ := begins_iff.mp hname.1
    refine ⟨hch, ?_⟩
    intro d hd
    rcases List.mem_append.mp hd with hd | hd
    · exact hname.2 d hd
    · rcases List.mem_cons.mp hd with rfl | hd
      · exact isAlphanum_of_isDigit hdigit
      · exact List.mem_takeWhile_imp hd
  have htext : blank ++ name ++ digit :: rest =
      blank ++ (name ++ digit :: rest.takeWhile Char.isAlphanum) ++
        rest.dropWhile Char.isAlphanum := by
    simp only [List.append_assoc, List.cons_append, List.takeWhile_append_dropWhile]
  have hcovers := covers_named (n := 0) hblank hword (stops_dropWhile Char.isAlphanum rest)
  have hfinding : (.digitInIdentifier, (blank ++ name).length) ∈
      (inOrder [blanks, Routine.name] (.start (blank ++ name ++ digit :: rest))).findings := by
    rw [htext, Cursor.start, hcovers.findings, List.length_append, Nat.zero_add]
    exact mem_nameFindings hdigit
  obtain ⟨d, hd, hkind⟩ := List.mem_map.mp hfinding
  have hparts : declaration = inOrder ([blanks, Routine.name] ++ [blanks, expect .assign, blanks,
      expect .openBracket, elements, blanks, expect .closeBracket, blanks, expect .semicolon,
      blanks, ending]) := rfl
  have hmem : d ∈ diagnose (blank ++ name ++ digit :: rest) := by
    rw [diagnose_eq, hparts]
    exact mem_diagnostics_append hd
  have hshown := eq_inText_of_mem_diagnose hmem
  rw [Diagnostic.finding, Prod.mk.injEq] at hkind
  rw [hkind.1, hkind.2, Diagnostic.inText, List.drop_left] at hshown
  exact hshown ▸ hmem

end Routine

/-- No violation is reported twice at one position. -/
theorem filter_eq_singleton {t : Text} {d : Diagnostic} (hd : d ∈ diagnose t) :
    (diagnose t).filter (fun e => e.kind = d.kind ∧ e.position = d.position) = [d] := by
  have hnodup : (diagnose t).Nodup := by
    rw [diagnose_eq_all]
    exact (wellFormed_stagesFrom _).nodup
  have hsame : (diagnose t).filter (fun e => e.kind = d.kind ∧ e.position = d.position) =
      (diagnose t).filter (· == d) := by
    refine List.filter_congr ?_
    intro e he
    rw [Bool.eq_iff_iff, decide_eq_true_eq, beq_iff_eq]
    constructor
    · rintro ⟨hkind, hposition⟩
      rw [eq_inText_of_mem_diagnose he, eq_inText_of_mem_diagnose hd, hkind, hposition]
    · rintro rfl
      exact ⟨rfl, rfl⟩
  rw [hsame, List.filter_beq, List.count_eq_one_of_mem hnodup hd]
  rfl

open Routine

/-- Every diagnostic is justified by the text at its position, and each digit of the name is
reported exactly once. -/
theorem justified_of_diagnose (t : Text) :
    (∀ d ∈ diagnose t, d.Justified t) ∧
      ∀ blank name digit rest, t = blank ++ name ++ digit :: rest → IsBlank blank →
        IsLooseName name → digit.isDigit = true →
          (diagnose t).filter (fun d =>
              d.kind = .digitInIdentifier ∧ d.position = (blank ++ name).length) =
            [⟨.digitInIdentifier, .char digit, (blank ++ name).length⟩] := by
  refine ⟨(triple_declaration [] (.start t) rfl rfl).justified, ?_⟩
  rintro blank name digit rest rfl hblank hname hdigit
  exact filter_eq_singleton (mem_diagnose_of_digit hblank hname hdigit)

/-- The second digit of a name, in a text that breaks off behind a sign. -/
theorem justified_of_diagnose_second_digit :
    IsBlank [' '] ∧ IsLooseName "a2b".toList ∧ '3'.isDigit = true ∧
      (∀ d ∈ diagnose " a2b3=[-".toList, d.Justified " a2b3=[-".toList) ∧
      (diagnose " a2b3=[-".toList).filter (fun d =>
          d.kind = .digitInIdentifier ∧ d.position = 4) =
        [⟨.digitInIdentifier, .char '3', 4⟩] := by
  have hname : IsLooseName "a2b".toList := ⟨rfl, by simp⟩
  have hall := justified_of_diagnose " a2b3=[-".toList
  exact ⟨isBlank_space, hname, rfl, hall.1,
    hall.2 [' '] "a2b".toList '3' "=[-".toList rfl isBlank_space hname rfl⟩

end TypedList
