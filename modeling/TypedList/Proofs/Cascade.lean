import TypedList.Proofs.Coverage
import TypedList.Proofs.Stages

/-!
# The end of the text

Once a check has used up its text, every point of the grammar that is left is reported there once,
in order.  Where the last element breaks off, it is reported as well; the points before it are not.

Main results:

- Theorem `Routine.Cascades.cons`: reports at the end of the text come one behind another.
- Theorem `Routine.Cascades.elements`: an element that breaks off takes the place of the points
  before it.
- Theorem `cascade_diagnose`: the diagnostics at the end of a text come last, and their violations
  are those of the last points of the grammar, perhaps behind one of an element.
-/

namespace TypedList

/-! ## Violations at the end -/

/-- The violations of the points of the grammar at which a symbol is always needed. -/
def fixedPoints : List Violation :=
  [.invalidIdentifierStart, .missingSymbol .assign, .missingSymbol .openBracket,
    .missingSymbol .closeBracket, .missingSymbol .semicolon]

/-- The violations of the points behind the elements. -/
def closingPoints : List Violation :=
  [.missingSymbol .closeBracket, .missingSymbol .semicolon]

/-- The violations are those of the last points of the grammar, or those behind the elements
together with one of an element. -/
def IsCascade (kinds : List Violation) : Prop :=
  kinds <:+ fixedPoints ∨ ∃ kind, kind.isOfElement = true ∧ kinds = kind :: closingPoints

/-- Whether a diagnostic shows at the end of the text. -/
def Diagnostic.isAtEnd (d : Diagnostic) : Bool :=
  d.symbol = .endOfInput

/-- The violations that a pass reports at the end of the text, in order. -/
def Pass.endKinds (p : Pass) : List Violation :=
  (p.diagnostics.filter Diagnostic.isAtEnd).map Diagnostic.kind

/-- What two passes report at the end of the text comes in the order of the passes. -/
theorem Pass.endKinds_append (p q : Pass) :
    (p.append q).endKinds = p.endKinds ++ q.endKinds := by
  simp only [endKinds, diagnostics_append, List.filter_append, List.map_append]

variable {c : Cursor} {d : Diagnostic}

/-- The end of input is the symbol exactly where nothing is left. -/
theorem Cursor.symbol_eq_endOfInput : c.symbol = .endOfInput ↔ c.rest = [] := by
  obtain ⟨offset, rest⟩ := c
  cases rest <;> simp [symbol, Symbol.atHead]

namespace Routine

variable {r s : Routine} {rs : List Routine} {kind : Violation} {kinds owed : List Violation}

/-- A report counts here if nothing is left where it is made. -/
theorem endKinds_report (kind : Violation) (c : Cursor) :
    (report kind c).endKinds = if c.rest = [] then [kind] else [] := by
  have hsymbol : (c.diagnostic kind).isAtEnd = decide (c.rest = []) :=
    decide_eq_decide.mpr Cursor.symbol_eq_endOfInput
  rw [Pass.endKinds, diagnostics_report, List.filter_singleton, hsymbol]
  by_cases hrest : c.rest = []
  · simp [hrest, Cursor.diagnostic]
  · simp [hrest]

/-- A diagnostic that shows at the end of the text stands there, and the check ends there. -/
theorem located_atEnd (h : Composed r) (hd : d ∈ (r c).diagnostics)
    (hend : d.symbol = .endOfInput) :
    (r c).cursor.rest = [] ∧ d.position = c.offset + c.rest.length := by
  obtain ⟨e, ⟨passed, hrest, hoffset⟩, hahead, hat⟩ :=
    (ordered_of_composed h c).located _ (Pass.mem_diagnostics.mp hd)
  have hdiagnostic : d = e.diagnostic d.kind := hat
  rw [hdiagnostic] at hend
  have hnil : e.rest = [] := Cursor.symbol_eq_endOfInput.mp hend
  constructor
  · have hlength := hahead.length_le
    rwa [hnil, List.length_nil, Nat.le_zero, List.length_eq_zero_iff] at hlength
  · rw [hnil, List.append_nil] at hrest
    rw [hdiagnostic, hrest]
    exact hoffset

/-! ## Reports at the end -/

/-- At the end of the text the routine reports the given violations.  Before it, it reports
nothing at the end. -/
structure Owes (r : Routine) (owed : List Violation) : Prop where
  composed : Composed r
  atEnd : ∀ c : Cursor, c.rest = [] → (r c).endKinds = owed
  beforeEnd : ∀ c : Cursor, c.rest ≠ [] → (r c).endKinds = []

/-- White space owes nothing. -/
theorem owes_blanks : Owes blanks [] where
  composed := .skipWhile _
  atEnd _ _ := rfl
  beforeEnd _ _ := rfl

/-- A delimiter owes the report that it is missing. -/
theorem owes_expect (delimiter : Delimiter) :
    Owes (expect delimiter) [.missingSymbol delimiter] where
  composed := composed_expect delimiter
  atEnd c hc := by
    have hmissing : ¬ c.startsWith (· = delimiter.char) = true := by
      simp [Cursor.startsWith, hc]
    rw [expect, if_neg hmissing, endKinds_report, if_pos hc]
  beforeEnd c hc := by
    unfold expect
    split
    · rfl
    · rw [endKinds_report, if_neg hc]

/-- What is reported inside a name is a digit, and not the end of the text. -/
theorem endKinds_nameTail (c : Cursor) : (nameTail c).endKinds = [] := by
  have hnone : (nameTail c).diagnostics.filter Diagnostic.isAtEnd = [] := by
    rw [List.filter_eq_nil_iff]
    intro d hd
    rw [Pass.mem_diagnostics, nameTail] at hd
    obtain ⟨⟨ch, position⟩, -, heq⟩ := List.mem_map.mp hd
    rw [← Event.found.inj heq]
    intro hend
    have hsymbol : Symbol.char ch = .endOfInput := of_decide_eq_true hend
    contradiction
  rw [Pass.endKinds, hnone]
  rfl

/-- A name owes the report of its first letter only; its digits are never at the end of the text. -/
theorem owes_name : Owes name [.invalidIdentifierStart] where
  composed := composed_name
  atEnd c hc := by
    have hletter : ¬ c.startsWith Char.isAlpha = true := by
      simp [Cursor.startsWith, hc]
    rw [name, if_neg hletter, endKinds_report, if_pos hc]
  beforeEnd c hc := by
    unfold name
    split
    · exact endKinds_nameTail _
    · rw [endKinds_report, if_neg hc]

/-- The end of the text is owed nothing. -/
theorem owes_ending : Owes ending [] where
  composed := composed_ending
  atEnd c hc := by
    rw [ending, if_pos (List.isEmpty_iff.mpr hc)]
    rfl
  beforeEnd c hc := by
    rw [ending, if_neg (mt List.isEmpty_iff.mp hc)]
    exact (endKinds_report .trailingContent c).trans (if_neg hc)

/-! ## Cascades -/

/-- At the end of the text the routine reports the given violations.  Elsewhere it reports the last
of them at the end, or those behind the elements together with one of an element. -/
structure Cascades (r : Routine) (kinds : List Violation) : Prop where
  atEnd : ∀ c : Cursor, c.rest = [] → (r c).endKinds = kinds
  anywhere : ∀ c : Cursor, (r c).endKinds <:+ kinds ∨
    ∃ kind, kind.isOfElement = true ∧ (r c).endKinds = kind :: closingPoints

/-- Behind the last routine nothing is owed. -/
theorem cascades_nil : Cascades (inOrder []) [] where
  atEnd _ _ := rfl
  anywhere _ := .inl List.suffix_rfl

/-- Reports at the end of the text come one behind another. -/
theorem Cascades.cons (hr : Owes r owed) (hrs : Cascades (inOrder rs) kinds) :
    Cascades (inOrder (r :: rs)) (owed ++ kinds) where
  atEnd c hc := by
    have hrest := hrs.atEnd _ (rest_eq_nil_of_composed hr.composed hc)
    rw [inOrder, Pass.endKinds_append, hr.atEnd c hc, hrest]
  anywhere c := by
    by_cases hc : c.rest = []
    · left
      have hrest := hrs.atEnd _ (rest_eq_nil_of_composed hr.composed hc)
      rw [inOrder, Pass.endKinds_append, hr.atEnd c hc, hrest]
    · rw [inOrder, Pass.endKinds_append, hr.beforeEnd c hc, List.nil_append]
      rcases hrs.anywhere (r c).cursor with hsuffix | helement
      · exact .inl (hsuffix.trans (List.suffix_append owed kinds))
      · exact .inr helement

/-- Of the elements at most one breaks off at the end of the text. -/
theorem endKinds_elements (c : Cursor) : (elements c).endKinds = [] ∨
    ∃ kind, kind.isOfElement = true ∧ (elements c).endKinds = [kind] ∧
      (elements c).cursor.rest = [] := by
  have honly := onlyElements_elements c
  rcases hends : (elements c).diagnostics.filter Diagnostic.isAtEnd with - | ⟨d, ends⟩
  · left
    rw [Pass.endKinds, hends]
    rfl
  · right
    have hmem : ∀ e ∈ d :: ends, e ∈ (elements c).diagnostics ∧ e.symbol = .endOfInput := by
      intro e he
      rw [← hends] at he
      exact ⟨(List.mem_filter.mp he).1, of_decide_eq_true (List.mem_filter.mp he).2⟩
    have hd := hmem d List.mem_cons_self
    have hlast := located_atEnd composed_elements hd.1 hd.2
    -- The positions of the elements' diagnostics increase, but all of these are the end.
    have hnone : ends = [] := by
      rw [List.eq_nil_iff_forall_not_mem]
      intro e he
      have hincreasing : Increasing (d :: ends) := by
        rw [← hends]
        exact honly.increasing.filter _
      have hlt := (List.pairwise_cons.mp hincreasing).1 e he
      have hmore := hmem e (List.mem_cons_of_mem d he)
      have hposition := (located_atEnd composed_elements hmore.1 hmore.2).2
      rw [hlast.2, hposition] at hlt
      exact Nat.lt_irrefl _ hlt
    refine ⟨d.kind, honly.kind d hd.1, ?_, hlast.1⟩
    rw [Pass.endKinds, hends, hnone]
    rfl

/-- An element that breaks off takes the place of the points before it. -/
theorem Cascades.elements (hrs : Cascades (inOrder rs) closingPoints) :
    Cascades (inOrder (elements :: rs)) closingPoints where
  atEnd c hc := by
    have hclosed : Stops (· ∉ [']']) c.rest := by
      rw [hc]
      exact stops_nil _
    rw [inOrder, Pass.endKinds_append, elements_of_closed hclosed]
    exact hrs.atEnd c hc
  anywhere c := by
    rw [inOrder, Pass.endKinds_append]
    rcases endKinds_elements c with hnone | ⟨kind, hkind, hone, hrest⟩
    · rw [hnone, List.nil_append]
      exact hrs.anywhere _
    · rw [hone, hrs.atEnd _ hrest]
      exact .inr ⟨kind, hkind, rfl⟩

/-- A check that uses its text up before the elements reports the last of the fixed points. -/
theorem cascades_declaration : Cascades declaration fixedPoints := by
  have hending : Cascades (inOrder [blanks, ending]) [] :=
    .cons owes_blanks (.cons owes_ending cascades_nil)
  have hclosing : Cascades (inOrder [blanks, expect .closeBracket, blanks, expect .semicolon,
      blanks, ending]) closingPoints :=
    .cons owes_blanks (.cons (owes_expect .closeBracket)
      (.cons owes_blanks (.cons (owes_expect .semicolon) hending)))
  exact .cons owes_blanks (.cons owes_name (.cons owes_blanks (.cons (owes_expect .assign)
    (.cons owes_blanks (.cons (owes_expect .openBracket) hclosing.elements)))))

/-! ## Consecutive points -/

/-- Where the check has gone on at a delimiter or at the end, the delimiter can only be missing at
the end. -/
theorem symbol_of_mem_expect (delimiter : Delimiter) (hstops : Stops (· ∉ [delimiter.char]) c.rest)
    (hd : d ∈ (expect delimiter c.skipBlanks).diagnostics) : d.symbol = .endOfInput := by
  obtain ⟨offset, rest⟩ := c
  cases rest with
  | nil =>
    have hreport : expect delimiter (Cursor.skipBlanks ⟨offset, []⟩) =
        report (.missingSymbol delimiter) ⟨offset, []⟩ := rfl
    rw [hreport, diagnostics_report, List.mem_singleton] at hd
    rw [hd]
    rfl
  | cons x rest =>
    have hx : x = delimiter.char := by simpa using hstops
    have hfound : expect delimiter ⟨offset, x :: rest⟩ = .silent ⟨offset + 1, rest⟩ := by
      simp [expect, Cursor.startsWith, hx, Cursor.next]
    rw [skipBlanks_of_stops (stops_cons.mpr (hx ▸ isWhiteSpace_delimiter delimiter)), hfound] at hd
    exact absurd hd List.not_mem_nil

/-- Where a name does not begin with a letter the check goes on at `=`. -/
theorem stops_name_of_missing (hd : d ∈ (name c).diagnostics)
    (hkind : d.kind = .invalidIdentifierStart) : Stops (· ∉ ['=']) (name c).cursor.rest := by
  unfold name at hd ⊢
  split <;> rename_i hletter
  · rw [if_pos hletter] at hd
    have hdigit := digitInIdentifier_of_mem_nameTail hd
    rw [hkind] at hdigit
    contradiction
  · exact stops_dropWhile (· ∉ ['=']) c.rest

end Routine

open Routine

/-- Of two consecutive points of the grammar that are both reported, the second is reported at the
end of the text: behind the first the check goes on where the second is met. -/
theorem symbol_of_consecutive {t : Text} {d e : Diagnostic} (hd : d ∈ diagnose t)
    (he : e ∈ diagnose t) (hpoints : (d.kind, e.kind) ∈ fixedPoints.zip fixedPoints.tail) :
    e.symbol = .endOfInput := by
  have hstages := wellFormed_stagesFrom (.start t)
  rw [diagnose_eq_all] at hd he
  have hdpart := hstages.mem_part hd
  have hepart := hstages.mem_part he
  simp only [fixedPoints, List.tail_cons, List.zip_cons_cons, List.zip_nil_right, List.mem_cons,
    Prod.mk.injEq, List.not_mem_nil, or_false] at hpoints
  rcases hpoints with ⟨hdkind, hekind⟩ | ⟨hdkind, hekind⟩ | ⟨hdkind, hekind⟩ | ⟨hdkind, hekind⟩ <;>
    rw [hdkind] at hdpart <;> rw [hekind] at hepart
  · exact symbol_of_mem_expect .assign (stops_name_of_missing hdpart hdkind) hepart
  · exact symbol_of_mem_expect .openBracket
      (stops_expect_of_missing (List.ne_nil_of_mem hdpart)) hepart
  · -- The elements between the two are none, and are passed over in silence.
    have hclosed := stops_expect_of_missing (List.ne_nil_of_mem hdpart)
    have hnone := elements_of_closed hclosed
    simp only [Stages.part, Violation.stage, stagesFrom, hnone] at hepart
    exact symbol_of_mem_expect .closeBracket hclosed hepart
  · rcases List.mem_append.mp hepart with he | he
    · exact symbol_of_mem_expect .semicolon
        (stops_expect_of_missing (List.ne_nil_of_mem hdpart)) he
    · have htrailing := (atMostOne_ending _).kind e he
      rw [hekind] at htrailing
      exact nomatch htrailing

/-! ## The end of a text -/

/-- What a property selects comes last, if it passes on to everything behind. -/
theorem filter_isSuffix {α : Type} {p : α → Bool} {l : List α}
    (h : l.Pairwise fun a b => p a = true → p b = true) : l.filter p <:+ l := by
  induction l with
  | nil => exact List.suffix_rfl
  | cons a l ih =>
    rw [List.pairwise_cons] at h
    by_cases ha : p a = true
    · have hall : (a :: l).filter p = a :: l := by
        refine List.filter_eq_self.mpr ?_
        intro b hb
        rcases List.mem_cons.mp hb with rfl | hb
        · exact ha
        · exact h.1 b hb ha
      rw [hall]
    · rw [List.filter_cons_of_neg ha]
      exact (ih h.2).trans (List.suffix_cons a l)

/-- A diagnostic shows at the end of the text exactly if its position lies there. -/
theorem isAtEnd_iff {t : Text} {d : Diagnostic} (hd : d ∈ diagnose t) :
    d.isAtEnd = true ↔ t.length ≤ d.position := by
  rw [eq_inText_of_mem_diagnose hd, Diagnostic.isAtEnd, decide_eq_true_eq, Diagnostic.inText,
    ← List.drop_eq_nil_iff]
  cases t.drop d.position <;> simp [Symbol.atHead]

/-- The diagnostics at the end of the text come last. -/
theorem diagnose_atEnd_isSuffix (t : Text) :
    (diagnose t).filter Diagnostic.isAtEnd <:+ diagnose t := by
  refine filter_isSuffix ((pairwise_position_le_diagnose t).imp_of_mem ?_)
  intro d e hd he hle hend
  rw [isAtEnd_iff hd] at hend
  rw [isAtEnd_iff he]
  exact hend.trans hle

/-- Their violations form a cascade. -/
theorem isCascade_diagnose (t : Text) :
    IsCascade (((diagnose t).filter Diagnostic.isAtEnd).map Diagnostic.kind) :=
  cascades_declaration.anywhere (.start t)

/-- A cascade ends with the missing semicolon. -/
theorem IsCascade.getLast? {kinds : List Violation} (h : IsCascade kinds) (hsome : kinds ≠ []) :
    kinds.getLast? = some (.missingSymbol .semicolon) := by
  rcases h with ⟨before, hkinds⟩ | ⟨kind, -, rfl⟩
  · have hlast : fixedPoints.getLast? = some (.missingSymbol .semicolon) := rfl
    rwa [← hkinds, List.getLast?_append_of_ne_nil _ hsome] at hlast
  · rfl

/-- Where anything is reported at the end of the text, the last report is the missing `;`. -/
theorem getLast?_diagnose_of_atEnd {t : Text} {d : Diagnostic} (hd : d ∈ diagnose t)
    (hend : d.symbol = .endOfInput) :
    (diagnose t).getLast? = some ⟨.missingSymbol .semicolon, .endOfInput, t.length⟩ := by
  obtain ⟨before, hsuffix⟩ := diagnose_atEnd_isSuffix t
  have hmem : d ∈ (diagnose t).filter Diagnostic.isAtEnd :=
    List.mem_filter.mpr ⟨hd, decide_eq_true hend⟩
  have hne := List.ne_nil_of_mem hmem
  obtain ⟨last, hlast⟩ := List.getLast?_isSome.mpr hne |> Option.isSome_iff_exists.mp
  have hkind : last.kind = .missingSymbol .semicolon := by
    have hkinds := (isCascade_diagnose t).getLast? (by simpa using hne)
    rw [List.getLast?_map, hlast] at hkinds
    exact Option.some.inj hkinds
  have hlastmem := List.mem_filter.mp (List.mem_of_getLast? hlast)
  have hsymbol : last.symbol = .endOfInput := of_decide_eq_true hlastmem.2
  have hposition := (located_atEnd composed_declaration hlastmem.1 hsymbol).2
  rw [← hsuffix, List.getLast?_append_of_ne_nil _ hne, hlast]
  obtain ⟨kind, symbol, position⟩ := last
  simp only [Cursor.start, Nat.zero_add] at hkind hsymbol hposition
  rw [hkind, hsymbol, hposition]

/-- What is reported at the end of a text comes last and is a cascade: if it is anything, it ends
with the missing `;`.  Of two consecutive points of the grammar only the first can be reported
before the end. -/
theorem cascade_diagnose (t : Text) :
    (diagnose t).filter Diagnostic.isAtEnd <:+ diagnose t ∧
      IsCascade (((diagnose t).filter Diagnostic.isAtEnd).map Diagnostic.kind) ∧
      ((∃ d ∈ diagnose t, d.symbol = .endOfInput) →
        (diagnose t).getLast? = some ⟨.missingSymbol .semicolon, .endOfInput, t.length⟩) ∧
      ∀ d ∈ diagnose t, ∀ e ∈ diagnose t,
        (d.kind, e.kind) ∈ fixedPoints.zip fixedPoints.tail → e.symbol = .endOfInput := by
  refine ⟨diagnose_atEnd_isSuffix t, isCascade_diagnose t, ?_, ?_⟩
  · rintro ⟨d, hd, hend⟩
    exact getLast?_diagnose_of_atEnd hd hend
  · intro d hd e he hpoints
    exact symbol_of_consecutive hd he hpoints

/-- Behind a name and an opening bracket that are both missing, the text ends. -/
theorem cascade_diagnose_no_bracket :
    diagnose "=1".toList =
        [⟨.invalidIdentifierStart, .char '=', 0⟩, ⟨.missingSymbol .openBracket, .char '1', 1⟩,
          ⟨.missingSymbol .closeBracket, .endOfInput, 2⟩,
          ⟨.missingSymbol .semicolon, .endOfInput, 2⟩] ∧
      IsCascade closingPoints ∧
      (diagnose "=1".toList).getLast? = some ⟨.missingSymbol .semicolon, .endOfInput, 2⟩ ∧
      (.missingSymbol .openBracket, .missingSymbol .closeBracket) ∈
        fixedPoints.zip fixedPoints.tail := by
  have hfound : diagnose "=1".toList =
      [⟨.invalidIdentifierStart, .char '=', 0⟩, ⟨.missingSymbol .openBracket, .char '1', 1⟩,
        ⟨.missingSymbol .closeBracket, .endOfInput, 2⟩,
        ⟨.missingSymbol .semicolon, .endOfInput, 2⟩] := by
    decide +kernel
  obtain ⟨-, hcascade, hlast, hpoints⟩ := cascade_diagnose "=1".toList
  rw [hfound] at hcascade hlast hpoints
  have hpair : (.missingSymbol .openBracket, .missingSymbol .closeBracket) ∈
      fixedPoints.zip fixedPoints.tail := by decide
  have hend := hpoints _ (List.mem_cons_of_mem _ List.mem_cons_self)
    ⟨.missingSymbol .closeBracket, .endOfInput, 2⟩ (by decide) hpair
  refine ⟨hfound, hcascade, ?_, hpair⟩
  rw [hfound]
  exact hlast ⟨_, by decide, hend⟩

end TypedList
