import TypedList.Log
import TypedList.Proofs.SyncPositions

/-!
# What the log of a check tells

Everything that a check records is recorded by its reports, one behind another: a diagnostic and,
where the violation loses the way, the place where the check goes on.  So the log of a check can be
read as a list of incidents, from which every recovery can be followed in the text.

Main results:

- Theorem `Routine.recorded_of_composed`: the events of every routine are those of its reports.
- Theorem `Cursor.InText.faithful_incident`: what a report records is what happens in the text.
- Theorem `checkLog_tells_incidents`: the log of a check tells its diagnostics and recoveries, and
  each recovery skips to the next synchronization character of its violation.
-/

namespace TypedList

/-! ## Incidents -/

/-- Where a check went on behind a violation, and how many characters it skipped. -/
structure Recovery where
  position : Nat
  skipped : Nat

/-- A violation that was found and, if it lost the way, the recovery from it. -/
structure Incident where
  diagnostic : Diagnostic
  recovery : Option Recovery

/-- The message of the log about a recovery. -/
def Recovery.message (r : Recovery) : Text :=
  "recovered at ".toList ++ decimal r.position ++ " after skipping ".toList ++
    decimal r.skipped ++ " chars".toList

namespace Incident

/-- The messages of the log about an incident. -/
def messages (i : Incident) : List Text :=
  i.diagnostic.display :: (i.recovery.map Recovery.message).toList

/-- The events of an incident. -/
def events (i : Incident) : List Event :=
  .found i.diagnostic :: (i.recovery.map fun r => .resumed r.position r.skipped).toList

end Incident

/-- The characters at which a check goes on behind a violation, for the violations that lose the
way. -/
def Violation.resumesAt? : Violation → Option SyncChars
  | invalidIdentifierStart => some ['=']
  | digitInIdentifier => none
  | missingSymbol .assign => some ['[']
  | missingSymbol .openBracket => some [']']
  | missingSymbol .closeBracket => some [';']
  | missingSymbol .semicolon => some []
  | missingSymbol .openingQuote => some [',', ']', ';']
  | missingElement => some [',', ']', ';']
  | unterminatedString => some [',', ']', ';']
  | missingDigitAfterSign => some [',', ']', ';']
  | missingDigitAfterDot => some [',', ']', ';']
  | trailingContent => none

/-- The recovery leads from a position of a text over none of the characters to one of them, or to
the end of the text. -/
structure Recovery.Leads (t : Text) (start : Nat) (chars : SyncChars) (r : Recovery) : Prop where
  position_eq : start + r.skipped = r.position
  position_le : r.position ≤ t.length
  notMem_skipped : ∀ k, start ≤ k → k < r.position → ∀ c ∈ t[k]?, c ∉ chars
  stops : r.position = t.length ∨ ∃ c ∈ chars, t[r.position]? = some c

/-- The incident has a recovery exactly if its violation loses the way, and the recovery leads to
where the check may go on. -/
inductive Incident.Faithful (t : Text) : Incident → Prop
  | onTheWay {d : Diagnostic} : d.kind.resumesAt? = none → Faithful t ⟨d, none⟩
  | recovered {d : Diagnostic} {chars : SyncChars} {r : Recovery} :
      d.kind.resumesAt? = some chars → r.Leads t d.position chars → Faithful t ⟨d, some r⟩

/-! ## Reports -/

/-- The recovery from a violation at the cursor. -/
def Cursor.recovery (c : Cursor) (chars : SyncChars) : Recovery :=
  ⟨(c.synchronize chars).offset, (c.synchronize chars).offset - c.offset⟩

/-- The incident that a report at the cursor records. -/
def Cursor.incident (c : Cursor) (kind : Violation) : Incident :=
  ⟨c.diagnostic kind, kind.grammarPoint?.map fun point => c.recovery point.syncChars⟩

variable {t : Text} {c d : Cursor}

/-- A violation that loses the way at a point of the grammar goes on where that point does. -/
theorem resumesAt?_eq (kind : Violation) :
    kind.resumesAt? = kind.grammarPoint?.map GrammarPoint.syncChars := by
  cases kind with
  | missingSymbol expected => cases expected <;> rfl
  | _ => rfl

/-- A recovery leads to the next synchronization character, or to the end of the text. -/
theorem Cursor.InText.leads_recovery (hc : c.InText t) (chars : SyncChars) :
    (c.recovery chars).Leads t c.offset chars := by
  unfold Cursor.recovery
  rw [hc.synchronize]
  constructor
  · exact Nat.add_sub_cancel' (le_syncPosition hc.offset_le)
  · exact syncPosition_le_length
  · intro k hk hlt
    exact notMem_of_lt_syncPosition hk hlt
  · rcases syncPosition_le_length.eq_or_lt with hend | hlt
    · exact .inl hend
    · exact .inr (mem_of_syncPosition_lt hlt)

/-- What a report records is what happens in the text. -/
theorem Cursor.InText.faithful_incident (hc : c.InText t) (kind : Violation) :
    (c.incident kind).Faithful t := by
  have hresumes := resumesAt?_eq kind
  unfold Cursor.incident
  cases hpoint : kind.grammarPoint? with
  | none =>
    rw [hpoint] at hresumes
    exact .onTheWay hresumes
  | some point =>
    rw [hpoint] at hresumes
    exact .recovered hresumes (hc.leads_recovery point.syncChars)

/-- What a pass from a cursor records is recorded by reports on its way. -/
def Pass.Recorded (c : Cursor) (p : Pass) : Prop :=
  ∃ incidents : List Incident, p.events = incidents.flatMap Incident.events ∧
    ∀ i ∈ incidents, ∃ d : Cursor, ∃ kind, c.Ahead d ∧ i = d.incident kind

namespace Pass

variable {p q : Pass}

/-- Without an event nothing needs to be recorded. -/
theorem recorded_silent (c d : Cursor) : (silent d).Recorded c :=
  ⟨[], rfl, fun _ hi => absurd hi List.not_mem_nil⟩

/-- Two passes one behind the other record what the first and then what the second records. -/
theorem Recorded.append (hp : p.Recorded c) (hahead : c.Ahead p.cursor)
    (hq : q.Recorded p.cursor) : (p.append q).Recorded c := by
  obtain ⟨is, his, hreports⟩ := hp
  obtain ⟨js, hjs, hreports'⟩ := hq
  refine ⟨is ++ js, by rw [List.flatMap_append, ← his, ← hjs]; rfl, ?_⟩
  intro i hi
  rcases List.mem_append.mp hi with hi | hi
  · exact hreports i hi
  · obtain ⟨d, kind, hd, heq⟩ := hreports' i hi
    exact ⟨d, kind, Cursor.ahead_trans hahead hd, heq⟩

end Pass

namespace Routine

/-- A report records the one incident at its cursor. -/
theorem recorded_report (kind : Violation) (c : Cursor) : (report kind c).Recorded c := by
  refine ⟨[c.incident kind], ?_, ?_⟩
  · unfold report Cursor.incident
    cases kind.grammarPoint? <;> rfl
  · intro i hi
    rw [List.mem_singleton] at hi
    exact ⟨c, kind, Cursor.ahead_refl c, hi⟩

/-- The events of a routine are those of its reports. -/
theorem recorded_of_composed {r : Routine} (h : Composed r) (c : Cursor) : (r c).Recorded c := by
  induction h generalizing c with
  | stay => exact Pass.recorded_silent c c
  | next => exact Pass.recorded_silent c c.next
  | skipWhile p => exact Pass.recorded_silent c (c.skipWhile p)
  | report kind => exact recorded_report kind c
  | branch p _ _ ihr ihs =>
    unfold branch
    split
    · exact ihr c
    · exact ihs c
  | andThen hr _ ihr ihs => exact (ihr c).append (ahead_of_composed hr c) (ihs _)
  | limit s _ hagree ih =>
    rw [hagree c.rest.length c le_rfl]
    exact ih _ c

end Routine

/-! ## Events of incidents -/

namespace Incident

variable {incidents : List Incident}

/-- An incident has one diagnostic. -/
theorem filterMap_diagnostic?_events (i : Incident) :
    i.events.filterMap Event.diagnostic? = [i.diagnostic] := by
  obtain ⟨diagnostic, - | recovery⟩ := i <;> rfl

/-- The messages of an incident are those of its events. -/
theorem map_logMessage_events (i : Incident) : i.events.map Event.logMessage = i.messages := by
  obtain ⟨diagnostic, - | recovery⟩ := i <;> rfl

/-- Incidents one behind another have their diagnostics in this order. -/
theorem filterMap_flatMap_events (incidents : List Incident) :
    (incidents.flatMap events).filterMap Event.diagnostic? = incidents.map diagnostic := by
  simp only [List.filterMap_flatMap, filterMap_diagnostic?_events, ← List.map_eq_flatMap]

/-- Where the events of incidents happen in the order of their positions, no incident lies before
the recovery from an earlier one. -/
theorem pairwise_of_sorted
    (h : (incidents.flatMap events).Pairwise fun e f => e.position ≤ f.position) :
    incidents.Pairwise fun i j => ∀ r ∈ i.recovery, r.position ≤ j.diagnostic.position := by
  refine (List.pairwise_flatMap.mp h).2.imp ?_
  rintro ⟨diagnostic, recovery⟩ j hsorted r rfl
  exact hsorted (.resumed r.position r.skipped) (by simp [events]) (.found j.diagnostic)
    List.mem_cons_self

end Incident

/-! ## The log -/

/-- The log of a check tells, for every diagnostic in order, the diagnostic and the recovery from
it, and at last the lengths of the text and of the list of diagnostics.  Each recovery leads from
its diagnostic to the next character at which its violation lets the check go on, or to the end of
the text, and every later diagnostic lies behind it. -/
theorem checkLog_tells_incidents (t : Text) : ∃ incidents : List Incident,
    diagnose t = incidents.map Incident.diagnostic ∧
    checkLog t = (incidents.flatMap Incident.messages ++
      ["parsed ".toList ++ decimal t.length ++ " chars, ".toList ++
        decimal (diagnose t).length ++ " errors".toList]).map (LogRecord.mk .debug) ∧
    (∀ i ∈ incidents, i.Faithful t) ∧
    incidents.Pairwise fun i j => ∀ r ∈ i.recovery, r.position ≤ j.diagnostic.position := by
  have hcheck := Routine.composed_declaration
  obtain ⟨incidents, hevents, hreports⟩ := Routine.recorded_of_composed hcheck (.start t)
  have hsorted := (Routine.ordered_of_composed hcheck (.start t)).sorted
  rw [hevents] at hsorted
  have hdiagnose : diagnose t = incidents.map Incident.diagnostic := by
    rw [← Incident.filterMap_flatMap_events, ← hevents]
    rfl
  have hmessages : (checkEvents t).map Event.logMessage = incidents.flatMap Incident.messages := by
    rw [checkEvents, hevents, List.map_flatMap]
    simp only [Incident.map_logMessage_events]
  refine ⟨incidents, hdiagnose, ?_, ?_, Incident.pairwise_of_sorted hsorted⟩
  · rw [List.map_append, ← hmessages, List.map_map]
    rfl
  · intro i hi
    obtain ⟨d, kind, hahead, rfl⟩ := hreports i hi
    exact ((Cursor.inText_start t).ahead hahead).faithful_incident kind

end TypedList
