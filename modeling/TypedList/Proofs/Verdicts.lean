import Mathlib.Data.List.TakeWhile
import TypedList.Proofs.Prefixes

/-!
# What the routines of a check decide

Every routine of the check reads one piece of the grammar.  Where it records nothing, the text
that it has passed over leaves exactly the language of what follows; where it records something,
its first diagnostic stands at the first character that does not belong.

Main results:

- Theorem `Verdict.append`: the verdicts of two passes make the verdict of both.
- Theorem `verdict_moreElements`: the loop over the elements of a list keeps to the grammar, by
  induction on its rounds.
- Theorem `reads_declaration`: the whole check decides the language of declarations.
-/

namespace TypedList

open Grammar

/-! ## Passing over text -/

namespace Cursor

/-- The second cursor stands behind the given text, which the first one stands before. -/
structure Passes (c : Cursor) (passed : Text) (d : Cursor) : Prop where
  rest_eq : c.rest = passed ++ d.rest
  offset_eq : d.offset = c.offset + passed.length

/-- A cursor that stays passes over nothing. -/
theorem passes_refl (c : Cursor) : c.Passes [] c :=
  ⟨rfl, rfl⟩

/-- Two moves pass over two texts, one behind the other. -/
theorem Passes.trans {c d e : Cursor} {x y : Text} (hcd : c.Passes x d) (hde : d.Passes y e) :
    c.Passes (x ++ y) e := by
  constructor
  · rw [hcd.rest_eq, hde.rest_eq, List.append_assoc]
  · rw [hde.offset_eq, hcd.offset_eq, List.length_append, Nat.add_assoc]

/-- Skipping a class passes over the run that stands there. -/
theorem passes_skipWhile (p : Char → Bool) (c : Cursor) :
    c.Passes (c.rest.takeWhile p) (c.skipWhile p) :=
  ⟨List.takeWhile_append_dropWhile.symm, rfl⟩

/-- A move passes over the first character. -/
theorem passes_next {c : Cursor} {x : Char} {t : Text} (h : c.rest = x :: t) :
    c.Passes [x] c.next := by
  rcases c with ⟨offset, rest⟩
  subst h
  exact ⟨rfl, rfl⟩

/-- Reading a text of `L` from one cursor to another leaves a text of `K`. -/
def Leads (L K : Language Char) (c d : Cursor) : Prop :=
  ∃ passed, c.Passes passed d ∧ Leaves L passed K d.rest

/-- No text of `L` goes on behind the second cursor as the text there does, though one could have
gone on differently. -/
def Stuck (L : Language Char) (c d : Cursor) : Prop :=
  ∃ passed, c.Passes passed d ∧ Rejects L passed d.rest

variable {L K M : Language Char} {c d e : Cursor}

/-- What two moves read is read one behind the other. -/
theorem Leads.trans (hcd : c.Leads L K d) (hde : d.Leads K M e) : c.Leads L M e := by
  rcases hcd with ⟨x, hx, hleaves⟩
  rcases hde with ⟨y, hy, hnext⟩
  rw [hy.rest_eq] at hleaves
  exact ⟨x ++ y, hx.trans hy, hleaves.trans hnext⟩

/-- What gets stuck behind a good start gets stuck as a whole. -/
theorem Leads.stuck (hcd : c.Leads L K d) (hde : d.Stuck K e) : c.Stuck L e := by
  rcases hcd with ⟨x, hx, hleaves⟩
  rcases hde with ⟨y, hy, hrejects⟩
  rw [hy.rest_eq] at hleaves
  exact ⟨x ++ y, hx.trans hy, hleaves.rejects hrejects⟩

/-- The lookahead alone narrows the language. -/
theorem leads_here (h : Leaves L [] K c.rest) : c.Leads L K c :=
  ⟨[], passes_refl c, h⟩

/-- Skipping white space leads as far as white space is a part of the language. -/
theorem leads_skipBlanks
    (h : ∀ w, IsBlank w → Stops isWhiteSpace c.skipBlanks.rest → Leaves L w K c.skipBlanks.rest) :
    c.Leads L K c.skipBlanks :=
  ⟨_, passes_skipWhile isWhiteSpace c,
    h _ (fun _ hx => List.mem_takeWhile_imp hx) (stops_dropWhile isWhiteSpace c.rest)⟩

/-- A move leads on if every character of the class does. -/
theorem leads_next {p : Char → Bool} (hc : c.startsWith p = true)
    (h : ∀ x, p x = true → Leaves L [x] K c.next.rest) : c.Leads L K c.next := by
  rcases begins_iff.mp hc with ⟨x, t, hx, hrest⟩
  exact ⟨[x], passes_next hrest, h x hx⟩

/-- A run leads on if every text of the class does. -/
theorem leads_run {p : Char → Bool} (hc : c.startsWith p = true)
    (h : ∀ x, x ≠ [] → (∀ ch ∈ x, p ch = true) → Stops p (c.skipWhile p).rest →
      Leaves L x K (c.skipWhile p).rest) : c.Leads L K (c.skipWhile p) := by
  refine ⟨_, passes_skipWhile p c, h _ ?_ (fun _ hx => List.mem_takeWhile_imp hx)
    (stops_dropWhile p c.rest)⟩
  rcases begins_iff.mp hc with ⟨x, t, hx, hrest⟩
  rw [hrest, List.takeWhile_cons_of_pos hx]
  exact List.cons_ne_nil _ _

end Cursor

/-- A cursor that does not start with a class stands where it stops. -/
theorem stops_of_not_startsWith {p : Char → Bool} {c : Cursor} (h : ¬ c.startsWith p = true) :
    Stops p c.rest := by
  unfold Stops
  simpa [Cursor.startsWith] using h

/-! ## Verdicts -/

/-- What a pass from a cursor tells about the texts of `L`: it is clean and leaves `K`, or its
first diagnostic stands where the text first differs from all of them. -/
inductive Verdict (L K : Language Char) (c : Cursor) (p : Pass) : Prop
  | clean : p.events = [] → c.Leads L K p.cursor → Verdict L K c p
  | fault (d : Cursor) (kind : Violation) :
      p.events.head? = some (.found (d.diagnostic kind)) → c.Stuck L d → Verdict L K c p

variable {L K M : Language Char} {c d : Cursor} {p q : Pass}

/-- A verdict holds from any cursor that leads to where it was reached. -/
theorem Verdict.after (hcd : c.Leads L K d) (hverdict : Verdict K M d p) : Verdict L M c p := by
  cases hverdict with
  | clean hevents hleads => exact .clean hevents (hcd.trans hleads)
  | fault e kind hfirst hstuck => exact .fault e kind hfirst (hcd.stuck hstuck)

/-- The verdicts of two passes make the verdict of both. -/
theorem Verdict.append (hfirst : Verdict L K c p) (hnext : Verdict K M p.cursor q) :
    Verdict L M c (p.append q) := by
  cases hfirst with
  | clean hevents hleads =>
    have happend : p.append q = q := by
      simp [Pass.append, hevents]
    rw [happend]
    exact hnext.after hleads
  | fault d kind hhead hstuck =>
    refine .fault d kind ?_ hstuck
    rw [Pass.append, List.head?_append, hhead]
    rfl

/-- A pass without events is clean. -/
theorem verdict_silent (hcd : c.Leads L K d) : Verdict L K c (.silent d) :=
  .clean rfl hcd

/-- Whatever a routine reports first, it reports at its cursor. -/
theorem head?_events_report (kind : Violation) (c : Cursor) :
    (Routine.report kind c).events.head? = some (.found (c.diagnostic kind)) := by
  unfold Routine.report
  split <;> rfl

/-- A report at a place where nothing goes on is a fault there. -/
theorem verdict_report {kind : Violation} (h : Rejects L [] c.rest) :
    Verdict L K c (Routine.report kind c) :=
  .fault c kind (head?_events_report kind c) ⟨[], Cursor.passes_refl c, h⟩

/-! ## Routines -/

namespace Routine

/-- From every cursor, the routine reads what of a text of `L` stands before a text of `K`. -/
def Reads (r : Routine) (L K : Language Char) : Prop :=
  ∀ c, Verdict L K c (r c)

/-- An empty row of routines leaves every language as it is. -/
theorem reads_nil : Reads (inOrder []) L L :=
  fun _ => verdict_silent (Cursor.leads_here ⟨fun _ ht => ht, fun _ _ ht => ht⟩)

/-- A row of routines reads what its first routine does, and then what the others do. -/
theorem reads_cons {r : Routine} {rs : List Routine} (hr : Reads r L K)
    (hrs : Reads (inOrder rs) K M) : Reads (inOrder (r :: rs)) L M :=
  fun c => (hr c).append (hrs (r c).cursor)

/-- White space is read in front of a language that does not begin with it. -/
theorem reads_blanks (hK : Avoids K isWhiteSpace) : Reads blanks (blank * K) K :=
  fun _ => verdict_silent (Cursor.leads_skipBlanks fun _ hw hspace => leaves_blank hspace hK hw)

/-- A delimiter is read, or nothing goes on where it is missing. -/
theorem reads_expect (delimiter : Delimiter) (hK : ∃ t, t ∈ K) :
    Reads (expect delimiter) (symbol delimiter.char * K) K := by
  intro c
  unfold expect
  split <;> rename_i h
  · apply verdict_silent
    apply Cursor.leads_next h
    intro x hx
    rw [of_decide_eq_true hx]
    exact leaves_symbol
  · apply verdict_report
    exact rejects_of_begins (exists_mem_mul (exists_mem_symbol _) hK)
      (fun _ ht => begins_symbol_mul ht) (stops_of_not_startsWith h)

/-! ### Numbers -/

/-- A run of digits leads to what may follow digits. -/
theorem leads_digits (hK : Avoids K Char.isDigit) (hc : c.startsWith Char.isDigit = true) :
    c.Leads (Grammar.digits * K) K (c.skipWhile Char.isDigit) :=
  Cursor.leads_run hc fun _ hne hx hstops => leaves_digits hK ⟨hne, hx⟩ hstops

/-- Where no digit stands, no text of digits goes on. -/
theorem rejects_digits (hK : ∃ t, t ∈ K) (hc : ¬ c.startsWith Char.isDigit = true) :
    Rejects (Grammar.digits * K) [] c.rest :=
  rejects_of_begins (exists_mem_mul exists_mem_digits hK) (fun _ ht => begins_digits_mul ht)
    (stops_of_not_startsWith hc)

/-- A fraction is read, or the lack of one in front of what is no part of a number. -/
theorem reads_fraction (hK : ∃ t, t ∈ K) (hpoint : Avoids K (· = '.'))
    (hdigit : Avoids K Char.isDigit) : Reads fraction (Grammar.fraction * K) K := by
  intro c
  simp only [fraction]
  split <;> rename_i h
  · have hpassed : c.Leads (Grammar.fraction * K) (Grammar.digits * K) c.next := by
      apply Cursor.leads_next h
      intro x hx
      rw [of_decide_eq_true hx]
      exact leaves_point hpoint
    apply Verdict.after hpassed
    split <;> rename_i hdigits
    · exact verdict_silent (leads_digits hdigit hdigits)
    · exact verdict_report (rejects_digits hK hdigits)
  · exact verdict_silent (Cursor.leads_here (leaves_no_point (stops_of_not_startsWith h)))

/-- A number without its sign is read in front of what does not carry it on. -/
theorem reads_digits (hK : ∃ t, t ∈ K) (hpoint : Avoids K (· = '.'))
    (hdigit : Avoids K Char.isDigit) : Reads digits (unsigned * K) K := by
  intro c
  rw [unsigned, mul_assoc]
  unfold digits
  split <;> rename_i h
  · have hfraction : Avoids (Grammar.fraction * K) Char.isDigit := by
      rw [Grammar.fraction, add_mul, one_mul, mul_assoc]
      exact avoids_add hdigit (avoids_symbol_mul rfl)
    exact (reads_fraction hK hpoint hdigit _).after (leads_digits hfraction h)
  · exact verdict_report (rejects_digits (exists_mem_mul exists_mem_fraction hK) h)

/-- So is a number with its sign, if it has one. -/
theorem reads_number (hK : ∃ t, t ∈ K) (hpoint : Avoids K (· = '.'))
    (hdigit : Avoids K Char.isDigit) : Reads number (sign * (unsigned * K)) K := by
  intro c
  unfold number
  split <;> rename_i h
  · apply (reads_digits hK hpoint hdigit _).after
    exact Cursor.leads_next h fun x hx => leaves_sign hx
  · apply (reads_digits hK hpoint hdigit _).after
    exact Cursor.leads_here (leaves_no_sign (stops_of_not_startsWith h))

/-! ### Strings and elements -/

/-- A string is read from quote to quote. -/
theorem reads_string (hK : ∃ t, t ∈ K) : Reads string (Grammar.string * K) K := by
  intro c
  simp only [string]
  split <;> rename_i h
  · rcases begins_iff.mp h with ⟨x, t, hx, hrest⟩
    rw [of_decide_eq_true hx] at hrest
    have hquote := Cursor.passes_next hrest
    have hbody := hquote.trans (Cursor.passes_skipWhile (· ≠ '"') c.next)
    have hbare : '"' ∉ c.next.rest.takeWhile (· ≠ '"') := by
      intro hmem
      simpa using List.mem_takeWhile_imp hmem
    split <;> rename_i hclosed
    · rcases begins_iff.mp hclosed with ⟨y, u, hy, hleft⟩
      rw [of_decide_eq_true hy] at hleft
      exact verdict_silent ⟨_, hbody.trans (Cursor.passes_next hleft), leaves_string hbare⟩
    · -- The search for the closing quote ended, but not at a quote: nothing is left.
      have hnil : (c.next.skipWhile (· ≠ '"')).rest = [] :=
        eq_nil_of_stops (stops_dropWhile _ _) (stops_of_not_startsWith hclosed)
          fun ch => by by_cases hch : ch = '"' <;> simp [hch]
      refine .fault _ .unterminatedString (head?_events_report _ _) ⟨_, hbody, ?_⟩
      rw [hnil]
      exact rejects_open_string hK hbare
  · exact verdict_report (rejects_of_begins (exists_mem_mul exists_mem_string hK)
      (fun _ ht => begins_string_mul ht) (stops_of_not_startsWith h))

/-- An element of either kind is read, with the white space in front of it. -/
theorem reads_element (hK : ∃ t, t ∈ K) (hpoint : Avoids K (· = '.'))
    (hdigit : Avoids K Char.isDigit) : Reads element (blank * (Grammar.element * K)) K := by
  intro c
  simp only [element]
  have hblanks : c.Leads (blank * (Grammar.element * K)) (Grammar.element * K) c.skipBlanks :=
    Cursor.leads_skipBlanks fun _ hw hspace => leaves_blank hspace avoids_element_mul hw
  apply Verdict.after hblanks
  split <;> rename_i hquote
  · exact (reads_string hK _).after (Cursor.leads_here (leaves_quote hquote))
  · have hnumber := Cursor.leads_here
      (leaves_no_quote (K := K) (stops_of_not_startsWith hquote))
    apply Verdict.after hnumber
    split <;> rename_i h
    · exact reads_number hK hpoint hdigit _
    · apply verdict_report
      apply rejects_of_begins _ (fun _ ht => begins_number_mul ht) (stops_of_not_startsWith h)
      rw [← mul_assoc]
      exact exists_mem_mul exists_mem_number hK

/-! ### Lists of elements -/

/-- What an element stands before is left behind it. -/
theorem reads_listed_element :
    Reads element (blank * (Grammar.element * afterElement closing)) (afterElement closing) :=
  reads_element exists_mem_afterElement
    (avoids_afterElement (fun _ hc => eq_false_of_isWhiteSpace rfl hc) rfl rfl)
    (avoids_afterElement (fun _ hc => isDigit_of_isWhiteSpace hc) rfl rfl)

/-- The list is closed, or an element is read and what may follow it is left. -/
theorem verdict_inside {q : Pass} (hclose : c.skipBlanks.startsWith (· = ']') = false)
    (hq : Verdict (afterElement closing) M (element c.skipBlanks).cursor q) :
    Verdict (blank * inside closing) M c ((element c.skipBlanks).append q) := by
  have hfirst : c.Leads (blank * inside closing)
      (blank * (Grammar.element * afterElement closing)) c.skipBlanks :=
    Cursor.leads_skipBlanks fun _ hw hspace => leaves_element hspace hclose hw
  exact (Verdict.after hfirst (reads_listed_element _)).append hq

/-- Where no element begins, the list is at its end. -/
theorem verdict_closed (hclose : Stops startsElement c.skipBlanks.rest) :
    Verdict (blank * inside closing) (blank * closing) c (.silent c.skipBlanks) :=
  verdict_silent (Cursor.leads_skipBlanks fun _ hw hspace => leaves_no_element hspace hclose hw)

/-- A closing bracket closes the list. -/
theorem stops_of_closed (hclose : c.startsWith (· = ']') = true) : Stops startsElement c.rest := by
  have hbegins : Begins (· = ']') c.rest := hclose
  apply hbegins.stops
  intro ch hch
  rw [of_decide_eq_true hch]
  rfl

/-- Behind the white space before a comma the list goes on as behind its opening bracket. -/
theorem leads_comma (hcomma : c.skipBlanks.startsWith (· = ',') = true) :
    c.Leads (afterElement closing) (blank * inside closing) c.skipBlanks.next := by
  rcases begins_iff.mp hcomma with ⟨ch, t, hch, hrest⟩
  rw [of_decide_eq_true hch] at hrest
  refine ⟨_, (Cursor.passes_skipWhile isWhiteSpace c).trans (Cursor.passes_next hrest), ?_⟩
  exact leaves_comma fun _ hx => List.mem_takeWhile_imp hx

/-- Each round of the loop reads a comma and an element, and the last one what closes the list. -/
theorem verdict_moreElements (c : Cursor) :
    Verdict (afterElement closing) (blank * closing) c (moreElements c) := by
  fun_induction moreElements c with
  | case1 c separator hcomma following hclose =>
    exact (verdict_closed (stops_of_closed hclose)).after (leads_comma hcomma)
  | case2 c separator hcomma following hopen p ih =>
    exact (verdict_inside (Bool.eq_false_iff.mpr hopen) ih).after (leads_comma hcomma)
  | case3 c separator hcomma =>
    exact verdict_silent (Cursor.leads_skipBlanks fun _ hw hspace =>
      leaves_no_comma hspace (stops_of_not_startsWith hcomma) hw)

/-- All elements are read, up to the white space in front of the closing bracket. -/
theorem reads_elements : Reads elements (blank * inside closing) (blank * closing) := by
  intro c
  simp only [elements]
  split <;> rename_i h
  · apply verdict_closed
    rw [Bool.or_eq_true] at h
    rcases h with h | h
    · rw [List.isEmpty_iff.mp h]
      exact stops_nil _
    · exact stops_of_closed h
  · rw [Bool.or_eq_true, not_or] at h
    exact verdict_inside (Bool.eq_false_iff.mpr h.2) (verdict_moreElements _)

/-! ### Names -/

/-- The letters of a name carry it on. -/
theorem alphanum_of_mem_letters {t : Text} : ∀ ch ∈ t.takeWhile Char.isAlpha,
    ch.isAlphanum = true :=
  fun _ hch => isAlphanum_of_isAlpha (List.mem_takeWhile_imp hch)

/-- There are no digits among them. -/
theorem filter_digits_letters (t : Text) (k : Nat) :
    ((t.takeWhile Char.isAlpha).zipIdx k).filter (fun (ch, _) => ch.isDigit) = [] := by
  rw [List.filter_eq_nil_iff]
  rintro ⟨ch, position⟩ hmem
  have hletter := List.mem_takeWhile_imp (List.fst_mem_of_mem_zipIdx hmem)
  simp [isDigit_of_isAlpha hletter]

/-- A name whose letters are not followed by a digit is passed over in silence. -/
theorem nameTail_of_letters (hleft : Stops Char.isDigit (c.skipWhile Char.isAlpha).rest) :
    nameTail c = .silent (c.skipWhile Char.isAlpha) := by
  have hstops : Stops Char.isAlphanum (c.rest.dropWhile Char.isAlpha) :=
    stops_alphanum (stops_dropWhile _ _) hleft
  have htake : c.rest.takeWhile Char.isAlphanum = c.rest.takeWhile Char.isAlpha := by
    conv_lhs => rw [← List.takeWhile_append_dropWhile (p := Char.isAlpha) (l := c.rest)]
    exact takeWhile_append_of_stops alphanum_of_mem_letters hstops
  have hdrop : c.rest.dropWhile Char.isAlphanum = c.rest.dropWhile Char.isAlpha := by
    conv_lhs => rw [← List.takeWhile_append_dropWhile (p := Char.isAlpha) (l := c.rest)]
    exact dropWhile_append_of_stops alphanum_of_mem_letters hstops
  simp only [nameTail, Cursor.skipWhile, htake, hdrop, filter_digits_letters]
  rfl

/-- The first digit of a name is reported where it stands. -/
theorem head?_events_nameTail
    (hleft : (c.skipWhile Char.isAlpha).startsWith Char.isDigit = true) :
    (nameTail c).events.head? =
      some (.found ((c.skipWhile Char.isAlpha).diagnostic .digitInIdentifier)) := by
  rcases begins_iff.mp hleft with ⟨ch, t, hch, hrest⟩
  have hdrop : c.rest.dropWhile Char.isAlpha = ch :: t := hrest
  have htake : c.rest.takeWhile Char.isAlphanum =
      c.rest.takeWhile Char.isAlpha ++ ch :: t.takeWhile Char.isAlphanum := by
    conv_lhs => rw [← List.takeWhile_append_dropWhile (p := Char.isAlpha) (l := c.rest), hdrop]
    rw [List.takeWhile_append_of_pos alphanum_of_mem_letters,
      List.takeWhile_cons_of_pos (isAlphanum_of_isDigit hch)]
  simp only [nameTail, htake, List.zipIdx_append, List.filter_append, filter_digits_letters,
    List.zipIdx_cons, List.filter_cons, hch]
  simp [Cursor.diagnostic, Cursor.symbol, Cursor.skipWhile, hdrop, Symbol.atHead]

/-- Behind its first letter a name is clean, or its first digit is reported. -/
theorem verdict_nameTail {x : Char} {t : Text} (hK : ∃ t, t ∈ K)
    (havoid : Avoids K Char.isAlphanum) (hc : c.rest = x :: t) (hx : x.isAlpha = true) :
    Verdict (Grammar.name * K) K c (nameTail c.next) := by
  have hpasses := (Cursor.passes_next hc).trans (Cursor.passes_skipWhile Char.isAlpha c.next)
  have hletters : IsName ([x] ++ c.next.rest.takeWhile Char.isAlpha) := by
    refine ⟨List.cons_ne_nil _ _, ?_⟩
    intro ch hch
    rcases List.mem_cons.mp hch with rfl | hch
    · exact hx
    · exact List.mem_takeWhile_imp hch
  have hletter : Avoids K Char.isAlpha := fun u hu =>
    (havoid u hu).mono fun _ h => isAlphanum_of_isAlpha h
  have hdigit : Avoids K Char.isDigit := fun u hu =>
    (havoid u hu).mono fun _ h => isAlphanum_of_isDigit h
  have hstops := stops_dropWhile Char.isAlpha c.next.rest
  by_cases hleft : (c.next.skipWhile Char.isAlpha).startsWith Char.isDigit = true
  · exact .fault _ .digitInIdentifier (head?_events_nameTail hleft)
      ⟨_, hpasses, rejects_name_digit hK hletter hdigit hletters hstops hleft⟩
  · rw [nameTail_of_letters (stops_of_not_startsWith hleft)]
    exact verdict_silent ⟨_, hpasses, leaves_name hletter hletters hstops⟩

/-- A name is read in front of what does not carry it on. -/
theorem reads_name (hK : ∃ t, t ∈ K) (havoid : Avoids K Char.isAlphanum) :
    Reads name (Grammar.name * K) K := by
  intro c
  unfold name
  split <;> rename_i h
  · rcases begins_iff.mp h with ⟨x, t, hx, hrest⟩
    exact verdict_nameTail hK havoid hrest hx
  · exact verdict_report (rejects_of_begins (exists_mem_mul exists_mem_name hK)
      (fun _ ht => begins_name_mul ht) (stops_of_not_startsWith h))

/-! ### The whole declaration -/

/-- Nothing may be left behind a declaration. -/
theorem reads_ending : Reads ending 1 1 := by
  intro c
  unfold ending
  split <;> rename_i h
  · exact verdict_silent (Cursor.leads_here ⟨fun _ ht => ht, fun _ _ ht => ht⟩)
  · rw [List.isEmpty_iff] at h
    refine .fault c .trailingContent (head?_events_report _ c) ⟨[], Cursor.passes_refl c, ?_⟩
    refine ⟨⟨[], rfl⟩, ?_⟩
    intro t hhead ht
    rw [List.nil_append, Language.mem_one] at ht
    subst ht
    exact h (List.head?_eq_none_iff.mp hhead.symm)

/-- Behind the closing bracket the semicolon is read, and nothing but white space may follow. -/
theorem reads_end : Reads (inOrder [blanks, expect .semicolon, blanks, ending])
    Grammar.ending 1 := by
  have hblank : Avoids (1 : Language Char) isWhiteSpace := by
    rintro t rfl
    exact stops_nil _
  have hend : ∃ t, t ∈ blank * (1 : Language Char) := exists_mem_mul exists_mem_blank ⟨[], rfl⟩
  rw [Grammar.ending, ← mul_one (symbol ';' * blank), mul_assoc]
  apply reads_cons (reads_blanks (avoids_symbol_mul rfl))
  apply reads_cons (reads_expect .semicolon hend)
  exact reads_cons (reads_blanks hblank) (reads_cons reads_ending reads_nil)

/-- The whole check decides the language of declarations. -/
theorem reads_declaration : Reads declaration Grammar.declaration 1 := by
  have hname : Avoids (blank * assignment) Char.isAlphanum :=
    avoids_blank_mul (avoids_symbol_mul rfl) fun _ hc => isAlphanum_of_isWhiteSpace hc
  apply reads_cons (reads_blanks avoids_name_mul)
  apply reads_cons (reads_name exists_mem_assignment hname)
  apply reads_cons (reads_blanks (avoids_symbol_mul rfl))
  apply reads_cons (reads_expect .assign exists_mem_opening)
  apply reads_cons (reads_blanks (avoids_symbol_mul rfl))
  apply reads_cons (reads_expect .openBracket exists_mem_inside)
  apply reads_cons reads_elements
  apply reads_cons (reads_blanks (avoids_symbol_mul rfl))
  exact reads_cons (reads_expect .closeBracket exists_mem_ending) reads_end

end Routine

end TypedList
