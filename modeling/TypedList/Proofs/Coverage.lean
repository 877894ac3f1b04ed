import TypedList.Proofs.Order
import TypedList.Proofs.Languages

/-!
# Routines on known text

What a routine does with a text that is known up to a point: which part of it the routine passes
over, and what it finds there.  A text is put together from such parts as the routines are put
together from each other.

Main results:

- Theorems `Covers.andThen` and `Covers.branch_pos`, `Covers.branch_neg`: the rules for sequences
  and choices.
- Theorem `covers_element`: an element that what follows does not carry on is passed over in
  silence.
- Theorem `covers_moreElements_comma`: behind a comma the list goes on with an element.
- Theorem `covers_append`: the parts of a declaration are passed over one behind another.
-/

namespace TypedList

/-- A violation and the position where it shows. -/
abbrev Finding := Violation × Nat

/-- What a diagnostic says apart from the text. -/
def Diagnostic.finding (d : Diagnostic) : Finding :=
  (d.kind, d.position)

/-- What a pass finds, in order. -/
def Pass.findings (p : Pass) : List Finding :=
  p.diagnostics.map Diagnostic.finding

@[simp]
theorem Pass.findings_append (p q : Pass) : (p.append q).findings = p.findings ++ q.findings := by
  simp only [findings, diagnostics_append, List.map_append]

/-- What is found in a text is determined by the findings. -/
theorem diagnose_eq_map_inText {t : Text} {found : List Finding}
    (h : (Routine.declaration (.start t)).findings = found) :
    diagnose t = found.map fun (kind, position) => .inText t kind position := by
  have hself : (diagnose t).map (fun d => Diagnostic.inText t d.kind d.position) = diagnose t := by
    conv_rhs => rw [← List.map_id (diagnose t)]
    exact List.map_congr_left fun d hd => (eq_inText_of_mem_diagnose hd).symm
  rw [← h, Pass.findings, List.map_map]
  exact hself.symm

namespace Routine

/-! ## Passing over known text -/

/-- From a position where `passed` stands in front of `left` the routine passes over the first,
up to the second, and finds what is given. -/
structure Covers (r : Routine) (start : Nat) (passed left : Text) (found : List Finding) :
    Prop where
  cursor : (r ⟨start, passed ++ left⟩).cursor = ⟨start + passed.length, left⟩
  findings : (r ⟨start, passed ++ left⟩).findings = found

variable {r s : Routine} {rs ss : List Routine} {p : Char → Bool} {n : Nat} {w x y z : Text}
  {f g : List Finding} {c : Char}

/-- Staying passes over nothing. -/
theorem covers_stay : Covers .silent n [] y [] :=
  ⟨rfl, rfl⟩

/-- One move passes over one character. -/
theorem covers_next : Covers next n [c] y [] :=
  ⟨rfl, rfl⟩

/-- A run of characters is passed over up to one that ends it. -/
theorem covers_skipWhile (hx : ∀ c ∈ x, p c = true) (hy : Stops p y) :
    Covers (skipWhile p) n x y [] := by
  refine ⟨?_, rfl⟩
  simp only [skipWhile, Pass.cursor_silent, Cursor.skipWhile, takeWhile_append_of_stops hx hy,
    dropWhile_append_of_stops hx hy]

/-- Where the text begins with a character of the class, the first of two routines runs. -/
theorem Covers.branch_pos (hp : Begins p (x ++ y)) (h : Covers r n x y f) :
    Covers (branch p r s) n x y f := by
  have hchoice : branch p r s ⟨n, x ++ y⟩ = r ⟨n, x ++ y⟩ := if_pos hp
  exact ⟨by rw [hchoice, h.cursor], by rw [hchoice, h.findings]⟩

/-- Where it does not, the second one runs. -/
theorem Covers.branch_neg (hp : Stops p (x ++ y)) (h : Covers s n x y f) :
    Covers (branch p r s) n x y f := by
  have hchoice : branch p r s ⟨n, x ++ y⟩ = s ⟨n, x ++ y⟩ := by
    have hstops : (⟨n, x ++ y⟩ : Cursor).startsWith p = false := hp
    simp only [branch, hstops, Bool.false_eq_true, if_false]
  exact ⟨by rw [hchoice, h.cursor], by rw [hchoice, h.findings]⟩

/-- What two routines pass over and find comes one behind the other. -/
theorem Covers.andThen (hr : Covers r n x (y ++ z) f) (hs : Covers s (n + x.length) y z g) :
    Covers (andThen r s) n (x ++ y) z (f ++ g) := by
  have hrun : Routine.andThen r s ⟨n, x ++ y ++ z⟩ =
      (r ⟨n, x ++ (y ++ z)⟩).append (s ⟨n + x.length, y ++ z⟩) := by
    rw [← hr.cursor, List.append_assoc]
    rfl
  constructor
  · rw [hrun, Pass.cursor_append, hs.cursor, List.length_append, Nat.add_assoc]
  · rw [hrun, Pass.findings_append, hr.findings, hs.findings]

/-- An empty row of routines passes over nothing. -/
theorem covers_nil : Covers (inOrder []) n [] y [] :=
  covers_stay

/-- A row of routines passes over what its first routine does, and then what the others do. -/
theorem covers_cons (hr : Covers r n x (y ++ z) f)
    (hrs : Covers (inOrder rs) (n + x.length) y z g) :
    Covers (inOrder (r :: rs)) n (x ++ y) z (f ++ g) :=
  hr.andThen hrs

/-! ### Reports -/

/-- Behind a violation that loses the way, the check goes on at the next synchronization
character. -/
theorem covers_report {kind : Violation} {point : GrammarPoint}
    (hkind : kind.grammarPoint? = some point) (hx : ∀ c ∈ x, c ∉ point.syncChars)
    (hy : Stops (· ∉ point.syncChars) y) : Covers (report kind) n x y [(kind, n)] := by
  have hresumed := (covers_skipWhile (n := n) (p := (· ∉ point.syncChars))
    (fun c hc => decide_eq_true (hx c hc)) hy).cursor
  constructor
  · simp only [report, hkind]
    exact hresumed
  · simp only [report, hkind]
    rfl

/-! ### White space and symbols -/

/-- White space is passed over as a whole. -/
theorem covers_blanks (hw : IsBlank w) (hy : Stops isWhiteSpace y) : Covers blanks n w y [] :=
  covers_skipWhile hw hy

/-- Where no white space stands, none is passed over. -/
theorem covers_no_blanks (hy : Stops isWhiteSpace y) : Covers blanks n [] y [] :=
  covers_skipWhile (fun _ hc => absurd hc List.not_mem_nil) hy

/-- A delimiter where it is expected is passed over in silence. -/
theorem covers_expect (delimiter : Delimiter) : Covers (expect delimiter) n [delimiter.char] y [] :=
  .branch_pos (decide_eq_true rfl) covers_next

/-- A missing delimiter is reported once, and the check goes on at the next synchronization
character. -/
theorem covers_missing {delimiter : Delimiter} (hmissing : Stops (· = delimiter.char) (x ++ y))
    (hx : ∀ c ∈ x, c ∉ delimiter.grammarPoint.syncChars)
    (hy : Stops (· ∉ delimiter.grammarPoint.syncChars) y) :
    Covers (expect delimiter) n x y [(.missingSymbol delimiter, n)] :=
  .branch_neg hmissing (covers_report rfl hx hy)

/-! ### Names -/

/-- The digits of a name, each where it stands. -/
def nameFindings : Nat → Text → List Finding
  | _, [] => []
  | start, c :: name =>
    if c.isDigit then (.digitInIdentifier, start) :: nameFindings (start + 1) name
    else nameFindings (start + 1) name

/-- Nothing is found in letters. -/
theorem nameFindings_of_letters (hx : ∀ c ∈ x, c.isAlpha = true) : nameFindings n x = [] := by
  induction x generalizing n with
  | nil => rfl
  | cons c x ih =>
    have hdigit : c.isDigit = false := isDigit_of_isAlpha (hx c List.mem_cons_self)
    simp only [nameFindings, hdigit, Bool.false_eq_true, if_false]
    exact ih fun d hd => hx d (List.mem_cons_of_mem c hd)

/-- Letters and digits are passed over, and every digit is found where it stands. -/
theorem covers_nameTail (hx : ∀ c ∈ x, c.isAlphanum = true) (hy : Stops Char.isAlphanum y) :
    Covers nameTail n x y (nameFindings n x) := by
  induction x generalizing n with
  | nil =>
    have hsilent : nameTail ⟨n, [] ++ y⟩ = .silent ⟨n, y⟩ := by
      have htake := takeWhile_append_of_stops (x := []) hx hy
      have hdrop := dropWhile_append_of_stops (x := []) hx hy
      simp only [nameTail, Cursor.skipWhile, htake, hdrop]
      rfl
    exact ⟨by rw [hsilent]; rfl, by rw [hsilent]; rfl⟩
  | cons c x ih =>
    have hrest := ih (n := n + 1) fun d hd => hx d (List.mem_cons_of_mem c hd)
    have hcons := nameTail_cons n (x ++ y) (hx c List.mem_cons_self)
    constructor
    · rw [List.cons_append, hcons, hrest.cursor, List.length_cons, Nat.add_assoc,
        Nat.add_comm 1]
    · have hfindings := hrest.findings
      rw [List.cons_append, hcons, nameFindings, ← hfindings]
      cases c.isDigit <;> rfl

/-- A name of letters and digits that begins with a letter. -/
def IsLooseName (t : Text) : Prop :=
  Begins Char.isAlpha t ∧ ∀ c ∈ t, c.isAlphanum = true

/-- A name without digits is a name. -/
theorem isLooseName_of_isName (hx : IsName x) : IsLooseName x := by
  have hbegins : Begins Char.isAlpha (x ++ []) := Grammar.begins_append hx.1 hx.2
  rw [List.append_nil] at hbegins
  exact ⟨hbegins, fun c hc => isAlphanum_of_isAlpha (hx.2 c hc)⟩

/-- A name is passed over to its end, and its digits are found. -/
theorem covers_looseName (hx : IsLooseName x) (hy : Stops Char.isAlphanum y) :
    Covers name n x y (nameFindings n x) := by
  obtain ⟨hbegins, halphanum⟩ := hx
  obtain ⟨c, x, hc, rfl⟩ := begins_iff.mp hbegins
  have htail : Covers nameTail (n + [c].length) x y (nameFindings (n + 1) x) :=
    covers_nameTail (fun d hd => halphanum d (List.mem_cons_of_mem c hd)) hy
  have hfindings : nameFindings n (c :: x) = nameFindings (n + 1) x := by
    simp only [nameFindings, isDigit_of_isAlpha hc, Bool.false_eq_true, if_false]
  rw [hfindings, name_eq]
  exact .branch_pos hc (covers_next.andThen htail)

/-- Where no letter stands, the check goes on at the next `=`. -/
theorem covers_no_name (hletter : Stops Char.isAlpha (x ++ y)) (hx : '=' ∉ x)
    (hy : Stops (· ∉ ['=']) y) : Covers name n x y [(.invalidIdentifierStart, n)] := by
  refine .branch_neg hletter (covers_report rfl ?_ hy)
  intro c hc hsync
  rw [GrammarPoint.syncChars, List.mem_singleton] at hsync
  exact hx (hsync ▸ hc)

/-! ## Where an element ends -/

/-- No text of the given kind begins with `x` and goes on as `left` does. -/
def EndsBefore (K : Text → Prop) (x left : Text) : Prop :=
  ∀ c ∈ left.head?, ∀ rest, ¬ K (x ++ c :: rest)

/-- What could carry the text on does not follow it. -/
theorem EndsBefore.stops {K : Text → Prop} (h : EndsBefore K x y)
    (hp : ∀ c, p c = true → ∃ rest, K (x ++ c :: rest)) : Stops p y := by
  cases y with
  | nil => exact stops_nil p
  | cons c y =>
    rw [stops_cons, Bool.eq_false_iff]
    intro hc
    obtain ⟨rest, hK⟩ := hp c hc
    exact h c rfl rest hK

/-- The characters of numbers that are not signs. -/
def isNumeral (c : Char) : Bool :=
  c.isDigit || c = '.'

/-- A number has nothing but numerals behind its sign. -/
theorem isNumeral_of_isUnsigned (hx : IsUnsigned x) : ∀ c ∈ x, isNumeral c = true := by
  have hdigits {t : Text} (ht : IsDigits t) : ∀ c ∈ t, isNumeral c = true := by
    intro c hc
    simp only [isNumeral, ht.2 c hc, Bool.true_or]
  cases hx with
  | integer hwhole => exact hdigits hwhole
  | float hwhole hfraction =>
    intro c hc
    rcases List.mem_append.mp hc with hc | hc
    · exact hdigits hwhole c hc
    · rcases List.mem_cons.mp hc with rfl | hc
      · rfl
      · exact hdigits hfraction c hc

/-- An element that begins with a quote ends at the next one. -/
theorem eq_nil_of_isElement_string (hx : '"' ∉ x) (h : IsElement ('"' :: (x ++ '"' :: y))) :
    y = [] := by
  generalize hz : '"' :: (x ++ '"' :: y) = z at h
  cases h with
  | @string body hbody =>
    have hbodies : x ++ '"' :: y = body ++ ['"'] := (List.cons.inj hz).2
    have hcut := append_inj_of_stops (p := (· ≠ '"')) (by grind) (by simp) (by grind) (by simp)
      hbodies
    exact (List.cons.inj hcut.2).2
  | unsigned hnumber =>
    have hquote := isNumeral_of_isUnsigned hnumber '"' (by simp [← hz])
    contradiction
  | signed hsign hnumber =>
    have hquote := (List.cons.inj hz).1
    rcases hsign with rfl | rfl <;> contradiction

/-- Behind the first character a number has only numerals. -/
theorem isNumeral_of_isElement (h : IsElement (c :: x)) (hc : c ≠ '"') :
    ∀ d ∈ x, isNumeral d = true := by
  intro d hd
  generalize hz : c :: x = z at h
  cases h with
  | string hbody => exact absurd (List.cons.inj hz).1 hc
  | unsigned hnumber =>
    rw [← hz] at hnumber
    exact isNumeral_of_isUnsigned hnumber d (List.mem_cons_of_mem c hd)
  | signed hsign hnumber =>
    rw [← (List.cons.inj hz).2] at hnumber
    exact isNumeral_of_isUnsigned hnumber d hd

/-- An element ends before every character that numbers do not have. -/
theorem endsBefore_of_stops (hx : IsElement x) (hy : Stops isNumeral y) :
    EndsBefore IsElement x y := by
  intro c hc rest hlonger
  obtain ⟨y, rfl⟩ := List.head?_eq_some_iff.mp hc
  rw [stops_cons] at hy
  obtain ⟨a, x, rfl⟩ := List.exists_cons_of_ne_nil hx.ne_nil
  by_cases ha : a = '"'
  · subst ha
    generalize hz : '"' :: x = z at hx
    cases hx with
    | @string body hbody =>
      have hx : x = body ++ ['"'] := (List.cons.inj hz).2
      rw [List.cons_append, hx, List.append_assoc] at hlonger
      exact List.cons_ne_nil _ _ (eq_nil_of_isElement_string hbody hlonger)
    | unsigned hnumber =>
      have hquote := isNumeral_of_isUnsigned hnumber '"' (by simp [← hz])
      contradiction
    | signed hsign hnumber =>
      have hquote := (List.cons.inj hz).1
      rcases hsign with rfl | rfl <;> contradiction
  · have hnumeral := isNumeral_of_isElement (x := x ++ c :: rest) hlonger ha c (by simp)
    rw [hy] at hnumeral
    contradiction

/-- White space carries no number on. -/
theorem isNumeral_of_isWhiteSpace (hc : isWhiteSpace c = true) : isNumeral c = false := by
  have hpoint : c ≠ '.' := by
    rintro rfl
    contradiction
  simp [isNumeral, isDigit_of_isWhiteSpace hc, hpoint]

/-- An element begins with a quote, a sign or a digit, whatever follows it. -/
theorem begins_isElement (hx : IsElement x) : Begins Grammar.startsElement (x ++ y) :=
  Grammar.begins_element_mul (K := {t | t = y})
    (Language.append_mem_mul (Grammar.mem_element.mpr hx) rfl)

/-! ## Elements -/

/-- A string is passed over from one quote to the next. -/
theorem covers_string (hx : '"' ∉ x) : Covers string n ('"' :: (x ++ ['"'])) y [] := by
  have hclosing {m : Nat} :
      Covers (branch (· = '"') next (report .unterminatedString)) m ['"'] y [] :=
    .branch_pos rfl covers_next
  have hbody {m : Nat} : Covers (skipWhile (· ≠ '"')) m x (['"'] ++ y) [] :=
    covers_skipWhile (by grind) (by simp)
  rw [string_eq]
  exact .branch_pos rfl (covers_next.andThen (y := x ++ ['"']) (hbody.andThen hclosing))

/-- Without a point there is no fraction. -/
theorem covers_no_fraction (hy : Stops (· = '.') y) : Covers fraction n [] y [] :=
  .branch_neg hy covers_stay

/-- A point and the digits behind it are passed over. -/
theorem covers_fraction (hx : IsDigits x) (hy : Stops Char.isDigit y) :
    Covers fraction n ('.' :: x) y [] := by
  have hdigits {m : Nat} : Covers (branch Char.isDigit (Routine.skipWhile Char.isDigit)
      (report .missingDigitAfterDot)) m x y [] :=
    .branch_pos (Grammar.begins_append hx.1 hx.2) (covers_skipWhile hx.2 hy)
  rw [fraction_eq]
  exact .branch_pos rfl (covers_next.andThen hdigits)

/-- Digits are passed over, and then what the check of a fraction passes over. -/
theorem covers_digits (hx : IsDigits x) (hy : Stops Char.isDigit (y ++ z))
    (hfraction : Covers fraction (n + x.length) y z f) : Covers digits n (x ++ y) z f := by
  have hbegins : Begins Char.isDigit (x ++ y ++ z) := by
    rw [List.append_assoc]
    exact Grammar.begins_append hx.1 hx.2
  rw [digits_eq]
  exact .branch_pos hbegins ((covers_skipWhile hx.2 hy).andThen hfraction)

/-- A sign is passed over in front of the digits. -/
theorem covers_signed (hc : isSign c = true) (hdigits : Covers digits (n + 1) x y f) :
    Covers number n (c :: x) y f :=
  .branch_pos hc (covers_next.andThen hdigits)

/-- Without a sign a number is its digits. -/
theorem covers_unsigned (hx : Stops isSign (x ++ y)) (hdigits : Covers digits n x y f) :
    Covers number n x y f :=
  .branch_neg hx hdigits

/-- A digit is no sign. -/
theorem isSign_of_isDigit (hc : c.isDigit = true) : isSign c = false := by
  rw [Bool.eq_false_iff]
  intro hsign
  simp only [isSign, Bool.or_eq_true, decide_eq_true_eq] at hsign
  rcases hsign with rfl | rfl <;> contradiction

/-- A number without a sign begins with a digit, whatever follows it. -/
theorem begins_isUnsigned (hx : IsUnsigned x) : Begins Char.isDigit (x ++ y) := by
  cases hx with
  | integer hwhole => exact Grammar.begins_append hwhole.1 hwhole.2
  | float hwhole _ =>
    rw [List.append_assoc]
    exact Grammar.begins_append hwhole.1 hwhole.2

/-- A number without a sign that is not carried on is passed over in silence. -/
theorem covers_isUnsigned (hx : IsUnsigned x) (hy : EndsBefore IsUnsigned x y) :
    Covers digits n x y [] := by
  have hlonger {t : Text} (ht : IsDigits t) : ∀ c, c.isDigit = true → IsDigits (t ++ [c]) := by
    intro c hc
    refine ⟨by simp, ?_⟩
    intro d hd
    rcases List.mem_append.mp hd with hd | hd
    · exact ht.2 d hd
    · exact List.mem_singleton.mp hd ▸ hc
  cases hx with
  | integer hwhole =>
    have hdigit : Stops Char.isDigit y :=
      hy.stops fun c hc => ⟨[], .integer (hlonger hwhole c hc)⟩
    have hpoint : Stops (· = '.') y := by
      refine hy.stops fun c hc => ⟨['0'], ?_⟩
      rw [of_decide_eq_true hc]
      exact .float hwhole ⟨List.cons_ne_nil _ _, by simp⟩
    have hdigits := covers_digits (n := n) (y := []) hwhole hdigit (covers_no_fraction hpoint)
    rwa [List.append_nil] at hdigits
  | @float whole decimals hwhole hdecimals =>
    have hdigit : Stops Char.isDigit y := by
      refine hy.stops fun c hc => ⟨[], ?_⟩
      rw [List.append_assoc, List.cons_append]
      exact .float hwhole (hlonger hdecimals c hc)
    exact covers_digits hwhole rfl (covers_fraction hdecimals hdigit)

/-- An element is looked at where it begins. -/
theorem covers_element_of_number (hbegins : Begins Grammar.startsNumber (x ++ y))
    (hnumber : Covers number n x y f) : Covers element n x y f := by
  have hspace : Stops isWhiteSpace (x ++ y) := hbegins.stops fun c hc =>
    Grammar.isWhiteSpace_of_startsElement (by simp [Grammar.startsElement, hc])
  have hquote : Stops (· = '"') (x ++ y) := by
    apply hbegins.stops
    intro c hc
    rw [decide_eq_false_iff_not]
    rintro rfl
    contradiction
  rw [element_eq]
  exact (covers_no_blanks hspace).andThen (.branch_neg hquote (.branch_pos hbegins hnumber))

/-- An element that begins with a sign is a number. -/
theorem covers_element_signed (hc : c = '+' ∨ c = '-') (hdigits : Covers digits (n + 1) x y f) :
    Covers element n (c :: x) y f := by
  have hsign : isSign c = true := by
    rcases hc with rfl | rfl <;> rfl
  have hstart : Begins Grammar.startsNumber (c :: x ++ y) := by
    rcases hc with rfl | rfl <;> rfl
  exact covers_element_of_number hstart (covers_signed hsign hdigits)

/-- So is an element that begins with a digit. -/
theorem covers_element_unsigned (hx : Begins Char.isDigit (x ++ y))
    (hdigits : Covers digits n x y f) : Covers element n x y f := by
  have hsign : Stops isSign (x ++ y) := hx.stops fun c hc => isSign_of_isDigit hc
  have hstart : Begins Grammar.startsNumber (x ++ y) := by
    refine hx.mono fun c hc => ?_
    simp only [Grammar.startsNumber, hc, Bool.or_true]
  exact covers_element_of_number hstart (covers_unsigned hsign hdigits)

/-- Where no element begins, the check goes on at the next synchronization character. -/
theorem covers_missing_element (hspace : Stops isWhiteSpace (x ++ y))
    (hx : Stops Grammar.startsElement (x ++ y))
    (hbare : ∀ c ∈ x, c ∉ GrammarPoint.element.syncChars)
    (hy : Stops (· ∉ GrammarPoint.element.syncChars) y) :
    Covers element n x y [(.missingElement, n)] := by
  have hquote : Stops (· = '"') (x ++ y) := hx.mono fun c hc => by
    simp only [Grammar.startsElement, hc, Bool.true_or]
  have hnumber : Stops Grammar.startsNumber (x ++ y) := hx.mono fun c hc => by
    simp only [Grammar.startsElement, hc, Bool.or_true]
  rw [element_eq]
  exact (covers_no_blanks hspace).andThen
    (.branch_neg hquote (.branch_neg hnumber (covers_report rfl hbare hy)))

/-- An element that what follows does not carry on is passed over in silence. -/
theorem covers_element (hx : IsElement x) (hy : EndsBefore IsElement x y) :
    Covers element n x y [] := by
  cases hx with
  | @string body hbody =>
    have hquote : Begins (· = '"') (('"' :: body ++ ['"']) ++ y) := rfl
    rw [element_eq]
    exact (covers_no_blanks (y := ('"' :: body ++ ['"']) ++ y) rfl).andThen
      (.branch_pos hquote (covers_string hbody))
  | unsigned hnumber =>
    have hdigits : Covers digits n x y [] :=
      covers_isUnsigned hnumber fun c hc rest h => hy c hc rest (.unsigned h)
    exact covers_element_unsigned (begins_isUnsigned hnumber) hdigits
  | signed hsign hnumber =>
    exact covers_element_signed hsign
      (covers_isUnsigned hnumber fun c hc rest h => hy c hc rest (.signed hsign h))

/-! ## Lists of elements -/

/-- Behind white space, the text goes on with something that does not close a list. -/
def OpensElement (t : Text) : Prop :=
  Begins (· ≠ ']') (t.dropWhile isWhiteSpace)

/-- The bracket may be looked for behind white space. -/
theorem opensElement_blank (hw : IsBlank w) (hp : Begins p x)
    (hopen : ∀ c, p c = true → isWhiteSpace c = false ∧ c ≠ ']') : OpensElement (w ++ x) := by
  have hspace : Stops isWhiteSpace x := hp.stops fun c hc => (hopen c hc).1
  rw [OpensElement, dropWhile_append_of_stops hw hspace]
  exact hp.mono fun c hc => decide_eq_true (hopen c hc).2

/-- What an element begins with does not close a list. -/
theorem opensElement_of_startsElement (hw : IsBlank w) (hx : Begins Grammar.startsElement x) :
    OpensElement (w ++ x) := by
  refine opensElement_blank hw hx fun c hc => ⟨Grammar.isWhiteSpace_of_startsElement hc, ?_⟩
  rintro rfl
  contradiction

/-- White space in front of white space is skipped with it. -/
theorem skipBlanks_blank (hw : IsBlank w) :
    (⟨n, w ++ x⟩ : Cursor).skipBlanks = (⟨n + w.length, x⟩ : Cursor).skipBlanks := by
  simp only [Cursor.skipBlanks, Cursor.skipWhile, List.takeWhile_append_of_pos hw,
    List.dropWhile_append_of_pos hw, List.length_append, Nat.add_assoc]

/-- Where no white space stands, the cursor stays. -/
theorem skipBlanks_of_stops (hx : Stops isWhiteSpace x) : (⟨n, x⟩ : Cursor).skipBlanks = ⟨n, x⟩ :=
  (covers_no_blanks hx).cursor

/-- White space is skipped once and for all. -/
theorem skipBlanks_skipBlanks (c : Cursor) : c.skipBlanks.skipBlanks = c.skipBlanks :=
  skipBlanks_of_stops (stops_dropWhile isWhiteSpace c.rest)

/-- White space in front of an element is passed over with it. -/
theorem element_skipBlanks (c : Cursor) : element c.skipBlanks = element c := by
  rw [element_eq]
  simp only [andThen_blanks, skipBlanks_skipBlanks]

/-- White space in front of an element is passed over with it, whatever runs behind the element. -/
theorem Covers.element_blank (hw : IsBlank w)
    (h : Covers (Routine.andThen element r) (n + w.length) x y f) :
    Covers (Routine.andThen element r) n (w ++ x) y f := by
  have hrun : Routine.andThen element r ⟨n, w ++ x ++ y⟩ =
      Routine.andThen element r ⟨n + w.length, x ++ y⟩ := by
    simp only [Routine.andThen]
    rw [← element_skipBlanks, List.append_assoc, skipBlanks_blank hw, element_skipBlanks]
  constructor
  · rw [hrun, h.cursor, List.length_append, Nat.add_assoc]
  · rw [hrun, h.findings]

/-- White space behind an element is passed over with the next round of the loop. -/
theorem moreElements_skipBlanks (c : Cursor) : moreElements c.skipBlanks = moreElements c := by
  rw [moreElements_eq, moreElements_eq c]
  simp only [listRound, andThen_blanks, skipBlanks_skipBlanks]

/-- White space between an element and the next comma may be skipped before the loop or in it. -/
theorem andThen_moreElements :
    andThen (andThen element blanks) moreElements = andThen element moreElements := by
  funext c
  simp only [andThen, blanks, Pass.append_assoc, Pass.cursor_append, Pass.cursor_silent,
    Pass.silent_append, moreElements_skipBlanks]

/-- Where the list is not closed, an element is checked. -/
theorem Covers.opensElement (hopen : OpensElement (x ++ y))
    (h : Covers (Routine.andThen element r) n x y f) :
    Covers (Routine.andThen blanks (branch (· = ']') s (Routine.andThen element r))) n x y f := by
  have hrun : Routine.andThen blanks (branch (· = ']') s (Routine.andThen element r)) ⟨n, x ++ y⟩ =
      Routine.andThen element r ⟨n, x ++ y⟩ := by
    have hclose : (⟨n, x ++ y⟩ : Cursor).skipBlanks.startsWith (· = ']') = false :=
      Begins.stops hopen fun c hc => decide_eq_false (of_decide_eq_true hc)
    simp only [andThen_blanks, branch, hclose, Bool.false_eq_true, if_false]
    simp only [Routine.andThen, element_skipBlanks]
  exact ⟨by rw [hrun, h.cursor], by rw [hrun, h.findings]⟩

/-- The elements begin with the first one. -/
theorem covers_elements (hopen : OpensElement (x ++ y))
    (h : Covers (andThen element moreElements) n x y f) : Covers elements n x y f := by
  have hrun : elements ⟨n, x ++ y⟩ = andThen blanks
      (branch (· = ']') .silent (andThen element moreElements)) ⟨n, x ++ y⟩ := by
    have hsome : (⟨n, x ++ y⟩ : Cursor).skipBlanks.startsWith (fun _ => true) = true :=
      Begins.mono hopen fun _ _ => rfl
    simp only [elements_eq, andThen_blanks, branch, hsome, if_true]
  have hlist : Covers (andThen blanks (branch (· = ']') .silent (andThen element moreElements)))
      n x y f := h.opensElement hopen
  exact ⟨by rw [hrun, hlist.cursor], by rw [hrun, hlist.findings]⟩

/-- The loop is one round in front of the loop. -/
theorem moreElements_eq_listRound : moreElements = listRound moreElements :=
  funext moreElements_eq

/-- Where no comma follows, the list has no more elements. -/
theorem covers_moreElements_end (hspace : Stops isWhiteSpace y) (hcomma : Stops (· = ',') y) :
    Covers moreElements n [] y [] := by
  rw [moreElements_eq_listRound]
  exact (covers_no_blanks hspace).andThen (.branch_neg hcomma covers_stay)

/-- Behind the last comma the list may be closed. -/
theorem covers_moreElements_trailing (hw : IsBlank w) :
    Covers moreElements n (',' :: w) (']' :: y) [] := by
  have hbracket {m : Nat} :
      Covers (branch (· = ']') .silent (andThen element moreElements)) m [] (']' :: y) [] :=
    .branch_pos rfl covers_stay
  have hclose {m : Nat} : Covers (andThen blanks
      (branch (· = ']') .silent (andThen element moreElements))) m (w ++ []) (']' :: y) [] :=
    (covers_blanks hw (stops_cons.mpr rfl)).andThen hbracket
  rw [List.append_nil] at hclose
  rw [moreElements_eq_listRound]
  exact (covers_no_blanks (stops_cons.mpr rfl)).andThen (y := ',' :: w)
    (.branch_pos rfl (covers_next.andThen hclose))

/-- Behind a comma the list goes on with an element, unless it is closed there. -/
theorem covers_moreElements_comma (hw : IsBlank w) (hopen : OpensElement (x ++ y))
    (h : Covers (andThen element moreElements) (n + w.length + 1) x y f) :
    Covers moreElements n (w ++ ',' :: x) y f := by
  rw [moreElements_eq_listRound]
  exact (covers_blanks hw (stops_cons.mpr rfl)).andThen (y := ',' :: x)
    (.branch_pos rfl (covers_next.andThen (h.opensElement hopen)))

/-! ## Parts of a declaration -/

/-- A row of one routine is that routine. -/
theorem covers_last (h : Covers r n x y f) : Covers (inOrder [r]) n x y f := by
  have hlist : Covers (inOrder [r]) n (x ++ []) y (f ++ []) := covers_cons h covers_nil
  rwa [List.append_nil, List.append_nil] at hlist

/-- Two rows of routines pass over the text one behind the other. -/
theorem covers_append (hr : Covers (inOrder rs) n x (y ++ z) f)
    (hs : Covers (inOrder ss) (n + x.length) y z g) :
    Covers (inOrder (rs ++ ss)) n (x ++ y) z (f ++ g) := by
  rw [inOrder_append]
  exact hr.andThen hs

/-- A delimiter is no white space. -/
theorem isWhiteSpace_delimiter (delimiter : Delimiter) : isWhiteSpace delimiter.char = false := by
  cases delimiter <;> rfl

/-- A symbol behind white space, in front of what is known. -/
theorem Covers.symbol (delimiter : Delimiter) (hw : IsBlank w)
    (h : Covers (inOrder rs) (n + w.length + 1) x y f) :
    Covers (inOrder (blanks :: expect delimiter :: rs)) n (w ++ delimiter.char :: x) y f :=
  covers_cons (covers_blanks hw (stops_cons.mpr (isWhiteSpace_delimiter delimiter)))
    (covers_cons (x := [delimiter.char]) (covers_expect delimiter) h)

/-- White space and the delimiter that is expected are passed over in silence. -/
theorem covers_symbol (delimiter : Delimiter) (hw : IsBlank w) :
    Covers (inOrder [blanks, expect delimiter]) n (w ++ [delimiter.char]) y [] :=
  covers_nil.symbol delimiter hw

/-- White space and a name. -/
theorem covers_named (hw : IsBlank w) (hx : IsLooseName x) (hy : Stops Char.isAlphanum y) :
    Covers (inOrder [blanks, name]) n (w ++ x) y (nameFindings (n + w.length) x) := by
  obtain ⟨c, rest, hc, rfl⟩ := begins_iff.mp hx.1
  have hspace : Stops isWhiteSpace ((c :: rest) ++ y) :=
    isWhiteSpace_of_isAlphanum (isAlphanum_of_isAlpha hc)
  exact covers_cons (covers_blanks hw hspace) (covers_last (covers_looseName hx hy))

end Routine

end TypedList
