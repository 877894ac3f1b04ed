import TypedList.Proofs.Concatenation
import TypedList.Proofs.Places

/-!
# Between the quotes

Whether strings are read makes a difference between double quotes only.  Taken apart at its double
quotes, a text has the tokens of its fragments, each where the fragment stands, and outside of the
quotes these are the same in both modes.

Main results:

- Theorem `placed_of_stand`: the tokens of fragments that stand one behind the other.
- Theorem `Quoting.stand_fragments`: in either mode a text is made of fragments that do.
- Theorem `scan_quoting`: both modes on one text, by its fragments.
-/

namespace TypedList

/-! ## Fragments -/

/-- A part of a text with the tokens that it has by itself. -/
structure Fragment where
  text : Text
  tokens : List Token
deriving DecidableEq, Repr

/-- The tokens of fragments that stand one behind the other, behind a text. -/
def placed (before : Text) : List Fragment → List Token
  | [] => []
  | f :: others => f.tokens.map (·.behind before) ++ placed (before ++ f.text) others

variable {mode : QuoteMode} {u v rest before t : Text}

namespace Fragment

/-- A part of a text that is scanned without reading strings. -/
def plain (t : Text) : Fragment :=
  ⟨t, scan .marker t⟩

/-- A double quote that is a token. -/
def quote : Fragment :=
  ⟨['"'], [.sound .quoteMarker ['"'] ⟨1, 1, 1⟩]⟩

/-- A string. -/
def string (body : Text) : Fragment :=
  ⟨'"' :: body ++ ['"'], [.sound .stringLiteral body ⟨1, 1, body.length + 2⟩]⟩

/-- A string without its closing quote. -/
def openString (body : Text) : Fragment :=
  ⟨'"' :: body, [.faulty .unterminatedString body ⟨1, 1, body.length + 1⟩]⟩

/-- The tokens of the fragment are its own ones, whatever stands before it, and the rest of the
text has its own ones too. -/
structure Stands (mode : QuoteMode) (f : Fragment) (rest : Text) : Prop where
  scan_eq : scan mode f.text = f.tokens
  scanFrom_eq : ∀ l, scanFrom mode l (f.text ++ rest) =
    scanFrom mode l f.text ++ scanFrom mode (l.after f.text) rest

/-- Each of the fragments stands before all that follow. -/
def AllStand (mode : QuoteMode) : List Fragment → Prop
  | [] => True
  | f :: others => f.Stands mode (others.flatMap text) ∧ AllStand mode others

/-- The tokens of fragments that stand one behind the other. -/
theorem scanFrom_of_allStand {fragments : List Fragment} (before : Text)
    (h : AllStand mode fragments) :
    scanFrom mode (Location.start.after before) (fragments.flatMap text) =
      placed before fragments := by
  induction fragments generalizing before with
  | nil => exact scanFrom_nil _
  | cons f others ih =>
    rcases h with ⟨hstands, hothers⟩
    rw [List.flatMap_cons, hstands.scanFrom_eq, ← Location.after_append, ih _ hothers,
      scanFrom_behind, hstands.scan_eq, placed]

/-- A complete block is such a fragment, if the end of the text would not change it. -/
theorem stands_of_fits {s : Segment} (h : s.Fits mode rest) (hend : s.Fits mode []) :
    Stands mode ⟨s.text, s.tokens .start⟩ rest := by
  have hscan (l : Location) : scanFrom mode l s.text = s.tokens l := by
    have hblock := scanFrom_block l hend
    rwa [scanFrom_nil, List.append_nil, List.append_nil] at hblock
  constructor
  · exact hscan .start
  · intro l
    rw [hscan l, scanFrom_block l h]

/-- Where quotes are tokens, a quote stands before any text. -/
theorem stands_quote (rest : Text) : quote.Stands .marker rest :=
  stands_of_fits (.mark rfl rfl rfl (by simp)) (.mark rfl rfl rfl (by simp))

/-- Where quoted texts are strings, a closed one stands before any text. -/
theorem stands_string {body : Text} (hbody : '"' ∉ body) (rest : Text) :
    (string body).Stands .literal rest := by
  have hfits (t : Text) : (Segment.quoted body true).Fits .literal t := .closed rfl hbody
  have hstands := stands_of_fits (hfits rest) (hfits [])
  simpa [string, Segment.text, Segment.tokens, Span.ofLength, Location.start] using hstands

/-- One that is not closed stands at the end of the text. -/
theorem stands_openString {body : Text} (hbody : '"' ∉ body) :
    (openString body).Stands .literal [] := by
  have hstands := stands_of_fits (.unclosed rfl hbody) (.unclosed rfl hbody)
  simpa [openString, Segment.text, Segment.tokens, Span.ofLength, Location.start] using hstands

end Fragment

/-! ## Texts without a quote -/

/-- A block without a quote is the same whether or not strings are read. -/
theorem Segment.Fits.literal {s : Segment} (h : s.Fits .marker rest) (hs : '"' ∉ s.text) :
    s.Fits .literal rest := by
  cases h with
  | word hletter htail hstops => exact .word hletter htail hstops
  | integer hwhole hdigit hpoint => exact .integer hwhole hdigit hpoint
  | float hwhole hdecimals hdigit => exact .float hwhole hdecimals hdigit
  | closed hmode => contradiction
  | unclosed hmode => contradiction
  | mark hspace hletter hdigit =>
    refine .mark hspace hletter hdigit ?_
    rintro ⟨rfl, -⟩
    exact hs (List.mem_singleton_self _)

/-- Without quotes the mode does not matter for a cut. -/
theorem Cut.Complete.literal {cut : Cut} (h : cut.Complete .marker) (hcut : '"' ∉ cut.text) :
    cut.Complete .literal := by
  induction cut with
  | last gap => exact h
  | block gap s others ih =>
    rcases h with ⟨hgap, hfits, hothers⟩
    simp only [text, List.mem_append, not_or] at hcut
    exact ⟨hgap, hfits.literal hcut.2.1, ih hothers hcut.2.2⟩

/-- Both modes agree on a text without a quote. -/
theorem scanFrom_of_quote_notMem (mode : QuoteMode) (l : Location) (ht : '"' ∉ t) :
    scanFrom mode l t = scanFrom .marker l t := by
  cases mode with
  | marker => rfl
  | literal =>
    rcases Cut.exists_complete .marker t with ⟨cut, rfl, hcut⟩
    rw [Cut.scanFrom_text l hcut, Cut.scanFrom_text l (hcut.literal ht)]

/-- In either mode a text without a quote has its own tokens before what no word and no number
goes on into. -/
theorem Fragment.stands_plain (mode : QuoteMode) (hu : '"' ∉ u) (hrest : Stops isJoining rest) :
    (plain u).Stands mode rest := by
  constructor
  · exact scanFrom_of_quote_notMem mode .start hu
  · intro l
    have hcount : u.count '"' = 0 := List.count_eq_zero_of_not_mem hu
    exact scanFrom_append l (fun _ => hcount ▸ Even.zero) fun _ _ _ => hrest

/-! ## Taking a text apart -/

/-- A text taken apart at its double quotes. -/
inductive Quoting
  /-- No quote. -/
  | plain (outside : Text)
  /-- A last quote with no other to close it. -/
  | opened (outside inside : Text)
  /-- Two quotes and what stands between them. -/
  | closed (outside inside : Text) (rest : Quoting)
deriving DecidableEq, Repr

namespace Quoting

/-- The text that is taken apart. -/
def text : Quoting → Text
  | plain outside => outside
  | opened outside inside => outside ++ '"' :: inside
  | closed outside inside rest => outside ++ '"' :: (inside ++ '"' :: rest.text)

/-- There are no other quotes. -/
def Bare : Quoting → Prop
  | plain outside => '"' ∉ outside
  | opened outside inside => '"' ∉ outside ∧ '"' ∉ inside
  | closed outside inside rest => '"' ∉ outside ∧ '"' ∉ inside ∧ rest.Bare

/-- The fragments of a text.  Where strings are read, what a pair of quotes holds is one string, and
what the last of an odd number of quotes opens is a string without an end; elsewhere every quote is
a fragment, and so is what stands between them. -/
def fragments (mode : QuoteMode) : Quoting → List Fragment
  | plain outside => [.plain outside]
  | opened outside inside =>
    match mode with
    | .literal => [.plain outside, .openString inside]
    | .marker => [.plain outside, .quote, .plain inside]
  | closed outside inside rest =>
    match mode with
    | .literal => .plain outside :: .string inside :: rest.fragments mode
    | .marker => .plain outside :: .quote :: .plain inside :: .quote :: rest.fragments mode

/-- The fragments of a quoting make up its text. -/
theorem flatMap_fragments (mode : QuoteMode) (q : Quoting) :
    (q.fragments mode).flatMap Fragment.text = q.text := by
  induction q with
  | plain outside => simp [fragments, text, Fragment.plain]
  | opened outside inside =>
    cases mode <;> simp [fragments, text, Fragment.plain, Fragment.quote, Fragment.openString]
  | closed outside inside rest ih =>
    cases mode <;> simp [fragments, text, Fragment.plain, Fragment.quote, Fragment.string, ih]

/-- In either mode the fragments of a text stand one behind the other. -/
theorem allStand_fragments (mode : QuoteMode) {q : Quoting} (hq : q.Bare) :
    Fragment.AllStand mode (q.fragments mode) := by
  have hstops (rest : Text) : Stops isJoining ('"' :: rest) := stops_cons.mpr isJoining_quote
  induction q with
  | plain outside => exact ⟨Fragment.stands_plain mode hq (stops_nil _), trivial⟩
  | opened outside inside =>
    rcases hq with ⟨houtside, hinside⟩
    cases mode with
    | literal =>
      exact ⟨Fragment.stands_plain _ houtside (hstops _),
        Fragment.stands_openString hinside, trivial⟩
    | marker =>
      exact ⟨Fragment.stands_plain _ houtside (hstops _), Fragment.stands_quote _,
        Fragment.stands_plain _ hinside (stops_nil _), trivial⟩
  | closed outside inside rest ih =>
    rcases hq with ⟨houtside, hinside, hrest⟩
    cases mode with
    | literal =>
      exact ⟨Fragment.stands_plain _ houtside (hstops _), Fragment.stands_string hinside _,
        ih hrest⟩
    | marker =>
      exact ⟨Fragment.stands_plain _ houtside (hstops _), Fragment.stands_quote _,
        Fragment.stands_plain _ hinside (hstops _), Fragment.stands_quote _, ih hrest⟩

/-- Every text can be taken apart. -/
theorem exists_bare (t : Text) : ∃ q : Quoting, q.text = t ∧ q.Bare := by
  induction hlength : t.length using Nat.strong_induction_on generalizing t with
  | _ n ih =>
    by_cases ht : '"' ∈ t
    · rcases List.eq_append_cons_of_mem ht with ⟨outside, u, rfl, houtside⟩
      by_cases hu : '"' ∈ u
      · rcases List.eq_append_cons_of_mem hu with ⟨inside, v, rfl, hinside⟩
        have hlt : v.length < n := by
          simp only [List.length_append, List.length_cons] at hlength
          omega
        rcases ih v.length hlt v rfl with ⟨q, rfl, hq⟩
        exact ⟨closed outside inside q, rfl, houtside, hinside, hq⟩
      · exact ⟨opened outside u, rfl, houtside, hu⟩
    · exact ⟨plain t, rfl, ht⟩

/-- A text without quotes has no part before one. -/
theorem ne_append_quote (ht : '"' ∉ t) (u v : Text) : t ≠ u ++ '"' :: v := by
  rintro rfl
  simp at ht

/-- A text can be taken apart in one way only. -/
theorem eq_of_bare {q other : Quoting} (hq : q.Bare) (hother : other.Bare)
    (h : q.text = other.text) : q = other := by
  induction q generalizing other with
  | plain u =>
    cases other with
    | plain u' => exact congrArg plain h
    | opened u' s' => exact absurd h (ne_append_quote hq _ _)
    | closed u' s' q' => exact absurd h (ne_append_quote hq _ _)
  | opened u s =>
    cases other with
    | plain u' => exact absurd h.symm (ne_append_quote hother _ _)
    | opened u' s' =>
      rcases append_cons_inj hq.1 hother.1 h with ⟨rfl, rfl⟩
      rfl
    | closed u' s' q' =>
      have hinside := (append_cons_inj hq.1 hother.1 h).2
      exact absurd hinside (ne_append_quote hq.2 _ _)
  | closed u s q ih =>
    cases other with
    | plain u' => exact absurd h.symm (ne_append_quote hother _ _)
    | opened u' s' =>
      have hinside := (append_cons_inj hq.1 hother.1 h).2
      exact absurd hinside.symm (ne_append_quote hother.2 _ _)
    | closed u' s' q' =>
      rcases append_cons_inj hq.1 hother.1 h with ⟨rfl, hinside⟩
      rcases append_cons_inj hq.2.1 hother.2.1 hinside with ⟨rfl, hrest⟩
      rw [ih hq.2.2 hother.2.2 hrest]

end Quoting

/-! ## Both modes -/

/-- Where the first double quote of a text stands, or else the end of the text. -/
def firstQuote (t : Text) : Location :=
  Location.start.after (t.takeWhile (· ≠ '"'))

/-- Whether the token starts before the location. -/
def Token.startsBefore (l : Location) (token : Token) : Bool :=
  token.span.line < l.line ||
    (token.span.line = l.line && token.span.startColumn < l.column)

/-- No token of a text starts before the text does. -/
theorem filter_startsBefore_scanFrom (mode : QuoteMode) (before t : Text) :
    (scanFrom mode (Location.start.after before) t).filter
      (·.startsBefore (Location.start.after before)) = [] := by
  rcases Cut.exists_complete mode t with ⟨cut, rfl, hcut⟩
  rw [Cut.scanFrom_text _ hcut, Cut.tokens_eq_map before hcut, List.filter_eq_nil_iff]
  intro token htoken
  rcases List.mem_map.mp htoken with ⟨o, ho, rfl⟩
  rcases (Cut.exists_of_mem_origins hcut ho).1 with ⟨u, v, hbefore, -⟩
  have hspan : o.token.span =
      .ofLength ((Location.start.after before).after u) o.piece.length := by
    rw [← Location.after_append, ← hbefore]
    exact o.span_eq_ofLength
  simp only [Token.startsBefore, hspan, Span.ofLength]
  rcases (Location.start.after before).after_cases u with hlater | hsame
  · simp
    omega
  · simp [hsame]

/-- Before the first quote either mode has the tokens of a text without quotes. -/
theorem filter_startsBefore_scan (mode : QuoteMode) (t : Text) :
    (scan mode t).filter (·.startsBefore (firstQuote t)) =
      (scan .marker (t.takeWhile (· ≠ '"'))).filter (·.startsBefore (firstQuote t)) := by
  have hbare : '"' ∉ t.takeWhile (· ≠ '"') := by
    intro hmem
    simpa using List.mem_takeWhile_imp hmem
  have hrest : Stops isJoining (t.dropWhile (· ≠ '"')) :=
    (stops_dropWhile (· ≠ '"') t).of_ne isJoining_quote
  have hscan := (Fragment.stands_plain mode hbare hrest).scanFrom_eq .start
  simp only [Fragment.plain, List.takeWhile_append_dropWhile] at hscan
  rw [scan, ← scanFrom, hscan, List.filter_append, firstQuote, filter_startsBefore_scanFrom,
    List.append_nil, scanFrom_of_quote_notMem mode _ hbare]
  rfl

/-- Every text can be taken apart at its double quotes in exactly one way, and in either mode its
tokens are those of its fragments where they stand.  So both modes agree on a text without a quote,
and on the tokens that start before the first quote. -/
theorem scan_quoting (t : Text) :
    ∃ quoting : Quoting, (∀ other : Quoting, other.text = t ∧ other.Bare ↔ other = quoting) ∧
      (∀ mode, scan mode t = placed [] (quoting.fragments mode)) ∧
      ('"' ∉ t → scan .literal t = scan .marker t) ∧
      (scan .literal t).filter (·.startsBefore (firstQuote t)) =
        (scan .marker t).filter (·.startsBefore (firstQuote t)) := by
  rcases Quoting.exists_bare t with ⟨quoting, rfl, hbare⟩
  refine ⟨quoting, ?_, ?_, ?_, ?_⟩
  · intro other
    constructor
    · intro h
      exact Quoting.eq_of_bare h.2 hbare h.1
    · rintro rfl
      exact ⟨rfl, hbare⟩
  · intro mode
    have hstand := quoting.allStand_fragments mode hbare
    rw [← Fragment.scanFrom_of_allStand [] hstand, Quoting.flatMap_fragments]
    rfl
  · exact scanFrom_of_quote_notMem .literal .start
  · rw [filter_startsBefore_scan .literal, filter_startsBefore_scan .marker]

end TypedList
