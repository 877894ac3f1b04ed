import Mathlib.Data.List.TakeWhile
import TypedList.Proofs.Runs
import TypedList.Token.Scan

/-!
# Cutting a text into blocks

A text is cut in one way into runs of white space and blocks that go on as far as their kind
allows, and its tokens are those of the blocks.  What makes a block complete is said by its form
and the text behind it alone, without the scanning functions.

Main results:

- Theorem `Segment.first_of_fits`: a complete block is the first segment of what it begins.
- Theorem `scanFrom_block`: the tokens of a text that begins with a complete block.
- Theorem `scan_eq_tokens_of_unique_cut`: every text has exactly one cut into complete blocks, and
  its tokens are theirs in order.
-/

namespace TypedList

/-! ## Complete blocks -/

/-- A text without quotes is passed over by the search for one. -/
theorem ne_quote_of_notMem {t : Text} (ht : '"' ∉ t) : ∀ c ∈ t, decide (c ≠ '"') = true := by
  intro c hc
  rw [decide_eq_true_eq]
  intro heq
  subst heq
  exact ht hc

namespace Segment

/-- The block is one of those that a text is made of besides white space, and before the given
text it could not be longer. -/
inductive Fits (mode : QuoteMode) : Segment → Text → Prop
  /-- An ASCII letter and word characters, as far as they go. -/
  | word {letter : Char} {tail rest : Text} : letter.isAlpha = true →
      (∀ c ∈ tail, isWordChar c = true) → Stops isWordChar rest →
        Fits mode (word (letter :: tail)) rest
  /-- Digits, as far as they go, without a point behind them. -/
  | integer {whole rest : Text} : IsDigits whole → Stops Char.isDigit rest →
      Stops (· = '.') rest → Fits mode (number whole) rest
  /-- Digits, a point, and perhaps more digits, as far as they go. -/
  | float {whole decimals rest : Text} : IsDigits whole → (∀ c ∈ decimals, c.isDigit = true) →
      Stops Char.isDigit rest → Fits mode (number (whole ++ '.' :: decimals)) rest
  /-- A double quote and everything up to the next one. -/
  | closed {body rest : Text} : mode = .literal → '"' ∉ body → Fits mode (quoted body true) rest
  /-- A double quote and everything up to the end of the text. -/
  | unclosed {body : Text} : mode = .literal → '"' ∉ body → Fits mode (quoted body false) []
  /-- A character that begins no longer block and is no white space. -/
  | mark {c : Char} {rest : Text} : isWhiteSpace c = false → c.isAlpha = false →
      c.isDigit = false → ¬ (c = '"' ∧ mode = .literal) → Fits mode (mark c) rest

variable {mode : QuoteMode} {s : Segment} {c : Char} {t rest : Text}

/-- All characters of a word carry it on. -/
theorem isWordChar_of_mem_word {letter : Char} {tail : Text} (hletter : letter.isAlpha = true)
    (htail : ∀ c ∈ tail, isWordChar c = true) : ∀ c ∈ letter :: tail, isWordChar c = true := by
  intro c hc
  rcases List.mem_cons.mp hc with rfl | hc
  · simp [isWordChar, isNameChar, isAlphanum_of_isAlpha hletter]
  · exact htail c hc

/-- Digits are the number that a text begins with, if neither a digit nor a point follows. -/
theorem splitNumber_integer {whole : Text} (hwhole : ∀ c ∈ whole, c.isDigit = true)
    (hdigit : Stops Char.isDigit rest) (hpoint : Stops (· = '.') rest) :
    splitNumber (whole ++ rest) = (whole, rest) := by
  unfold splitNumber
  rw [dropWhile_append_of_stops hwhole hdigit, takeWhile_append_of_stops hwhole hdigit]
  split <;> rename_i h
  · simp at hpoint
  · rfl

/-- Digits with a point are the number that a text begins with, if no digit follows. -/
theorem splitNumber_float {whole decimals : Text} (hwhole : ∀ c ∈ whole, c.isDigit = true)
    (hdecimals : ∀ c ∈ decimals, c.isDigit = true) (hdigit : Stops Char.isDigit rest) :
    splitNumber (whole ++ '.' :: (decimals ++ rest)) = (whole ++ '.' :: decimals, rest) := by
  have hpoint : Stops Char.isDigit ('.' :: (decimals ++ rest)) := rfl
  unfold splitNumber
  rw [dropWhile_append_of_stops hwhole hpoint, takeWhile_append_of_stops hwhole hpoint]
  simp only
  rw [takeWhile_append_of_stops hdecimals hdigit, dropWhile_append_of_stops hdecimals hdigit]

/-- A letter begins a word, which goes on as far as word characters do. -/
theorem first_word (hletter : c.isAlpha = true) :
    first mode c rest = (word (c :: rest.takeWhile isWordChar), rest.dropWhile isWordChar) := by
  have hspace := isWhiteSpace_of_isAlphanum (isAlphanum_of_isAlpha hletter)
  simp [first, hspace, hletter]

/-- A digit begins a number. -/
theorem first_number (hdigit : c.isDigit = true) :
    first mode c rest = (number (splitNumber (c :: rest)).1, (splitNumber (c :: rest)).2) := by
  have hspace := isWhiteSpace_of_isAlphanum (isAlphanum_of_isDigit hdigit)
  simp [first, hspace, isAlpha_of_isDigit hdigit, hdigit]

/-- Where quoted texts are strings, a quote begins one. -/
theorem first_quote : first .literal '"' rest = quotedFrom rest := by
  have hspace : isWhiteSpace '"' = false := rfl
  have hletter : ('"' : Char).isAlpha = false := rfl
  have hdigit : ('"' : Char).isDigit = false := rfl
  simp [first, hspace, hletter, hdigit]

/-- A quoted text ends at the next quote. -/
theorem quotedFrom_closed {body : Text} (hbody : '"' ∉ body) :
    quotedFrom (body ++ '"' :: rest) = (quoted body true, rest) := by
  have hbare := ne_quote_of_notMem hbody
  have hquote : Stops (· ≠ '"') ('"' :: rest) := by simp
  unfold quotedFrom
  rw [dropWhile_append_of_stops hbare hquote, takeWhile_append_of_stops hbare hquote]

/-- Without another quote it goes on to the end of the text. -/
theorem quotedFrom_unclosed {body : Text} (hbody : '"' ∉ body) :
    quotedFrom body = (quoted body false, []) := by
  have hdrop : body.dropWhile (· ≠ '"') = [] := by
    rw [List.dropWhile_eq_nil_iff]
    exact ne_quote_of_notMem hbody
  unfold quotedFrom
  rw [hdrop]

/-- No block is empty. -/
theorem Fits.text_ne_nil (h : s.Fits mode rest) : s.text ≠ [] := by
  cases h with
  | word => exact List.cons_ne_nil _ _
  | integer hwhole => exact hwhole.1
  | float => simp [text]
  | closed => exact List.cons_ne_nil _ _
  | unclosed => exact List.cons_ne_nil _ _
  | mark => exact List.cons_ne_nil _ _

/-- A complete block is the first segment of what it begins, and does not begin with white
space. -/
theorem first_of_fits (h : s.Fits mode rest) :
    ∃ c t, s.text ++ rest = c :: t ∧ isWhiteSpace c = false ∧ first mode c t = (s, rest) := by
  cases h with
  | @word letter tail rest hletter htail hstops =>
    refine ⟨letter, tail ++ rest, rfl,
      isWhiteSpace_of_isAlphanum (isAlphanum_of_isAlpha hletter), ?_⟩
    rw [first_word hletter, takeWhile_append_of_stops htail hstops,
      dropWhile_append_of_stops htail hstops]
  | @integer whole rest hwhole hdigit hpoint =>
    rcases List.exists_cons_of_ne_nil hwhole.1 with ⟨d, ds, rfl⟩
    have hd := hwhole.2 d List.mem_cons_self
    refine ⟨d, ds ++ rest, rfl, isWhiteSpace_of_isAlphanum (isAlphanum_of_isDigit hd), ?_⟩
    rw [first_number hd, ← List.cons_append, splitNumber_integer hwhole.2 hdigit hpoint]
  | @float whole decimals rest hwhole hdecimals hdigit =>
    rcases List.exists_cons_of_ne_nil hwhole.1 with ⟨d, ds, rfl⟩
    have hd := hwhole.2 d List.mem_cons_self
    refine ⟨d, ds ++ '.' :: (decimals ++ rest), by simp [text],
      isWhiteSpace_of_isAlphanum (isAlphanum_of_isDigit hd), ?_⟩
    rw [first_number hd, ← List.cons_append, splitNumber_float hwhole.2 hdecimals hdigit]
  | @closed body rest hmode hbody =>
    subst hmode
    refine ⟨'"', body ++ '"' :: rest, by simp [text], rfl, ?_⟩
    rw [first_quote, quotedFrom_closed hbody]
  | @unclosed body hmode hbody =>
    subst hmode
    refine ⟨'"', body, by simp [text], rfl, ?_⟩
    rw [first_quote, quotedFrom_unclosed hbody]
  | @mark c rest hspace hletter hdigit hquote =>
    refine ⟨c, rest, rfl, hspace, ?_⟩
    simp [first, hspace, hletter, hdigit, hquote]

/-- The number that is cut off behind a digit is a complete block. -/
theorem splitNumber_fits (hdigit : c.isDigit = true) :
    Fits mode (number (splitNumber (c :: t)).1) (splitNumber (c :: t)).2 := by
  have hwhole : IsDigits ((c :: t).takeWhile Char.isDigit) := by
    refine ⟨?_, fun _ hd => List.mem_takeWhile_imp hd⟩
    rw [List.takeWhile_cons_of_pos hdigit]
    exact List.cons_ne_nil _ _
  unfold splitNumber
  split <;> rename_i h
  · rename_i rest
    exact .float hwhole (fun _ hd => List.mem_takeWhile_imp hd) (stops_dropWhile _ _)
  · refine .integer hwhole (stops_dropWhile _ _) ?_
    rcases hdrop : (c :: t).dropWhile Char.isDigit with - | ⟨d, ds⟩
    · exact stops_nil _
    · rw [stops_cons, decide_eq_false_iff_not]
      intro heq
      subst heq
      exact h ds hdrop

/-- So is the quoted text that is cut off behind a quote, closed or not. -/
theorem quotedFrom_fits : Fits .literal (quotedFrom t).1 (quotedFrom t).2 := by
  have hbare : '"' ∉ t.takeWhile (· ≠ '"') := by
    intro hmem
    simpa using List.mem_takeWhile_imp hmem
  unfold quotedFrom
  split <;> rename_i h
  · rw [List.dropWhile_eq_nil_iff] at h
    refine .unclosed rfl ?_
    intro hmem
    simpa using h _ hmem
  · exact .closed rfl hbare

/-- The first segment of a text that does not begin with white space is a complete block. -/
theorem fits_first (hspace : isWhiteSpace c = false) :
    Fits mode (first mode c t).1 (first mode c t).2 := by
  by_cases hletter : c.isAlpha = true
  · rw [first_word hletter]
    exact .word hletter (fun _ hc => List.mem_takeWhile_imp hc) (stops_dropWhile _ _)
  · by_cases hdigit : c.isDigit = true
    · rw [first_number hdigit]
      exact splitNumber_fits hdigit
    · rw [Bool.not_eq_true] at hletter hdigit
      by_cases hquote : c = '"' ∧ mode = .literal
      · rcases hquote with ⟨rfl, rfl⟩
        rw [first_quote]
        exact quotedFrom_fits
      · have hmark : first mode c t = (mark c, t) := by
          simp [first, hspace, hletter, hdigit, hquote]
        rw [hmark]
        exact .mark hspace hletter hdigit hquote

/-- A text is white space, or white space and a complete block with less left behind it. -/
theorem exists_block (mode : QuoteMode) (t : Text) :
    IsBlank t ∨ ∃ (gap : Text) (s : Segment) (rest : Text), IsBlank gap ∧ s.Fits mode rest ∧
      t = gap ++ (s.text ++ rest) ∧ rest.length < t.length := by
  have hgap : IsBlank (t.takeWhile isWhiteSpace) := fun _ hc => List.mem_takeWhile_imp hc
  have hsplit : t.takeWhile isWhiteSpace ++ t.dropWhile isWhiteSpace = t :=
    List.takeWhile_append_dropWhile
  have hstops := stops_dropWhile isWhiteSpace t
  rcases hdrop : t.dropWhile isWhiteSpace with - | ⟨c, u⟩
  · left
    rw [hdrop, List.append_nil] at hsplit
    rw [← hsplit]
    exact hgap
  · right
    rw [hdrop] at hsplit hstops
    refine ⟨_, (first mode c u).1, (first mode c u).2, hgap, fits_first hstops, ?_, ?_⟩
    · rw [first_lossless]
      exact hsplit.symm
    · have hlength := congrArg List.length hsplit
      have hcut := length_first_le mode c u
      rw [List.length_append, List.length_cons] at hlength
      omega

end Segment

/-! ## Tokens from a location on -/

/-- The tokens of a text that stands at a location. -/
def scanFrom (mode : QuoteMode) (l : Location) (t : Text) : List Token :=
  tokensFrom l (segments mode t)

variable {mode : QuoteMode} {s : Segment} {w t rest : Text}

/-- The empty text has no tokens. -/
theorem scanFrom_nil (l : Location) : scanFrom mode l [] = [] := by
  rw [scanFrom, segments_nil, tokensFrom]

/-- White space has no tokens. -/
theorem scanFrom_blank (l : Location) (hw : IsBlank w) :
    scanFrom mode l (w ++ t) = scanFrom mode (l.after w) t := by
  induction w generalizing l with
  | nil => rfl
  | cons c w ih =>
    have hspace := hw c List.mem_cons_self
    have hfirst : Segment.first mode c (w ++ t) = (.blank c, w ++ t) := by
      simp [Segment.first, hspace]
    have hrest := ih (l.step c) fun d hd => hw d (List.mem_cons_of_mem c hd)
    rw [List.cons_append, scanFrom, segments_cons, hfirst, tokensFrom]
    exact hrest

/-- White space has no tokens. -/
theorem scanFrom_of_isBlank (l : Location) (hw : IsBlank w) : scanFrom mode l w = [] := by
  have hblank : scanFrom mode l (w ++ []) = scanFrom mode (l.after w) [] := scanFrom_blank l hw
  rw [List.append_nil, scanFrom_nil] at hblank
  exact hblank

/-- The tokens of a text that begins with a complete block. -/
theorem scanFrom_block (l : Location) (h : s.Fits mode rest) :
    scanFrom mode l (s.text ++ rest) = s.tokens l ++ scanFrom mode (l.after s.text) rest := by
  rcases Segment.first_of_fits h with ⟨c, t, htext, -, hfirst⟩
  rw [htext, scanFrom, segments_cons, hfirst, tokensFrom]
  rfl

/-! ## Cuts -/

/-- A cut of a text: white space, a block, white space, a block and so on, and white space at the
end. -/
inductive Cut
  | last (gap : Text)
  | block (gap : Text) (segment : Segment) (rest : Cut)
deriving DecidableEq, Repr

namespace Cut

/-- The text that is cut. -/
def text : Cut → Text
  | last gap => gap
  | block gap segment rest => gap ++ (segment.text ++ rest.text)

/-- The blocks of a cut, in order. -/
def blocks : Cut → List Segment
  | last _ => []
  | block _ segment rest => segment :: rest.blocks

/-- The gaps of a cut are white space and its blocks are complete. -/
def Complete (mode : QuoteMode) : Cut → Prop
  | last gap => IsBlank gap
  | block gap segment rest => IsBlank gap ∧ segment.Fits mode rest.text ∧ rest.Complete mode

/-- The tokens of the blocks of a cut, each where its block stands. -/
def tokens (l : Location) : Cut → List Token
  | last _ => []
  | block gap segment rest =>
    segment.tokens (l.after gap) ++ rest.tokens (l.after (gap ++ segment.text))

/-- Every text has a complete cut. -/
theorem exists_complete (mode : QuoteMode) (t : Text) :
    ∃ cut : Cut, cut.text = t ∧ cut.Complete mode := by
  induction hlength : t.length using Nat.strong_induction_on generalizing t with
  | _ n ih =>
    rcases Segment.exists_block mode t with ht | ⟨gap, s, rest, hgap, hfits, rfl, hlt⟩
    · exact ⟨last t, rfl, ht⟩
    · rcases ih rest.length (hlength ▸ hlt) rest rfl with ⟨cut, rfl, hcut⟩
      exact ⟨block gap s cut, rfl, hgap, hfits, hcut⟩

/-- Where a complete block stands, white space has ended. -/
theorem stops_of_fits (h : s.Fits mode rest) : Stops isWhiteSpace (s.text ++ rest) := by
  rcases Segment.first_of_fits h with ⟨c, t, htext, hspace, -⟩
  rw [htext]
  exact hspace

/-- A complete block is not empty, so no white space is the same text. -/
theorem not_isBlank_of_fits (h : s.Fits mode rest) : ¬ IsBlank (w ++ (s.text ++ rest)) := by
  rcases Segment.first_of_fits h with ⟨c, t, htext, hspace, -⟩
  rw [htext]
  intro hblank
  have hc := hblank c (by simp)
  rw [hspace] at hc
  contradiction

/-- A text has no more than one complete cut. -/
theorem eq_of_complete {cut other : Cut} (hcut : cut.Complete mode) (hother : other.Complete mode)
    (h : cut.text = other.text) : cut = other := by
  induction cut generalizing other with
  | last gap =>
    cases other with
    | last gap' => exact congrArg last h
    | block gap' s' rest' =>
      rw [text, text] at h
      exact absurd (h ▸ hcut) (not_isBlank_of_fits hother.2.1)
  | block gap s rest ih =>
    rcases hcut with ⟨hgap, hfits, hrest⟩
    cases other with
    | last gap' =>
      rw [text, text] at h
      exact absurd (h ▸ hother) (not_isBlank_of_fits hfits)
    | block gap' s' rest' =>
      rcases hother with ⟨hgap', hfits', hrest'⟩
      have hgaps := append_inj_of_stops hgap (stops_of_fits hfits) hgap' (stops_of_fits hfits') h
      rcases Segment.first_of_fits hfits with ⟨c, t, htext, -, hfirst⟩
      rcases Segment.first_of_fits hfits' with ⟨c', t', htext', -, hfirst'⟩
      rw [htext, htext', List.cons.injEq] at hgaps
      rcases hgaps with ⟨rfl, rfl, rfl⟩
      rw [hfirst, Prod.mk.injEq] at hfirst'
      rcases hfirst' with ⟨rfl, hrests⟩
      rw [ih hrest hrest' hrests]

/-- The tokens of a text are those of the blocks of its complete cut. -/
theorem scanFrom_text {cut : Cut} (l : Location) (hcut : cut.Complete mode) :
    scanFrom mode l cut.text = cut.tokens l := by
  induction cut generalizing l with
  | last gap => exact scanFrom_of_isBlank l hcut
  | block gap s rest ih =>
    rcases hcut with ⟨hgap, hfits, hrest⟩
    rw [text, scanFrom_blank l hgap, scanFrom_block _ hfits, ih _ hrest, tokens,
      Location.after_append]

/-- The tokens of a text are those of its complete cut. -/
theorem scan_text {cut : Cut} (hcut : cut.Complete mode) :
    scan mode cut.text = cut.tokens .start :=
  scanFrom_text .start hcut

/-- Every text has exactly one complete cut. -/
theorem exists_unique_complete (mode : QuoteMode) (t : Text) :
    ∃ cut : Cut, cut.Complete mode ∧
      ∀ other : Cut, other.text = t ∧ other.Complete mode ↔ other = cut := by
  rcases exists_complete mode t with ⟨cut, rfl, hcut⟩
  refine ⟨cut, hcut, ?_⟩
  intro other
  constructor
  · intro h
    exact eq_of_complete h.2 hcut h.1
  · rintro rfl
    exact ⟨rfl, hcut⟩

end Cut

/-! ## What the blocks give -/

/-- A token without its place. -/
structure Entry where
  code : Code
  lexeme : Text
  fault : Option Fault
deriving DecidableEq, Repr

/-- What a token says apart from its place. -/
def Token.entry (token : Token) : Entry :=
  ⟨token.code, token.lexeme, token.fault⟩

namespace Segment

/-- A word gives the keyword or identifier that its ASCII letters, digits and underscores spell,
and behind it an error for each of its other letters. -/
def wordEntries (word : Text) : List Entry :=
  ⟨if word.filter isNameChar = "List".toList then .keyword else .identifier,
      word.filter isNameChar, none⟩ ::
    (word.filter (!isNameChar ·)).map fun c => ⟨.error, [c], some .invalidIdentifierCharacter⟩

/-- A character that stands alone gives a quote marker, its punctuation, or an error. -/
def markEntry (c : Char) : Entry :=
  if c = '"' then ⟨.quoteMarker, [c], none⟩
  else
    match Code.ofPunctuation? c with
    | some code => ⟨code, [c], none⟩
    | none => ⟨.error, [c], some .invalidCharacter⟩

/-- What a block gives. -/
def entries : Segment → List Entry
  | blank _ => []
  | word text => wordEntries text
  | number text => [⟨if '.' ∈ text then .float else .integer, text, none⟩]
  | quoted body true => [⟨.stringLiteral, body, none⟩]
  | quoted body false => [⟨.error, body, some .unterminatedString⟩]
  | mark c => [markEntry c]

/-- The errors of a word are those of the letters that are not part of its lexeme. -/
theorem entry_foreignLetters (l : Location) (word : Text) :
    (foreignLetters l word).map Token.entry =
      (word.filter (!isNameChar ·)).map fun c =>
        ⟨.error, [c], some .invalidIdentifierCharacter⟩ := by
  induction word generalizing l with
  | nil => rfl
  | cons c word ih =>
    rw [foreignLetters_cons, List.map_append, ih]
    by_cases hc : isNameChar c = true <;> simp [hc, Token.faulty, Token.entry]

/-- The entries of the tokens of a word do not depend on where it stands. -/
theorem entry_wordTokens (l : Location) (word : Text) :
    (wordTokens l word).map Token.entry = wordEntries word := by
  simp only [wordTokens, wordEntries, List.map_cons, entry_foreignLetters]
  simp [Token.sound, Token.entry, Code.ofWord, Code.keywords]

/-- Neither does that of a character alone. -/
theorem entry_markToken (l : Location) (c : Char) :
    (markToken l c).entry = markEntry c := by
  simp only [markToken, markEntry]
  split
  · rfl
  · cases Code.ofPunctuation? c <;> rfl

/-- There is no point among digits. -/
theorem point_notMem {whole : Text} (hwhole : IsDigits whole) : '.' ∉ whole := by
  intro hpoint
  have hdigit := hwhole.2 _ hpoint
  contradiction

/-- Digits alone are an integer. -/
theorem numberToken_integer (l : Location) {whole : Text} (hwhole : IsDigits whole) :
    numberToken l whole = .sound .integer whole (.ofLength l whole.length) := by
  rcases List.exists_cons_of_ne_nil hwhole.1 with ⟨d, ds, rfl⟩
  have hd := hwhole.2 d List.mem_cons_self
  simp only [numberToken]
  rw [if_neg (by simp [hd]), if_neg (point_notMem hwhole)]

/-- Digits with a point behind them are a float. -/
theorem numberToken_float (l : Location) {whole decimals : Text} (hwhole : IsDigits whole) :
    numberToken l (whole ++ '.' :: decimals) =
      .sound .float (whole ++ '.' :: decimals)
        (.ofLength l (whole ++ '.' :: decimals).length) := by
  rcases List.exists_cons_of_ne_nil hwhole.1 with ⟨d, ds, rfl⟩
  have hd := hwhole.2 d List.mem_cons_self
  simp only [numberToken]
  rw [if_neg (by simp [hd]), if_pos (by simp)]

/-- Wherever a complete block stands, its tokens say what the block gives. -/
theorem entry_tokens (l : Location) (h : s.Fits mode rest) :
    (s.tokens l).map Token.entry = s.entries := by
  cases h with
  | word => exact entry_wordTokens l _
  | integer hwhole =>
    rw [tokens, numberToken_integer l hwhole]
    simp [Token.sound, Token.entry, entries, point_notMem hwhole]
  | float hwhole =>
    rw [tokens, numberToken_float l hwhole]
    simp [Token.sound, Token.entry, entries]
  | closed => rfl
  | unclosed => rfl
  | mark => exact congrArg (· :: []) (entry_markToken l _)

end Segment

/-- The entries of a complete cut are those of its blocks, one after another. -/
theorem Cut.entry_tokens {cut : Cut} (l : Location) (hcut : cut.Complete mode) :
    (cut.tokens l).map Token.entry = cut.blocks.flatMap Segment.entries := by
  induction cut generalizing l with
  | last gap => rfl
  | block gap s rest ih =>
    rcases hcut with ⟨-, hfits, hrest⟩
    rw [tokens, List.map_append, Segment.entry_tokens _ hfits, ih _ hrest, blocks,
      List.flatMap_cons]

/-- Every text has exactly one cut into white space and complete blocks.  Its tokens are those of
the blocks where they stand, and they say what the blocks give. -/
theorem scan_eq_tokens_of_unique_cut (mode : QuoteMode) (t : Text) :
    ∃ cut : Cut, (∀ other : Cut, other.text = t ∧ other.Complete mode ↔ other = cut) ∧
      scan mode t = cut.tokens .start ∧
        (scan mode t).map Token.entry = cut.blocks.flatMap Segment.entries := by
  rcases Cut.exists_unique_complete mode t with ⟨cut, hcut, hunique⟩
  rcases (hunique cut).mpr rfl with ⟨rfl, -⟩
  refine ⟨cut, hunique, Cut.scan_text hcut, ?_⟩
  rw [Cut.scan_text hcut, Cut.entry_tokens _ hcut]

end TypedList
