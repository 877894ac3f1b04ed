import TypedList.Proofs.Blocks
import TypedList.Proofs.Locations
import TypedList.Proofs.TokenGrammar

/-!
# The first token of a text

How the first token of a text and what the text begins with tell each other.  A name, a number, a
string or a delimiter at the start of a text is its first token, and from the code of the first
token follows which of them the text begins with.

Main results:

- Theorems `scanFrom_name`, `scanFrom_number`, `scanFrom_string` and `scanFrom_mark`: from what a
  text begins with to its first token.
- Theorems `name_of_scanFrom`, `number_of_scanFrom`, `string_of_scanFrom` and `mark_of_scanFrom`:
  from the first token to what the text begins with.
-/

namespace TypedList

variable {mode : QuoteMode} {s : Segment} {l : Location} {c : Char} {code : Code}
  {token : Token} {tokens : List Token} {w t rest : Text}

/-! ## Characters that are tokens -/

/-- The character that a token of the code is, if there is only one. -/
def Code.char? : Code → Option Char
  | assign => some '='
  | openBracket => some '['
  | closeBracket => some ']'
  | comma => some ','
  | semicolon => some ';'
  | plus => some '+'
  | minus => some '-'
  | _ => none

/-- The character of a code is the one that gives the code. -/
theorem Code.char?_eq_some : code.char? = some c ↔ Code.ofPunctuation? c = some code := by
  constructor
  · intro h
    cases code <;> simp [char?] at h <;> subst h <;> rfl
  · intro h
    unfold ofPunctuation? at h
    split at h <;> simp at h <;> subst h <;> rfl

/-- A word is an identifier or a keyword. -/
theorem Code.ofWord_cases (word : Text) :
    Code.ofWord word = .identifier ∨ Code.ofWord word = .keyword := by
  unfold ofWord
  split
  · exact Or.inr rfl
  · exact Or.inl rfl

/-- A character that is a token is a complete block wherever it stands. -/
theorem Segment.fits_mark (h : code.char? = some c) : (mark c).Fits mode rest := by
  cases code <;> simp [Code.char?] at h
  all_goals
    subst h
    exact .mark rfl rfl rfl (by simp)

/-- A character that is a token by itself gives that token. -/
theorem Segment.markToken_of_char? (h : code.char? = some c) :
    markToken l c = .sound code [c] (.ofLength l 1) := by
  rw [Code.char?_eq_some] at h
  have hquote : c ≠ '"' := by
    intro heq
    subst heq
    simp [Code.ofPunctuation?] at h
  simp only [markToken]
  rw [if_neg hquote, h]

/-! ## From the text to its tokens -/

/-- A character that is a token and stands behind white space is the first token. -/
theorem scanFrom_mark (l : Location) (hw : IsBlank w) (h : code.char? = some c) :
    scanFrom mode l (w ++ c :: rest) =
      .sound code [c] (.ofLength (l.after w) 1) ::
        scanFrom mode (l.after (w ++ [c])) rest := by
  have hfits : (Segment.mark c).Fits mode rest := Segment.fits_mark h
  have hblock := scanFrom_block (l.after w) hfits
  rw [scanFrom_blank l hw, Location.after_append]
  rw [Segment.tokens, Segment.markToken_of_char? h] at hblock
  exact hblock

/-- A quoted text is a string. -/
theorem scanFrom_string (l : Location) (rest : Text) {body : Text} (hbody : '"' ∉ body) :
    ∃ span l', scanFrom .literal l ('"' :: body ++ ['"'] ++ rest) =
      .sound .stringLiteral body span :: scanFrom .literal l' rest :=
  ⟨_, _, scanFrom_block l (.closed rfl hbody)⟩

/-- Whether a character may carry a number on. -/
def continuesNumber (c : Char) : Bool :=
  c.isDigit || c = '.'

/-- Where no number goes on, neither digits nor a point do. -/
theorem stops_of_stops_number (h : Stops continuesNumber t) :
    Stops Char.isDigit t ∧ Stops (· = '.') t := by
  constructor
  · exact h.mono fun c hc => by simp [continuesNumber, hc]
  · exact h.mono fun c hc => by simpa [continuesNumber] using Or.inr hc

/-- White space and every other character end a number. -/
theorem stops_number (hw : IsBlank w) (hc : continuesNumber c = false) :
    Stops continuesNumber (w ++ c :: rest) := by
  have hmark : Stops continuesNumber (c :: rest) := hc
  apply stops_append_of_isBlank hw hmark
  intro d hd
  have hpoint : decide (d = '.') = false := eq_false_of_isWhiteSpace rfl hd
  simp [continuesNumber, isDigit_of_isWhiteSpace hd, hpoint]

/-- A number as the grammar wants it is one token, unless more digits or a point follow. -/
theorem scanFrom_number (l : Location) {unsigned : Text} (hunsigned : IsUnsigned unsigned)
    (hrest : Stops continuesNumber rest) :
    ∃ number l', number.IsNumber ∧ number.EndsInDigit ∧
      number.span = .ofLength l unsigned.length ∧
        scanFrom .literal l (unsigned ++ rest) = number :: scanFrom .literal l' rest := by
  rcases stops_of_stops_number hrest with ⟨hdigit, hpoint⟩
  cases hunsigned with
  | integer hwhole =>
    have hfits : (Segment.number unsigned).Fits .literal rest := .integer hwhole hdigit hpoint
    have hblock := scanFrom_block l hfits
    rw [Segment.tokens, Segment.numberToken_integer l hwhole] at hblock
    exact ⟨_, _, Or.inl rfl, by simp [Token.EndsInDigit, Token.sound], rfl, hblock⟩
  | @float whole decimals hwhole hdecimals =>
    have hfits : (Segment.number (whole ++ '.' :: decimals)).Fits .literal rest :=
      .float hwhole hdecimals.2 hdigit
    have hblock := scanFrom_block l hfits
    rw [Segment.tokens, Segment.numberToken_float l hwhole] at hblock
    refine ⟨_, _, Or.inr rfl, ?_, rfl, hblock⟩
    intro _ hlast
    have hmem : '.' ∈ decimals := by
      simp only [Token.sound] at hlast
      rw [List.getLast?_append_of_ne_nil _ (List.cons_ne_nil _ _),
        List.getLast?_cons_of_ne_nil hdecimals.1] at hlast
      exact List.mem_of_getLast? hlast
    exact Segment.point_notMem hdecimals hmem

/-- White space and punctuation end a word. -/
theorem stops_word (hw : IsBlank w) (hc : isWordChar c = false) :
    Stops isWordChar (w ++ c :: rest) := by
  have hmark : Stops isWordChar (c :: rest) := hc
  exact stops_append_of_isBlank hw hmark fun _ => isWordChar_of_isWhiteSpace

/-- A letter belongs to the lexeme of its word. -/
theorem isNameChar_of_isAlpha (h : c.isAlpha = true) : isNameChar c = true := by
  simp [isNameChar, isAlphanum_of_isAlpha h]

/-- A word has no errors behind it exactly when every character belongs to its lexeme. -/
theorem Segment.foreignLetters_eq_nil {word : Text} :
    foreignLetters l word = [] ↔ ∀ c ∈ word, isNameChar c = true := by
  have hentries := entry_foreignLetters l word
  rw [← List.map_eq_nil_iff (f := Token.entry), hentries, List.map_eq_nil_iff]
  simp

/-- A name as the grammar wants it is one token, unless the word goes on behind it. -/
theorem scanFrom_name (l : Location) {name : Text} (hname : IsName name)
    (hrest : Stops isWordChar rest) :
    ∃ l', scanFrom mode l (name ++ rest) =
      .sound (.ofWord name) name (.ofLength l name.length) :: scanFrom mode l' rest := by
  rcases hname with ⟨hne, hletters⟩
  have hchars : ∀ c ∈ name, isNameChar c = true :=
    fun c hc => isNameChar_of_isAlpha (hletters c hc)
  have hfits : (Segment.word name).Fits mode rest := by
    rcases List.exists_cons_of_ne_nil hne with ⟨d, ds, rfl⟩
    refine .word (hletters d List.mem_cons_self) ?_ hrest
    intro c hc
    simp [isWordChar, hchars c (List.mem_cons_of_mem d hc)]
  have hblock := scanFrom_block l hfits
  rw [Segment.tokens, Segment.wordTokens, Segment.foreignLetters_eq_nil.mpr hchars,
    List.filter_eq_self.mpr hchars] at hblock
  exact ⟨_, hblock⟩

/-! ## From the tokens to the text -/

/-- Every block has a token. -/
theorem Segment.tokens_ne_nil (h : s.Fits mode rest) : s.tokens l ≠ [] := by
  cases h <;> simp [tokens, wordTokens]

/-- A text without tokens is white space. -/
theorem isBlank_of_scanFrom (h : scanFrom mode l t = []) : IsBlank t := by
  rcases Segment.exists_block mode t with hblank | ⟨gap, s, rest, hgap, hfits, rfl, -⟩
  · exact hblank
  · rw [scanFrom_blank l hgap, scanFrom_block _ hfits, List.append_eq_nil_iff] at h
    exact absurd h.1 (Segment.tokens_ne_nil hfits)

/-- The first token of a text is the first one of its first block. -/
theorem first_block (h : scanFrom mode l t = token :: tokens) :
    ∃ (gap : Text) (s : Segment) (rest : Text) (extra : List Token), IsBlank gap ∧
      s.Fits mode rest ∧ t = gap ++ (s.text ++ rest) ∧ s.tokens (l.after gap) = token :: extra ∧
        tokens = extra ++ scanFrom mode (l.after (gap ++ s.text)) rest := by
  rcases Segment.exists_block mode t with hblank | ⟨gap, s, rest, hgap, hfits, rfl, -⟩
  · rw [scanFrom_of_isBlank l hblank] at h
    contradiction
  · rw [scanFrom_blank l hgap, scanFrom_block _ hfits] at h
    rcases htokens : s.tokens (l.after gap) with - | ⟨other, extra⟩
    · exact absurd htokens (Segment.tokens_ne_nil hfits)
    · rw [htokens, List.cons_append, List.cons.injEq] at h
      rcases h with ⟨rfl, rfl⟩
      exact ⟨gap, s, rest, extra, hgap, hfits, rfl, htokens, by rw [Location.after_append]⟩

/-- The codes that the first token of a block may have, where quoted texts are strings. -/
def Segment.Bears : Segment → Code → Prop
  | .blank _, _ => False
  | .word _, code => code = .identifier ∨ code = .keyword
  | .number _, code => code = .integer ∨ code = .float
  | .quoted _ true, code => code = .stringLiteral
  | .quoted _ false, code => code = .error
  | .mark c, code => code.char? = some c ∨ code = .error

/-- The first token of a block has one of the codes for its kind. -/
theorem Segment.bears_of_tokens {extra : List Token} (hfits : s.Fits .literal rest)
    (h : s.tokens l = token :: extra) : s.Bears token.code := by
  cases hfits with
  | word =>
    rw [tokens, wordTokens, List.cons.injEq] at h
    rw [← h.1]
    exact Code.ofWord_cases _
  | integer hwhole =>
    rw [tokens, numberToken_integer l hwhole, List.cons.injEq] at h
    rw [← h.1]
    exact Or.inl rfl
  | float hwhole =>
    rw [tokens, numberToken_float l hwhole, List.cons.injEq] at h
    rw [← h.1]
    exact Or.inr rfl
  | closed =>
    simp only [tokens, if_true, List.cons.injEq] at h
    rw [← h.1]
    rfl
  | unclosed =>
    simp only [tokens, Bool.false_eq_true, if_false, List.cons.injEq] at h
    rw [← h.1]
    rfl
  | @mark c _ _ _ _ hquote =>
    rw [tokens, List.cons.injEq] at h
    rw [← h.1]
    simp only [markToken]
    rw [if_neg (by simpa using hquote)]
    cases hcode : Code.ofPunctuation? c with
    | none => exact Or.inr rfl
    | some code => exact Or.inl (Code.char?_eq_some.mpr hcode)

/-- A token of one character comes from that character. -/
theorem mark_of_scanFrom (hc : token.code.char? = some c)
    (h : scanFrom .literal l t = token :: tokens) :
    ∃ gap rest, IsBlank gap ∧ t = gap ++ c :: rest ∧ token.span = .ofLength (l.after gap) 1 ∧
      tokens = scanFrom .literal (l.after (gap ++ [c])) rest := by
  rcases first_block h with ⟨gap, s, rest, extra, hgap, hfits, rfl, htokens, rfl⟩
  have hbears := Segment.bears_of_tokens hfits htokens
  cases hfits with
  | mark =>
    rename_i d _ _ _ _
    rcases hbears with hd | herror
    · rw [hc, Option.some.injEq] at hd
      subst hd
      rw [Segment.tokens, Segment.markToken_of_char? hc, List.cons.injEq] at htokens
      refine ⟨gap, rest, hgap, rfl, ?_, ?_⟩
      · rw [← htokens.1]
        rfl
      · rw [← htokens.2]
        rfl
    · rw [herror] at hc
      contradiction
  | word | integer | float => rcases hbears with h | h <;> rw [h] at hc <;> contradiction
  | closed | unclosed => rw [hbears] at hc; contradiction

/-- A string token comes from a text in double quotes. -/
theorem string_of_scanFrom (hcode : token.code = .stringLiteral)
    (h : scanFrom .literal l t = token :: tokens) :
    ∃ gap body rest l', IsBlank gap ∧ '"' ∉ body ∧ t = gap ++ ('"' :: body ++ ['"'] ++ rest) ∧
      tokens = scanFrom .literal l' rest := by
  rcases first_block h with ⟨gap, s, rest, extra, hgap, hfits, rfl, htokens, rfl⟩
  have hbears := Segment.bears_of_tokens hfits htokens
  rw [hcode] at hbears
  cases hfits with
  | closed hmode hbody =>
    simp only [Segment.tokens, if_true, List.cons.injEq] at htokens
    rw [← htokens.2]
    exact ⟨gap, _, rest, _, hgap, hbody, rfl, rfl⟩
  | word | integer | float | mark => rcases hbears with h | h <;> contradiction
  | unclosed => contradiction

/-- A number token that does not end in a point comes from a number as the grammar wants it. -/
theorem number_of_scanFrom (hcode : token.IsNumber) (hdigit : token.EndsInDigit)
    (h : scanFrom .literal l t = token :: tokens) :
    ∃ gap number rest l', IsBlank gap ∧ IsUnsigned number ∧ t = gap ++ (number ++ rest) ∧
      token.span = .ofLength (l.after gap) number.length ∧
        tokens = scanFrom .literal l' rest := by
  rcases first_block h with ⟨gap, s, rest, extra, hgap, hfits, rfl, htokens, rfl⟩
  have hbears := Segment.bears_of_tokens hfits htokens
  cases hfits with
  | integer hwhole =>
    rw [Segment.tokens, Segment.numberToken_integer _ hwhole, List.cons.injEq] at htokens
    rcases htokens with ⟨rfl, rfl⟩
    exact ⟨gap, _, rest, _, hgap, .integer hwhole, rfl, rfl, rfl⟩
  | @float whole decimals _ hwhole hdecimals =>
    rw [Segment.tokens, Segment.numberToken_float _ hwhole, List.cons.injEq] at htokens
    rcases htokens with ⟨rfl, rfl⟩
    have hne : decimals ≠ [] := by
      intro heq
      subst heq
      exact hdigit rfl (by simp [Token.sound])
    exact ⟨gap, _, rest, _, hgap, .float hwhole ⟨hne, hdecimals⟩, rfl, rfl, rfl⟩
  | word | closed | unclosed | mark =>
    rcases hcode with hcode | hcode <;> rw [hcode] at hbears <;>
      simp [Segment.Bears, Code.char?] at hbears

/-- A name token of letters comes from a name, if no error for another letter stands behind it. -/
theorem name_of_scanFrom (hcode : token.code = .identifier ∨ token.code = .keyword)
    (hletters : ∀ c ∈ token.lexeme, c.isAlpha = true)
    (h : scanFrom .literal l t = token :: tokens)
    (hnext : ∀ next ∈ tokens.head?, next.fault ≠ some .invalidIdentifierCharacter) :
    ∃ gap name rest l', IsBlank gap ∧ IsName name ∧ t = gap ++ (name ++ rest) ∧
      tokens = scanFrom .literal l' rest := by
  rcases first_block h with ⟨gap, s, rest, extra, hgap, hfits, rfl, htokens, rfl⟩
  have hbears := Segment.bears_of_tokens hfits htokens
  cases hfits with
  | @word letter tail _ hletter =>
    rw [Segment.tokens, Segment.wordTokens, List.cons.injEq] at htokens
    rcases htokens with ⟨rfl, rfl⟩
    have hnil : Segment.foreignLetters (l.after gap) (letter :: tail) = [] := by
      by_contra hne
      rcases List.exists_cons_of_ne_nil hne with ⟨error, errors, herrors⟩
      have hmem : error.entry ∈
          (Segment.foreignLetters (l.after gap) (letter :: tail)).map Token.entry := by
        rw [herrors]
        exact List.mem_cons_self
      rw [Segment.entry_foreignLetters, List.mem_map] at hmem
      rcases hmem with ⟨d, -, hentry⟩
      rw [herrors] at hnext
      exact hnext error rfl (congrArg Entry.fault hentry).symm
    have hchars := Segment.foreignLetters_eq_nil.mp hnil
    simp only [Token.sound] at hletters
    rw [List.filter_eq_self.mpr hchars] at hletters
    rw [hnil]
    exact ⟨gap, _, rest, _, hgap, ⟨List.cons_ne_nil _ _, hletters⟩, rfl, rfl⟩
  | integer | float | closed | unclosed | mark =>
    rcases hcode with hcode | hcode <;> rw [hcode] at hbears <;>
      simp [Segment.Bears, Code.char?] at hbears

end TypedList
