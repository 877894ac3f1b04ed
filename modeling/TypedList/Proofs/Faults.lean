import Mathlib.Algebra.Ring.Parity
import TypedList.Proofs.Reports
import TypedList.Proofs.Respelling

/-!
# The faults of tokens

Which tokens of a text are errors, and why.  Every number has digits, a string is left open only
where the double quotes of the text do not pair up, and then at its end, and the error for a letter
that cannot stand in a name follows the word that the letter stands in.

Main results:

- Theorem `Disciplined.append`: the faults of two parts of a text are those of the text, unless a
  string goes on across the border.
- Theorem `Segment.disciplined_tokens`: the faults of a complete block.
- Theorem `scan_disciplined`: the faults of the tokens of a text, and its quotes.
-/

namespace TypedList

/-! ## What is said of faults -/

/-- Behind the given tokens stands the error for a letter inside a word: of the tokens before it,
the last one that is no such error is a word on the same line, and it takes up the column of the
error, but not as its first one. -/
def Token.InsideWord (before : List Token) (token : Token) : Prop :=
  ∃ earlier word letters, before = earlier ++ word :: letters ∧
    (∀ letter ∈ letters, letter.fault = some .invalidIdentifierCharacter) ∧
    word.fault ≠ some .invalidIdentifierCharacter ∧
    (word.code = .identifier ∨ word.code = .keyword) ∧
    word.span.line = token.span.line ∧ word.span.startColumn < token.span.startColumn ∧
    token.span.startColumn ≤ word.span.endColumn

/-- The lexeme of the token is one letter beyond ASCII, which takes up one column. -/
def Token.IsForeignLetter (token : Token) : Prop :=
  token.span.startColumn = token.span.endColumn ∧
    ∃ c, token.lexeme = [c] ∧ isAlphabetic c = true ∧ 128 ≤ c.toNat

/-- What the faults of the tokens of a text say. -/
structure Disciplined (mode : QuoteMode) (t : Text) (tokens : List Token) : Prop where
  /-- The errors have faults, and no other token has. -/
  faults : ∀ token ∈ tokens, token.FaultMatches
  /-- Every number has digits. -/
  numbers : ∀ token ∈ tokens, token.fault ≠ some .malformedNumber
  /-- A string is left open where strings are read and the quotes do not pair up. -/
  openString : (∃ token ∈ tokens, token.fault = some .unterminatedString) ↔
    mode = .literal ∧ Odd (t.count '"')
  /-- It is the only one, and nothing follows it. -/
  last : ∀ before token behind, tokens = before ++ token :: behind →
    token.fault = some .unterminatedString →
      behind = [] ∧ ∀ other ∈ before, other.fault ≠ some .unterminatedString
  /-- Every quote is a token where strings are not read. -/
  quoteMarkers : tokens.countP (·.code = .quoteMarker) =
    if mode = .marker then t.count '"' else 0
  /-- Every pair of quotes is a token where strings are read. -/
  stringLiterals : tokens.countP (·.code = .stringLiteral) =
    if mode = .literal then t.count '"' / 2 else 0
  /-- Letters that cannot stand in a name are found inside words. -/
  letters : ∀ before token behind, tokens = before ++ token :: behind →
    token.fault = some .invalidIdentifierCharacter →
      token.IsForeignLetter ∧ token.InsideWord before

/-! ## Parts of a text -/

/-- A place in two lists, one behind the other, is a place in one of them. -/
theorem append_eq_split {xs ys before behind : List Token} {token : Token}
    (h : xs ++ ys = before ++ token :: behind) :
    (∃ between, xs = before ++ token :: between) ∨
      ∃ between, before = xs ++ between ∧ ys = between ++ token :: behind := by
  rcases List.append_eq_append_iff.mp h with ⟨between, hbefore, hys⟩ | ⟨between, hxs, hbehind⟩
  · exact Or.inr ⟨between, hbefore, hys⟩
  · cases between with
    | nil =>
      rw [List.append_nil] at hxs
      exact Or.inr ⟨[], by rw [hxs, List.append_nil], hbehind.symm⟩
    | cons x between =>
      rw [List.cons_append, List.cons.injEq] at hbehind
      exact Or.inl ⟨between, by rw [hxs, ← hbehind.1]⟩

/-- A letter stays inside its word if more tokens are put in front. -/
theorem Token.InsideWord.behind {before : List Token} {token : Token} (h : token.InsideWord before)
    (xs : List Token) : token.InsideWord (xs ++ before) := by
  rcases h with ⟨earlier, word, letters, rfl, hword⟩
  exact ⟨xs ++ earlier, word, letters, by rw [List.append_assoc], hword⟩

namespace Disciplined

variable {mode : QuoteMode} {u v : Text} {xs ys : List Token}

/-- Where the quotes pair up, no string is left open. -/
theorem fault_ne_unterminated (h : Disciplined mode u xs)
    (heven : mode = .literal → Even (u.count '"')) :
    ∀ token ∈ xs, token.fault ≠ some .unterminatedString := by
  intro token htoken hfault
  rcases h.openString.mp ⟨token, htoken, hfault⟩ with ⟨hmode, hodd⟩
  exact Nat.not_even_iff_odd.mpr hodd (heven hmode)

/-- The faults of two parts of a text, one behind the other, are those of the text, unless a string
goes on from the first into the second. -/
theorem append (hu : Disciplined mode u xs) (hv : Disciplined mode v ys)
    (heven : mode = .literal → Even (u.count '"')) : Disciplined mode (u ++ v) (xs ++ ys) := by
  have hnone := hu.fault_ne_unterminated heven
  constructor
  case faults =>
    intro token htoken
    rcases List.mem_append.mp htoken with htoken | htoken
    · exact hu.faults token htoken
    · exact hv.faults token htoken
  case numbers =>
    intro token htoken
    rcases List.mem_append.mp htoken with htoken | htoken
    · exact hu.numbers token htoken
    · exact hv.numbers token htoken
  case openString =>
    have hopen : (∃ token ∈ xs ++ ys, token.fault = some .unterminatedString) ↔
        ∃ token ∈ ys, token.fault = some .unterminatedString := by
      constructor
      · rintro ⟨token, htoken, hfault⟩
        rcases List.mem_append.mp htoken with htoken | htoken
        · exact absurd hfault (hnone token htoken)
        · exact ⟨token, htoken, hfault⟩
      · rintro ⟨token, htoken, hfault⟩
        exact ⟨token, List.mem_append_right xs htoken, hfault⟩
    rw [hopen, hv.openString, List.count_append]
    refine and_congr_right fun hmode => ?_
    rw [Nat.odd_add', iff_true_right (heven hmode)]
  case last =>
    intro before token behind hsplit hfault
    rcases append_eq_split hsplit with ⟨between, hxs⟩ | ⟨between, rfl, hys⟩
    · exact absurd hfault (hnone token (by rw [hxs]; simp))
    · rcases hv.last between token behind hys hfault with ⟨hbehind, hbetween⟩
      refine ⟨hbehind, ?_⟩
      intro other hother
      rcases List.mem_append.mp hother with hother | hother
      · exact hnone other hother
      · exact hbetween other hother
  case quoteMarkers =>
    rw [List.countP_append, hu.quoteMarkers, hv.quoteMarkers, List.count_append]
    split <;> rfl
  case stringLiterals =>
    rw [List.countP_append, hu.stringLiterals, hv.stringLiterals, List.count_append]
    split <;> rename_i hmode
    · obtain ⟨m, hm⟩ := heven hmode
      omega
    · rfl
  case letters =>
    intro before token behind hsplit hfault
    rcases append_eq_split hsplit with ⟨between, hxs⟩ | ⟨between, rfl, hys⟩
    · exact hu.letters before token between hxs hfault
    · rcases hv.letters between token behind hys hfault with ⟨hletter, hinside⟩
      exact ⟨hletter, hinside.behind xs⟩

/-- White space has no tokens and no quotes. -/
theorem nil (hquotes : u.count '"' = 0) : Disciplined mode u [] where
  faults _ htoken := absurd htoken List.not_mem_nil
  numbers _ htoken := absurd htoken List.not_mem_nil
  openString := by simp [hquotes]
  last _ _ _ hsplit := by simp at hsplit
  quoteMarkers := by simp [hquotes]
  stringLiterals := by simp [hquotes]
  letters _ _ _ hsplit := by simp at hsplit

/-- One token that is no letter inside a word. -/
theorem single {token : Token} (hfaults : token.FaultMatches)
    (hnumber : token.fault ≠ some .malformedNumber)
    (hletter : token.fault ≠ some .invalidIdentifierCharacter)
    (hopen : token.fault = some .unterminatedString ↔ mode = .literal ∧ Odd (u.count '"'))
    (hmarker : [token].countP (·.code = .quoteMarker) = if mode = .marker then u.count '"' else 0)
    (hliteral : [token].countP (·.code = .stringLiteral) =
      if mode = .literal then u.count '"' / 2 else 0) : Disciplined mode u [token] where
  faults other hother := List.mem_singleton.mp hother ▸ hfaults
  numbers other hother := List.mem_singleton.mp hother ▸ hnumber
  openString := by simpa using hopen
  last before other behind hsplit _ := by
    rcases List.append_eq_singleton_iff.mp hsplit.symm with ⟨rfl, hbehind⟩ | ⟨-, hbehind⟩
    · exact ⟨List.tail_eq_of_cons_eq hbehind, fun _ h => absurd h List.not_mem_nil⟩
    · exact absurd hbehind (List.cons_ne_nil _ _)
  quoteMarkers := hmarker
  stringLiterals := hliteral
  letters before other behind hsplit hfault := by
    have hother : other ∈ [token] := by
      rw [hsplit]
      simp
    rw [List.mem_singleton] at hother
    exact absurd (hother ▸ hfault) hletter

/-- One token without a quote that is no letter inside a word. -/
theorem plain {token : Token} (hquotes : u.count '"' = 0) (hfaults : token.FaultMatches)
    (hfault : token.fault = none ∨ token.fault = some .invalidCharacter)
    (hcode : token.code ∉ [.quoteMarker, .stringLiteral]) : Disciplined mode u [token] := by
  simp only [List.mem_cons, List.not_mem_nil, or_false, not_or] at hcode
  refine single hfaults ?_ ?_ ?_ (by simp [hquotes, hcode.1]) (by simp [hquotes, hcode.2])
  · rcases hfault with hfault | hfault <;> simp [hfault]
  · rcases hfault with hfault | hfault <;> simp [hfault]
  · rcases hfault with hfault | hfault <;> simp [hfault, hquotes]

end Disciplined

/-- A sound token of any code but `error` matches it by having no fault. -/
theorem Token.faultMatches_sound {code : Code} (hcode : code ≠ .error) (lexeme : Text)
    (span : Span) : (sound code lexeme span).FaultMatches :=
  iff_of_false Bool.false_ne_true hcode

/-- An error token has the fault that it was made with. -/
theorem Token.faultMatches_faulty (fault : Fault) (lexeme : Text) (span : Span) :
    (faulty fault lexeme span).FaultMatches :=
  iff_of_true rfl rfl

/-! ## Blocks -/

namespace Segment

variable {mode : QuoteMode} {s : Segment} {l : Location} {word rest : Text} {token : Token}

/-- The errors for the letters of a word stand on its line, each in the column of its letter. -/
theorem exists_of_mem_foreignLetters (h : token ∈ foreignLetters l word) :
    ∃ c i, word[i]? = some c ∧ isNameChar c = false ∧
      token = .faulty .invalidIdentifierCharacter [c] ⟨l.line, l.column + i, l.column + i⟩ := by
  rcases List.mem_filterMap.mp h with ⟨⟨c, column⟩, hmem, htoken⟩
  rcases List.mk_mem_zipIdx_iff_le_and_getElem?_sub.mp hmem with ⟨hle, hc⟩
  simp only at htoken
  split at htoken <;> rename_i hname
  · contradiction
  · refine ⟨c, column - l.column, hc, by simpa using hname, ?_⟩
    rw [Nat.add_sub_cancel' hle]
    exact (Option.some.inj htoken).symm

/-- The letters that a word reports are error tokens, each with the fault of a character in a name.
-/
theorem fault_of_mem_foreignLetters (h : token ∈ foreignLetters l word) :
    token.code = .error ∧ token.fault = some .invalidIdentifierCharacter := by
  rcases exists_of_mem_foreignLetters h with ⟨c, i, -, -, rfl⟩
  exact ⟨rfl, rfl⟩

/-- The token of a word itself has no fault. -/
theorem eq_foreignLetters_of_split {before behind : List Token}
    (hsplit : wordTokens l word = before ++ token :: behind) (hfault : token.fault.isSome = true) :
    ∃ letters, before = .sound (.ofWord (word.filter isNameChar)) (word.filter isNameChar)
      (.ofLength l word.length) :: letters ∧ foreignLetters l word = letters ++ token :: behind := by
  cases before with
  | nil =>
    rw [wordTokens, List.nil_append, List.cons.injEq] at hsplit
    rw [← hsplit.1] at hfault
    contradiction
  | cons first letters =>
    rw [wordTokens, List.cons_append, List.cons.injEq] at hsplit
    exact ⟨letters, by rw [← hsplit.1], hsplit.2⟩

/-- The errors behind a word are for letters inside it. -/
theorem insideWord_of_split {letter : Char} {tail : Text} {before behind : List Token}
    (hletter : letter.isAlpha = true) (htail : ∀ c ∈ tail, isWordChar c = true)
    (hsplit : wordTokens l (letter :: tail) = before ++ token :: behind)
    (hfault : token.fault = some .invalidIdentifierCharacter) :
    token.IsForeignLetter ∧ token.InsideWord before := by
  rcases eq_foreignLetters_of_split hsplit (by rw [hfault]; rfl) with ⟨letters, rfl, hletters⟩
  have htoken : token ∈ foreignLetters l (letter :: tail) := by
    rw [hletters]
    simp
  rcases exists_of_mem_foreignLetters htoken with ⟨c, i, hc, hforeign, rfl⟩
  have hcarries := isWordChar_of_mem_word hletter htail c (List.mem_of_getElem? hc)
  have hbound : i < (letter :: tail).length := (List.getElem?_eq_some_iff.mp hc).1
  have hcode := Code.ofWord_cases ((letter :: tail).filter isNameChar)
  refine ⟨⟨rfl, c, rfl, ?_, le_toNat_of_foreign hforeign hcarries⟩, [], _, letters, rfl,
    ?_, by simp [Token.sound], hcode, rfl, ?_, ?_⟩
  · rwa [isWordChar, hforeign, Bool.false_or] at hcarries
  · intro other hother
    exact (fault_of_mem_foreignLetters (by rw [hletters]; simp [hother])).2
  · -- the first letter of a word can stand in a name
    have hpos : 0 < i := by
      rcases Nat.eq_zero_or_pos i with rfl | hpos
      · rw [List.getElem?_cons_zero, Option.some.injEq] at hc
        rw [← hc, isNameChar_of_isAlpha hletter] at hforeign
        contradiction
      · exact hpos
    simp only [Token.sound, Token.faulty, Span.ofLength]
    omega
  · simp only [Token.sound, Token.faulty, Span.ofLength]
    omega

/-- A word is followed by the errors for its letters. -/
theorem disciplined_word {letter : Char} {tail : Text} (hletter : letter.isAlpha = true)
    (htail : ∀ c ∈ tail, isWordChar c = true) :
    Disciplined mode (letter :: tail) (wordTokens l (letter :: tail)) := by
  have hword := isWordChar_of_mem_word hletter htail
  have hquotes : (letter :: tail).count '"' = 0 :=
    count_quote_of_isJoining fun c hc => isJoining_of_isWordChar (hword c hc)
  have hcode := Code.ofWord_cases ((letter :: tail).filter isNameChar)
  have hmem : ∀ token ∈ wordTokens l (letter :: tail),
      (token.fault = none ∧ (token.code = .identifier ∨ token.code = .keyword)) ∨
        (token.fault = some .invalidIdentifierCharacter ∧ token.code = .error) := by
    intro token htoken
    rcases List.mem_cons.mp htoken with rfl | htoken
    · exact Or.inl ⟨rfl, hcode⟩
    · exact Or.inr (fault_of_mem_foreignLetters htoken).symm
  constructor
  case faults =>
    intro token htoken
    unfold Token.FaultMatches
    rcases hmem token htoken with ⟨hfault, hcode | hcode⟩ | ⟨hfault, hcode⟩ <;>
      simp [hfault, hcode]
  case numbers =>
    intro token htoken
    rcases hmem token htoken with ⟨hfault, -⟩ | ⟨hfault, -⟩ <;> simp [hfault]
  case openString =>
    rw [hquotes]
    refine iff_of_false ?_ (by simp)
    rintro ⟨token, htoken, hopen⟩
    rcases hmem token htoken with ⟨hfault, -⟩ | ⟨hfault, -⟩ <;> simp [hfault] at hopen
  case last =>
    intro before token behind hsplit hopen
    rcases hmem token (by rw [hsplit]; simp) with ⟨hfault, -⟩ | ⟨hfault, -⟩ <;>
      simp [hfault] at hopen
  case quoteMarkers =>
    rw [hquotes, ite_self, List.countP_eq_zero]
    intro token htoken
    rcases hmem token htoken with ⟨-, hcode | hcode⟩ | ⟨-, hcode⟩ <;> simp [hcode]
  case stringLiterals =>
    rw [hquotes, Nat.zero_div, ite_self, List.countP_eq_zero]
    intro token htoken
    rcases hmem token htoken with ⟨-, hcode | hcode⟩ | ⟨-, hcode⟩ <;> simp [hcode]
  case letters =>
    intro before token behind hsplit hfault
    exact insideWord_of_split hletter htail hsplit hfault

/-- A character that stands alone is a quote, one of the other symbols, or invalid. -/
theorem disciplined_mark {c : Char} (hquote : ¬ (c = '"' ∧ mode = .literal)) :
    Disciplined mode [c] [markToken l c] := by
  by_cases hc : c = '"'
  · subst hc
    have hmode : mode = .marker := by
      cases mode with
      | marker => rfl
      | literal => exact absurd ⟨rfl, rfl⟩ hquote
    subst hmode
    exact .single (Token.faultMatches_sound (by simp) _ _) (by simp [markToken, Token.sound])
      (by simp [markToken, Token.sound]) (by simp [markToken, Token.sound]) rfl rfl
  · have hquotes : [c].count '"' = 0 := by simp [hc]
    rw [markToken, if_neg hc]
    cases hcode : Code.ofPunctuation? c with
    | none =>
      exact .plain hquotes (Token.faultMatches_faulty _ _ _) (Or.inr rfl) (by simp [Token.faulty])
    | some code =>
      rw [← Code.char?_eq_some] at hcode
      have hother : code ≠ .error ∧ code ∉ [.quoteMarker, .stringLiteral] := by
        cases code <;> simp [Code.char?] at hcode ⊢
      exact .plain hquotes (Token.faultMatches_sound hother.1 _ _) (Or.inl rfl) hother.2

/-- The faults of a complete block. -/
theorem disciplined_tokens (h : s.Fits mode rest) (l : Location) :
    Disciplined mode s.text (s.tokens l) := by
  have hrun (hrun : s.IsRun) : s.text.count '"' = 0 :=
    count_quote_of_isJoining (h.isJoining_of_mem hrun)
  cases h with
  | word hletter htail => exact disciplined_word hletter htail
  | integer hwhole =>
    rw [tokens, numberToken_integer l hwhole]
    exact .plain (hrun trivial) (Token.faultMatches_sound (by simp) _ _) (Or.inl rfl)
      (by simp [Token.sound])
  | float hwhole =>
    rw [tokens, numberToken_float l hwhole]
    exact .plain (hrun trivial) (Token.faultMatches_sound (by simp) _ _) (Or.inl rfl)
      (by simp [Token.sound])
  | @closed body rest hmode hbody =>
    have hquotes : (quoted body true).text.count '"' = 2 := by
      simp [text, List.count_eq_zero_of_not_mem hbody]
    refine .single (Token.faultMatches_sound (by simp) _ _) (by simp [Token.sound])
      (by simp [Token.sound]) ?_ ?_ ?_
    · rw [hquotes]
      simp [Token.sound]
    · simp [hmode, Token.sound]
    · simp [hmode, hquotes, Token.sound]
  | @unclosed body hmode hbody =>
    have hquotes : (quoted body false).text.count '"' = 1 := by
      simp [text, List.count_eq_zero_of_not_mem hbody]
    refine .single (Token.faultMatches_faulty _ _ _) (by simp [Token.faulty])
      (by simp [Token.faulty]) ?_ ?_ ?_
    · rw [hquotes]
      simp [hmode, Token.faulty]
    · simp [hmode, Token.faulty]
    · simp [hmode, hquotes, Token.faulty]
  | mark _ _ _ hquote => exact disciplined_mark hquote

end Segment

/-! ## Texts -/

/-- The tokens of a complete cut. -/
theorem Cut.disciplined_tokens {mode : QuoteMode} {cut : Cut} (hcut : cut.Complete mode)
    (l : Location) : Disciplined mode cut.text (cut.tokens l) := by
  induction cut generalizing l with
  | last gap => exact .nil (count_quote_of_isBlank hcut)
  | block gap s others ih =>
    rcases hcut with ⟨hgap, hfits, hothers⟩
    have hblock := Segment.disciplined_tokens hfits (l.after gap)
    have hrest : Disciplined mode (s.text ++ others.text)
        (s.tokens (l.after gap) ++ others.tokens (l.after (gap ++ s.text))) := by
      by_cases hopen : s.IsOpen
      · -- an open string takes up the whole rest of the text
        have hend := (hfits.of_isOpen hopen).2
        have hnone := scanFrom_text (l.after (gap ++ s.text)) hothers
        rw [hend, scanFrom_nil] at hnone
        rw [hend, ← hnone, List.append_nil, List.append_nil]
        exact hblock
      · refine hblock.append (ih hothers _) ?_
        rintro rfl
        exact hfits.even_quotes_iff.mpr hopen
    refine (Disciplined.nil (count_quote_of_isBlank hgap)).append hrest ?_
    intro _
    rw [count_quote_of_isBlank hgap]
    exact Even.zero

/-- The tokens of a text have faults exactly if they are errors, no number is malformed, and a string
is left open exactly where strings are read and the quotes do not pair up: it is the last token.
Where strings are not read every quote is a token, and where they are every pair of quotes is one.
The errors for letters that cannot stand in a name follow the word that the letters stand in. -/
theorem scan_disciplined (mode : QuoteMode) (t : Text) : Disciplined mode t (scan mode t) := by
  rcases Cut.exists_complete mode t with ⟨cut, rfl, hcut⟩
  rw [Cut.scan_text hcut]
  exact Cut.disciplined_tokens hcut .start

example : (scan .literal "aж7 \"".toList).map (·.fault) =
    [none, some .invalidIdentifierCharacter, some .unterminatedString] := by
  decide +kernel

end TypedList
