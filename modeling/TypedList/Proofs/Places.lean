import TypedList.Proofs.FirstTokens

/-!
# Where tokens stand

Every token is made from a piece of the text: a whole block, or a letter inside a word.  Its span
is told by the text before the piece and the length of the piece, and tokens follow one another in
the order of their pieces, of which only a word and a letter inside it have characters in common.

Main results:

- Theorem `Segment.tokens_eq_map`: the tokens of a block are those of its pieces.
- Theorem `Cut.pairwise_leads`: each piece is followed by what stands behind it or, for a word, by
  letters inside it.
- Theorem `scan_placed`: the place of every token, and the order of all of them.
-/

namespace TypedList

/-! ## Origins -/

/-- What a token says and what it was made from: the text before its first character, and the
piece of the text that it took up. -/
structure Origin where
  before : Text
  piece : Text
  entry : Entry
deriving DecidableEq, Repr

/-- The token is made from the piece.  Words leave letters beyond ASCII out of the lexeme, strings
their quotes; every other token is its piece. -/
inductive Entry.MadeFrom : Entry → Text → Prop
  | word {letter : Char} {tail lexeme : Text} : letter.isAlpha = true →
      (∀ c ∈ tail, isWordChar c = true) → lexeme = (letter :: tail).filter isNameChar →
        MadeFrom ⟨.ofWord lexeme, lexeme, none⟩ (letter :: tail)
  | string {body : Text} : '"' ∉ body →
      MadeFrom ⟨.stringLiteral, body, none⟩ ('"' :: body ++ ['"'])
  | openString {body : Text} : '"' ∉ body →
      MadeFrom ⟨.error, body, some .unterminatedString⟩ ('"' :: body)
  | verbatim {code : Code} {piece : Text} {fault : Option Fault} :
      code ∉ [.identifier, .keyword, .stringLiteral] → fault ≠ some .unterminatedString →
        piece ≠ [] → MadeFrom ⟨code, piece, fault⟩ piece

/-- No token is made from nothing. -/
theorem Entry.MadeFrom.ne_nil {entry : Entry} {piece : Text} (h : entry.MadeFrom piece) :
    piece ≠ [] := by
  cases h with
  | word => exact List.cons_ne_nil _ _
  | string => exact List.cons_ne_nil _ _
  | openString => exact List.cons_ne_nil _ _
  | verbatim _ _ hne => exact hne

/-- The first span starts before the second, by line and then by column. -/
def Span.Precedes (a b : Span) : Prop :=
  a.line < b.line ∨ a.line = b.line ∧ a.startColumn < b.startColumn

/-- The spans have a column of a line in common. -/
def Span.Overlaps (a b : Span) : Prop :=
  a.line = b.line ∧ a.startColumn ≤ b.endColumn ∧ b.startColumn ≤ a.endColumn

namespace Origin

/-- The span of a piece, by counting the line feeds before it, the characters behind the last of
them, and its own characters. -/
def span (o : Origin) : Span :=
  ⟨1 + o.before.count '\n', 1 + (lastLine o.before).length,
    1 + (lastLine o.before).length + o.piece.length - 1⟩

/-- The token that is made from the piece. -/
def token (o : Origin) : Token :=
  ⟨o.entry.code, o.entry.lexeme, o.span, o.entry.fault⟩

/-- The piece is part of a text that stands behind another. -/
def Within (o : Origin) (before t : Text) : Prop :=
  ∃ u v, o.before = before ++ u ∧ t = u ++ (o.piece ++ v)

/-- The token is a word. -/
def IsWord (o : Origin) : Prop :=
  o.entry.code = .identifier ∨ o.entry.code = .keyword

/-- The token is the error for a letter inside a word. -/
def IsForeign (o : Origin) : Prop :=
  o.entry.fault = some .invalidIdentifierCharacter

/-- The second piece stands behind the first, or it is a letter inside it that is not the first
one. -/
inductive Leads (x y : Origin) : Prop
  | apart (between : Text) : y.before = x.before ++ (x.piece ++ between) → Leads x y
  | inside : x.IsWord → y.IsForeign → y.Within x.before x.piece → y.before ≠ x.before → Leads x y

variable {o x y : Origin} {before t u v : Text}

/-! ## Order -/

/-- A span begins behind the text before its piece and is as long as the piece. -/
theorem span_eq_ofLength (o : Origin) :
    o.span = .ofLength (Location.start.after o.before) o.piece.length := by
  rw [Location.start_after]
  rfl

/-- More text before a piece puts it on a later line, or on the same line further right. -/
theorem span_cases (h : y.before = x.before ++ u) :
    x.span.line < y.span.line ∨
      y.span.line = x.span.line ∧ y.span.startColumn = x.span.startColumn + u.length := by
  rw [span_eq_ofLength, span_eq_ofLength, h, Location.after_append]
  rcases (Location.start.after x.before).after_cases u with hlater | hsame
  · exact Or.inl hlater
  · right
    rw [hsame]
    exact ⟨rfl, rfl⟩

/-- Pieces that lead to one another start one after the other. -/
theorem Leads.precedes (h : x.Leads y) (hne : x.piece ≠ []) : x.span.Precedes y.span := by
  have hbefore : ∃ u, u ≠ [] ∧ y.before = x.before ++ u := by
    cases h with
    | apart between hy => exact ⟨x.piece ++ between, by simp [hne], hy⟩
    | inside _ _ hwithin hmoved =>
      rcases hwithin with ⟨u, v, hy, -⟩
      refine ⟨u, ?_, hy⟩
      intro hu
      rw [hu, List.append_nil] at hy
      exact hmoved hy
  rcases hbefore with ⟨u, hu, hy⟩
  have hlength := List.length_pos_iff.mpr hu
  rcases span_cases hy with hlater | ⟨hline, hcolumn⟩
  · exact Or.inl hlater
  · refine Or.inr ⟨hline.symm, ?_⟩
    omega

/-- Pieces that lead to one another have no column in common, but for a word and its letters. -/
theorem Leads.of_overlaps (h : x.Leads y) (hne : x.piece ≠ []) (hoverlaps : x.span.Overlaps y.span) :
    x.IsWord ∧ y.IsForeign ∧ y.Within x.before x.piece := by
  cases h with
  | inside hword hforeign hwithin _ => exact ⟨hword, hforeign, hwithin⟩
  | apart between hy =>
    exfalso
    rcases hoverlaps with ⟨hline, -, hcolumns⟩
    have hlength := List.length_pos_iff.mpr hne
    have hend : x.span.endColumn = x.span.startColumn + x.piece.length - 1 := rfl
    rcases span_cases hy with hlater | ⟨-, hcolumn⟩
    · omega
    · rw [List.length_append] at hcolumn
      omega

/-! ## Pieces of parts of a text -/

/-- A piece stands within itself. -/
theorem within_self (before piece : Text) (entry : Entry) :
    (⟨before, piece, entry⟩ : Origin).Within before piece :=
  ⟨[], [], by simp, by simp⟩

/-- What stands within a text stands within it with more text behind. -/
theorem Within.append_right (h : o.Within before t) (v : Text) : o.Within before (t ++ v) := by
  rcases h with ⟨u, w, hbefore, rfl⟩
  exact ⟨u, w ++ v, hbefore, by simp⟩

/-- It also stands within the text with more in front. -/
theorem Within.append_left (h : o.Within (before ++ u) t) : o.Within before (u ++ t) := by
  rcases h with ⟨w, v, hbefore, rfl⟩
  exact ⟨u ++ w, v, by rw [hbefore, List.append_assoc], by simp⟩

/-- A piece of one part of a text leads to every piece of the next part. -/
theorem Leads.of_within (hx : x.Within before t) (hy : y.Within (before ++ t) u) : x.Leads y := by
  rcases hx with ⟨w, v, hbefore, rfl⟩
  rcases hy with ⟨w', v', hbefore', -⟩
  refine .apart (v ++ w') ?_
  rw [hbefore', hbefore]
  simp

end Origin

/-! ## The pieces of a block -/

namespace Segment

/-- The letters of a word that cannot stand in a name, and behind how much text they stand. -/
def foreignOrigins (before : Text) : Text → List Origin
  | [] => []
  | c :: letters =>
    if isNameChar c then foreignOrigins (before ++ [c]) letters
    else ⟨before, [c], ⟨.error, [c], some .invalidIdentifierCharacter⟩⟩ ::
      foreignOrigins (before ++ [c]) letters

/-- What the tokens of a block that stands behind a text are made from: the whole block, and for a
word also each of its letters that cannot stand in a name. -/
def origins (before : Text) : Segment → List Origin
  | word text =>
    ⟨before, text, ⟨.ofWord (text.filter isNameChar), text.filter isNameChar, none⟩⟩ ::
      foreignOrigins before text
  | s => s.entries.map (⟨before, s.text, ·⟩)

variable {mode : QuoteMode} {s : Segment} {o : Origin} {before letters rest : Text}

/-- The pieces of such letters are the letters. -/
theorem exists_of_mem_foreignOrigins (h : o ∈ foreignOrigins before letters) :
    o.Within before letters ∧
      ∃ c, o.piece = [c] ∧ o.entry = ⟨.error, [c], some .invalidIdentifierCharacter⟩ := by
  induction letters generalizing before with
  | nil => exact absurd h List.not_mem_nil
  | cons c letters ih =>
    rw [foreignOrigins] at h
    split at h
    · rcases ih h with ⟨hwithin, hentry⟩
      exact ⟨hwithin.append_left, hentry⟩
    · rcases List.mem_cons.mp h with rfl | h
      · exact ⟨(Origin.within_self _ _ _).append_right letters, c, rfl, rfl⟩
      · rcases ih h with ⟨hwithin, hentry⟩
        exact ⟨hwithin.append_left, hentry⟩

/-- The letters that a word reports lead from one to the next. -/
theorem pairwise_foreignOrigins (before letters : Text) :
    (foreignOrigins before letters).Pairwise Origin.Leads := by
  induction letters generalizing before with
  | nil => exact List.Pairwise.nil
  | cons c letters ih =>
    rw [foreignOrigins]
    split
    · exact ih _
    · refine List.pairwise_cons.mpr ⟨?_, ih _⟩
      intro o ho
      exact .of_within (Origin.within_self _ _ _) (exists_of_mem_foreignOrigins ho).1

/-- Behind the text the errors of a word stand where its letters do. -/
theorem foreignLetters_eq_map (before : Text) (hline : '\n' ∉ letters) :
    foreignLetters (Location.start.after before) letters =
      (foreignOrigins before letters).map Origin.token := by
  induction letters generalizing before with
  | nil => rfl
  | cons c letters ih =>
    rw [List.mem_cons, not_or] at hline
    have hnext : Location.start.after (before ++ [c]) =
        ⟨(Location.start.after before).line, (Location.start.after before).column + 1⟩ := by
      rw [Location.after_append, Location.after_cons, Location.after_nil,
        Location.step_of_ne _ (Ne.symm hline.1)]
    rw [foreignLetters_cons, ← hnext, ih _ hline.2, foreignOrigins]
    split
    · rfl
    · rw [List.map_cons, Origin.token, Origin.span_eq_ofLength]
      rfl

/-- A word holds no line feed. -/
theorem lineFeed_notMem_word {letter : Char} {tail : Text} (hletter : letter.isAlpha = true)
    (htail : ∀ c ∈ tail, isWordChar c = true) : '\n' ∉ letter :: tail := by
  have hfeed : isWordChar '\n' = false := isWordChar_of_isWhiteSpace rfl
  intro hmem
  rw [isWordChar_of_mem_word hletter htail _ hmem] at hfeed
  contradiction

/-- What a character that stands alone gives is neither a word nor a string. -/
theorem markEntry_cases (c : Char) :
    ∃ code fault, markEntry c = ⟨code, [c], fault⟩ ∧
      code ∉ [.identifier, .keyword, .stringLiteral] ∧
        (fault = none ∨ fault = some .invalidCharacter) := by
  unfold markEntry
  split
  · exact ⟨_, _, rfl, by simp, Or.inl rfl⟩
  · cases hcode : Code.ofPunctuation? c with
    | none => exact ⟨_, _, rfl, by simp, Or.inr rfl⟩
    | some code =>
      refine ⟨_, _, rfl, ?_, Or.inl rfl⟩
      rw [← Code.char?_eq_some] at hcode
      cases code <;> simp [Code.char?] at hcode ⊢

/-- Behind a text the tokens of a complete block are those of its pieces. -/
theorem tokens_eq_map (before : Text) (h : s.Fits mode rest) :
    s.tokens (Location.start.after before) = (s.origins before).map Origin.token := by
  cases h with
  | word hletter htail =>
    rw [tokens, wordTokens, foreignLetters_eq_map before (lineFeed_notMem_word hletter htail),
      origins, List.map_cons, Origin.token, Origin.span_eq_ofLength]
    rfl
  | integer hwhole =>
    rw [tokens, numberToken_integer _ hwhole]
    simp [origins, entries, Origin.token, Origin.span_eq_ofLength, Token.sound, text,
      point_notMem hwhole]
  | float hwhole =>
    rw [tokens, numberToken_float _ hwhole]
    simp [origins, entries, Origin.token, Origin.span_eq_ofLength, Token.sound, text]
  | closed => simp [tokens, origins, entries, Origin.token, Origin.span_eq_ofLength, Token.sound]
  | unclosed => simp [tokens, origins, entries, Origin.token, Origin.span_eq_ofLength, Token.faulty]
  | @mark c =>
    simp only [tokens, origins, entries, List.map_cons, List.map_nil, Origin.token,
      Origin.span_eq_ofLength, markToken, markEntry]
    split
    · rfl
    · cases Code.ofPunctuation? c <;> rfl

/-- The pieces of a block are parts of it, and its tokens are made from them. -/
theorem exists_of_mem_origins (h : s.Fits mode rest) (ho : o ∈ s.origins before) :
    o.Within before s.text ∧ o.entry.MadeFrom o.piece := by
  cases h with
  | word hletter htail =>
    rcases List.mem_cons.mp ho with rfl | ho
    · exact ⟨Origin.within_self _ _ _, .word hletter htail rfl⟩
    · rcases exists_of_mem_foreignOrigins ho with ⟨hwithin, c, hpiece, hentry⟩
      rw [hpiece, hentry]
      exact ⟨hwithin, .verbatim (by simp) (by simp) (List.cons_ne_nil _ _)⟩
  | integer hwhole =>
    rcases List.mem_singleton.mp ho with rfl
    exact ⟨Origin.within_self _ _ _, .verbatim (by split <;> simp) (by simp) hwhole.1⟩
  | float =>
    rcases List.mem_singleton.mp ho with rfl
    exact ⟨Origin.within_self _ _ _, .verbatim (by split <;> simp) (by simp) (by simp)⟩
  | closed _ hbody =>
    rcases List.mem_singleton.mp ho with rfl
    exact ⟨Origin.within_self _ _ _, .string hbody⟩
  | unclosed _ hbody =>
    rcases List.mem_singleton.mp ho with rfl
    exact ⟨Origin.within_self _ _ _, .openString hbody⟩
  | mark =>
    rcases List.mem_singleton.mp ho with rfl
    refine ⟨Origin.within_self _ _ _, ?_⟩
    rename_i c _ _ _ _
    rcases markEntry_cases c with ⟨code, fault, hentry, hcode, hfault⟩
    rw [hentry]
    refine .verbatim hcode ?_ (List.cons_ne_nil _ _)
    rcases hfault with rfl | rfl <;> simp

/-- The pieces of a block lead to one another. -/
theorem pairwise_origins (before : Text) (h : s.Fits mode rest) :
    (s.origins before).Pairwise Origin.Leads := by
  cases h with
  | @word letter tail _ hletter _ =>
    refine List.pairwise_cons.mpr ⟨?_, pairwise_foreignOrigins before _⟩
    intro o ho
    have hwithin := exists_of_mem_foreignOrigins ho
    refine .inside (Code.ofWord_cases _) ?_ hwithin.1 ?_
    · rcases hwithin.2 with ⟨c, -, hentry⟩
      rw [Origin.IsForeign, hentry]
    · -- the first letter of a word can stand in a name, so the others stand behind it
      rw [foreignOrigins, if_pos (isNameChar_of_isAlpha hletter)] at ho
      rcases (exists_of_mem_foreignOrigins ho).1 with ⟨u, v, hbefore, -⟩
      rw [hbefore]
      simp
  | integer | float | closed | unclosed | mark => exact List.pairwise_singleton _ _

end Segment

/-! ## The pieces of a text -/

namespace Cut

/-- What the tokens of a cut that stands behind a text are made from. -/
def origins (before : Text) : Cut → List Origin
  | last _ => []
  | block gap segment rest =>
    segment.origins (before ++ gap) ++ rest.origins (before ++ (gap ++ segment.text))

variable {mode : QuoteMode} {cut : Cut} {o : Origin} {before : Text}

/-- Behind a text the tokens of a complete cut are those of its pieces. -/
theorem tokens_eq_map (before : Text) (hcut : cut.Complete mode) :
    cut.tokens (Location.start.after before) = (cut.origins before).map Origin.token := by
  induction cut generalizing before with
  | last gap => rfl
  | block gap s rest ih =>
    rcases hcut with ⟨-, hfits, hrest⟩
    rw [tokens, ← Location.after_append, ← Location.after_append,
      Segment.tokens_eq_map _ hfits, ih _ hrest, origins, List.map_append]

/-- The pieces of a cut are parts of its text, and its tokens are made from them. -/
theorem exists_of_mem_origins (hcut : cut.Complete mode) (ho : o ∈ cut.origins before) :
    o.Within before cut.text ∧ o.entry.MadeFrom o.piece := by
  induction cut generalizing before with
  | last gap => exact absurd ho List.not_mem_nil
  | block gap s rest ih =>
    rcases hcut with ⟨-, hfits, hrest⟩
    rcases List.mem_append.mp ho with ho | ho
    · rcases Segment.exists_of_mem_origins hfits ho with ⟨hwithin, hmade⟩
      exact ⟨(hwithin.append_right rest.text).append_left, hmade⟩
    · rcases ih hrest ho with ⟨hwithin, hmade⟩
      rw [text, ← List.append_assoc]
      exact ⟨hwithin.append_left, hmade⟩

/-- The pieces of a cut lead to one another. -/
theorem pairwise_leads (before : Text) (hcut : cut.Complete mode) :
    (cut.origins before).Pairwise Origin.Leads := by
  induction cut generalizing before with
  | last gap => exact List.Pairwise.nil
  | block gap s rest ih =>
    rcases hcut with ⟨-, hfits, hrest⟩
    refine List.pairwise_append.mpr ⟨Segment.pairwise_origins _ hfits, ih _ hrest, ?_⟩
    intro x hx y hy
    have hnext := (exists_of_mem_origins hrest hy).1
    rw [← List.append_assoc] at hnext
    exact .of_within (Segment.exists_of_mem_origins hfits hx).1 hnext

end Cut

/-- Every text has exactly one cut into white space and complete blocks.  Its tokens are made from
the pieces of that cut and stand where these do.  Each starts before the next, and no two share a
column of a line, but for a word and a letter inside it that cannot stand in a name. -/
theorem scan_placed (mode : QuoteMode) (t : Text) :
    ∃ cut : Cut, (∀ other : Cut, other.text = t ∧ other.Complete mode ↔ other = cut) ∧
      scan mode t = (cut.origins []).map Origin.token ∧
      (∀ o ∈ cut.origins [], o.Within [] t ∧ o.entry.MadeFrom o.piece) ∧
      (scan mode t).Pairwise (fun x y => x.span.Precedes y.span) ∧
      (cut.origins []).Pairwise fun x y => x.span.Overlaps y.span →
        x.IsWord ∧ y.IsForeign ∧ y.Within x.before x.piece := by
  rcases Cut.exists_unique_complete mode t with ⟨cut, hcut, hunique⟩
  rcases (hunique cut).mpr rfl with ⟨rfl, -⟩
  have hscan : scan mode cut.text = (cut.origins []).map Origin.token := by
    rw [Cut.scan_text hcut]
    exact Cut.tokens_eq_map [] hcut
  have horigins : ∀ o ∈ cut.origins [], o.Within [] cut.text ∧ o.entry.MadeFrom o.piece :=
    fun o ho => Cut.exists_of_mem_origins hcut ho
  have hleads := Cut.pairwise_leads [] hcut
  refine ⟨cut, hunique, hscan, horigins, ?_, ?_⟩
  · rw [hscan, List.pairwise_map]
    exact hleads.imp_of_mem fun hx _ h => h.precedes (horigins _ hx).2.ne_nil
  · exact hleads.imp_of_mem fun hx _ h => h.of_overlaps (horigins _ hx).2.ne_nil

end TypedList
