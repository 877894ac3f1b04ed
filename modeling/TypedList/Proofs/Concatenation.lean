import Mathlib.Algebra.Group.Nat.Even
import TypedList.Proofs.Blocks
import TypedList.Proofs.Locations

/-!
# Texts one behind another

The tokens of a text do not depend on what stands before it or behind it, unless a word, a number
or a string goes on across the border.  Behind another text they only lie elsewhere.

Main results:

- Theorem `scanFrom_behind`: the tokens of a text behind another are its own, relocated.
- Theorem `scanFrom_append`: the tokens of two texts, one behind the other, are those of the first
  and those of the second.
- Theorem `scan_compositional`: the same in relocated tokens, and for the lines of a text.
-/

namespace TypedList

/-! ## Relocated tokens -/

/-- Where a token of a text lies once the text stands behind another. -/
def Token.behind (token : Token) (before : Text) : Token :=
  { token with span := token.span.behind before }

variable {mode : QuoteMode} {l : Location} {s : Segment} {a b rest : Text}

namespace Segment

/-- The letters that a word reports move with the word. -/
theorem foreignLetters_behind (h : l.Counted) (before word : Text) :
    foreignLetters (l.behind before) word =
      (foreignLetters l word).map (·.behind before) := by
  induction word generalizing l with
  | nil => rfl
  | cons c word ih =>
    rw [foreignLetters_cons, foreignLetters_cons, Location.next_behind, ih h.next,
      List.map_append, Location.ofLength_behind h]
    split <;> rfl

/-- Behind another text a segment has the same tokens, relocated. -/
theorem tokens_behind (h : l.Counted) (before : Text) (s : Segment) :
    s.tokens (l.behind before) = (s.tokens l).map (·.behind before) := by
  cases s with
  | blank c => rfl
  | word text =>
    simp only [tokens, wordTokens, List.map_cons, foreignLetters_behind h,
      Location.ofLength_behind h]
    rfl
  | number text =>
    simp only [tokens, numberToken, Location.ofLength_behind h]
    split
    · rfl
    · split <;> rfl
  | quoted body closed =>
    simp only [tokens, Location.ofLength_behind h]
    split <;> rfl
  | mark c =>
    simp only [tokens, markToken, Location.ofLength_behind h]
    split
    · rfl
    · split <;> rfl

end Segment

/-- The tokens of segments move with the segments. -/
theorem tokensFrom_behind (h : l.Counted) (before : Text) (segments : List Segment) :
    tokensFrom (l.behind before) segments =
      (tokensFrom l segments).map (·.behind before) := by
  induction segments generalizing l with
  | nil => rfl
  | cons s segments ih =>
    rw [tokensFrom, tokensFrom, Segment.tokens_behind h, Location.after_behind h,
      ih (h.after s.text), List.map_append]

/-- The tokens of a text that stands behind another. -/
theorem scanFrom_behind (mode : QuoteMode) (before t : Text) :
    scanFrom mode (Location.start.after before) t = (scan mode t).map (·.behind before) := by
  rw [← Location.start_behind]
  exact tokensFrom_behind Location.counted_start before (segments mode t)

/-! ## Borders that nothing goes across -/

/-- Whether a character may stand in a word or in a number. -/
def isJoining (c : Char) : Bool :=
  isAlphabetic c || c.isDigit || c = '_' || c = '.'

/-- No word and no number goes on from the first text into the second. -/
def Separate (a b : Text) : Prop :=
  ∀ c ∈ a.getLast?, isJoining c = true → Stops isJoining b

/-- A digit may join two runs at a seam. -/
theorem isJoining_of_isDigit {c : Char} (h : c.isDigit = true) : isJoining c = true := by
  simp [isJoining, h]

/-- So may a word character. -/
theorem isJoining_of_isWordChar {c : Char} (h : isWordChar c = true) : isJoining c = true := by
  simp only [isWordChar, isNameChar, Char.isAlphanum, isAlphabetic, Bool.or_eq_true] at h
  simp only [isJoining, isAlphabetic, Bool.or_eq_true]
  tauto

/-- A quote joins nothing. -/
theorem isJoining_quote : isJoining '"' = false := by
  have halphabetic : isAlphabetic '"' = false := isAlphabetic_of_lt (by decide)
  simp [isJoining, halphabetic]

/-- What words and numbers are made of is no double quote. -/
theorem count_quote_of_isJoining {t : Text} (ht : ∀ c ∈ t, isJoining c = true) :
    t.count '"' = 0 := by
  rw [List.count_eq_zero]
  intro hquote
  have hjoining := ht _ hquote
  rw [isJoining_quote] at hjoining
  contradiction

/-- White space joins nothing either. -/
theorem isJoining_of_isWhiteSpace {c : Char} (h : isWhiteSpace c = true) :
    isJoining c = false := by
  have hscore : decide (c = '_') = false := eq_false_of_isWhiteSpace rfl h
  have hpoint : decide (c = '.') = false := eq_false_of_isWhiteSpace rfl h
  simp [isJoining, isAlphabetic_of_isWhiteSpace h, isDigit_of_isWhiteSpace h, hscore, hpoint]

/-- What separates a text separates every end of it. -/
theorem Separate.right_of_append (h : Separate (a ++ rest) b) : Separate rest b := by
  intro c hc
  apply h c
  rw [List.getLast?_append, Option.mem_def.mp hc]
  rfl

/-- Behind a word or a number there must be a character that goes on with neither. -/
theorem Separate.stops (h : Separate a b) (hne : a ≠ [])
    (hall : ∀ c ∈ a, isJoining c = true) : Stops isJoining b := by
  have hlast := List.getLast?_eq_some_getLast hne
  exact h _ hlast (hall _ (List.mem_of_getLast? hlast))

namespace Segment

/-- The segment goes on as long as its characters do: it is a word or a number. -/
def IsRun : Segment → Prop
  | word _ => True
  | number _ => True
  | _ => False

/-- The segment is a string without its closing quote. -/
def IsOpen : Segment → Prop
  | quoted _ false => True
  | _ => False

/-- Every character of a run may join it to another. -/
theorem Fits.isJoining_of_mem (h : s.Fits mode rest) (hrun : s.IsRun) :
    ∀ c ∈ s.text, isJoining c = true := by
  intro c hc
  cases h with
  | word hletter htail =>
    exact isJoining_of_isWordChar (isWordChar_of_mem_word hletter htail c hc)
  | integer hwhole => exact isJoining_of_isDigit (hwhole.2 c hc)
  | float hwhole hdecimals =>
    rw [text, List.mem_append, List.mem_cons] at hc
    rcases hc with hc | rfl | hc
    · exact isJoining_of_isDigit (hwhole.2 c hc)
    · simp [isJoining]
    · exact isJoining_of_isDigit (hdecimals c hc)
  | closed | unclosed | mark => contradiction

/-- Strings are open only where they are read, and only at the end of the text. -/
theorem Fits.of_isOpen (h : s.Fits mode rest) (hopen : s.IsOpen) :
    mode = .literal ∧ rest = [] := by
  cases h with
  | unclosed hmode => exact ⟨hmode, rfl⟩
  | word | integer | float | closed | mark => contradiction

/-- A complete block stays complete before more text, unless it is an open string or goes on. -/
theorem Fits.append (h : s.Fits mode rest) (hopen : ¬ s.IsOpen)
    (hseparate : Separate (s.text ++ rest) b) : s.Fits mode (rest ++ b) := by
  have hend (hrun : s.IsRun) (hrest : rest = []) : Stops isJoining b := by
    subst hrest
    rw [List.append_nil] at hseparate
    exact hseparate.stops h.text_ne_nil (h.isJoining_of_mem hrun)
  cases h with
  | word hletter htail hstops =>
    refine .word hletter htail (hstops.append_of_eq_nil fun hrest => ?_)
    exact (hend trivial hrest).mono fun _ => isJoining_of_isWordChar
  | integer hwhole hdigit hpoint =>
    refine .integer hwhole (hdigit.append_of_eq_nil fun hrest => ?_)
      (hpoint.append_of_eq_nil fun hrest => ?_)
    · exact (hend trivial hrest).mono fun _ => isJoining_of_isDigit
    · exact (hend trivial hrest).mono fun c hc => by simp [isJoining, hc]
  | float hwhole hdecimals hdigit =>
    refine .float hwhole hdecimals (hdigit.append_of_eq_nil fun hrest => ?_)
    exact (hend trivial hrest).mono fun _ => isJoining_of_isDigit
  | closed hmode hbody => exact .closed hmode hbody
  | unclosed => exact absurd trivial hopen
  | mark hspace hletter hdigit hquote => exact .mark hspace hletter hdigit hquote

/-- Where strings are read, a complete block holds an odd number of double quotes exactly if it is
an open string. -/
theorem Fits.even_quotes_iff (h : s.Fits .literal rest) :
    Even (s.text.count '"') ↔ ¬ s.IsOpen := by
  have hrun (hrun : s.IsRun) : s.text.count '"' = 0 :=
    count_quote_of_isJoining (h.isJoining_of_mem hrun)
  cases h with
  | word | integer | float =>
    rw [hrun trivial]
    simp [IsOpen]
  | closed _ hbody =>
    rename_i body _
    have hcount : ('"' :: body ++ ['"']).count '"' = 2 := by
      simp [List.count_eq_zero_of_not_mem hbody]
    rw [text, hcount]
    exact iff_of_true (by decide) not_false
  | unclosed _ hbody => simp [text, IsOpen, List.count_eq_zero_of_not_mem hbody]
  | mark _ _ _ hquote =>
    rename_i c _ _ _
    have hne : c ≠ '"' := fun heq => hquote ⟨heq, rfl⟩
    simp [text, IsOpen, hne]

/-- Where the double quotes come in pairs, the first block is no open string, and behind it they
come in pairs too. -/
theorem Fits.of_even_quotes (h : s.Fits mode rest)
    (hquotes : mode = .literal → Even ((s.text ++ rest).count '"')) :
    ¬ s.IsOpen ∧ (mode = .literal → Even (rest.count '"')) := by
  rw [List.count_append] at hquotes
  have hopen : ¬ s.IsOpen := by
    intro hopen
    rcases h.of_isOpen hopen with ⟨rfl, rfl⟩
    have heven := hquotes rfl
    rw [List.count_nil, Nat.add_zero, h.even_quotes_iff] at heven
    exact heven hopen
  refine ⟨hopen, ?_⟩
  rintro rfl
  exact (Nat.even_add.mp (hquotes rfl)).mp (h.even_quotes_iff.mpr hopen)

end Segment

/-- White space holds no double quote. -/
theorem count_quote_of_isBlank {w : Text} (hw : IsBlank w) : w.count '"' = 0 := by
  rw [List.count_eq_zero]
  intro hquote
  have hspace := hw _ hquote
  contradiction

/-- The tokens of two texts, one behind the other, are those of the first and, from where it ends,
those of the second. -/
theorem scanFrom_append (l : Location) (hquotes : mode = .literal → Even (a.count '"'))
    (hseparate : Separate a b) :
    scanFrom mode l (a ++ b) = scanFrom mode l a ++ scanFrom mode (l.after a) b := by
  rcases Cut.exists_complete mode a with ⟨cut, rfl, hcut⟩
  induction cut generalizing l with
  | last gap => rw [Cut.text, scanFrom_blank l hcut, scanFrom_of_isBlank l hcut, List.nil_append]
  | block gap s rest ih =>
    rcases hcut with ⟨hgap, hfits, hrest⟩
    rw [Cut.text] at hquotes hseparate ⊢
    rw [List.count_append, count_quote_of_isBlank hgap, Nat.zero_add] at hquotes
    rcases hfits.of_even_quotes hquotes with ⟨hopen, hquotes'⟩
    have hseparate' := hseparate.right_of_append
    rw [List.append_assoc, List.append_assoc, scanFrom_blank l hgap, scanFrom_blank l hgap,
      scanFrom_block _ (hfits.append hopen hseparate'), scanFrom_block _ hfits,
      ih _ hrest hquotes' hseparate'.right_of_append]
    simp

/-! ## Line by line -/

/-- The token, the given number of lines further down. -/
def Token.down (token : Token) (lines : Nat) : Token :=
  { token with span := { token.span with line := token.span.line + lines } }

/-- Behind line feeds the last line is empty. -/
theorem lastLine_replicate (lines : Nat) : lastLine (List.replicate lines '\n') = [] := by
  cases lines with
  | zero => rfl
  | succ lines => rw [List.replicate_succ', lastLine_append_lineFeed]

/-- Behind empty lines a token lies further down. -/
theorem Token.behind_replicate (token : Token) (lines : Nat) :
    token.behind (List.replicate lines '\n') = token.down lines := by
  rw [behind, down, Span.behind, lastLine_replicate, List.count_replicate_self]
  split <;> rename_i hfirst
  · simp [hfirst]
  · rfl

/-- The tokens of a text on a later line. -/
theorem scanFrom_down (mode : QuoteMode) (lines : Nat) (t : Text) :
    scanFrom mode ⟨1 + lines, 1⟩ t = (scan mode t).map (·.down lines) := by
  have hstart : Location.start.after (List.replicate lines '\n') = ⟨1 + lines, 1⟩ := by
    rw [Location.start_after, lastLine_replicate, List.count_replicate_self]
    rfl
  rw [← hstart, scanFrom_behind]
  simp only [Token.behind_replicate]

/-- No line holds a line feed. -/
theorem notMem_of_mem_splitOn {t line : Text} (h : line ∈ t.splitOn '\n') : '\n' ∉ line := by
  induction t generalizing line with
  | nil =>
    rw [List.splitOn_nil, List.mem_singleton] at h
    simp [h]
  | cons c t ih =>
    rcases List.exists_cons_of_ne_nil (List.splitOn_ne_nil '\n' t) with ⟨first, lines, hsplit⟩
    rw [hsplit] at ih
    rw [List.splitOn_cons_eq_if_modifyHead, hsplit, List.modifyHead_cons] at h
    split at h <;> rename_i hc
    · rcases List.mem_cons.mp h with rfl | h
      · exact List.not_mem_nil
      · exact ih h
    · rw [beq_iff_eq] at hc
      rcases List.mem_cons.mp h with rfl | h
      · exact List.not_mem_cons_of_ne_of_not_mem (Ne.symm hc) (ih List.mem_cons_self)
      · exact ih (List.mem_cons_of_mem first h)

/-- The tokens of lines with line feeds between them. -/
theorem scanFrom_lines {lines : List Text} (hlines : ∀ line ∈ lines, '\n' ∉ line) (n : Nat) :
    scanFrom .marker ⟨1 + n, 1⟩ (['\n'].intercalate lines) =
      (lines.zipIdx n).flatMap fun line => (scan .marker line.1).map (·.down line.2) := by
  induction lines generalizing n with
  | nil => exact scanFrom_nil _
  | cons line lines ih =>
    have hrest := fun other hother => hlines other (List.mem_cons_of_mem line hother)
    rw [List.zipIdx_cons, List.flatMap_cons, ← scanFrom_down, ← ih hrest]
    cases lines with
    | nil => simp [scanFrom_nil]
    | cons next lines =>
      have hfeed : isWhiteSpace '\n' = true := rfl
      have hseparate : Separate line (['\n'] ++ ['\n'].intercalate (next :: lines)) := by
        intro _ _ _
        rw [List.singleton_append, stops_cons]
        exact isJoining_of_isWhiteSpace hfeed
      have hafter : (Location.after ⟨1 + n, 1⟩ line).after ['\n'] = ⟨1 + (n + 1), 1⟩ := by
        rw [Location.after_of_notMem _ (hlines line List.mem_cons_self)]
        rfl
      rw [List.intercalate_cons_cons, List.append_assoc, scanFrom_append _ (by simp) hseparate,
        scanFrom_blank _ (isBlank_singleton hfeed), hafter]

/-- The tokens of two texts, one behind the other, are those of the first and, relocated, those of
the second, unless a word, a number or a string goes on across the border.  Where strings are not
read, the tokens of a text are those of its lines. -/
theorem scan_compositional :
    (∀ (mode : QuoteMode) (a b : Text), (mode = .literal → Even (a.count '"')) → Separate a b →
      scan mode (a ++ b) = scan mode a ++ (scan mode b).map (·.behind a)) ∧
      ∀ t : Text, scan .marker t =
        (t.splitOn '\n').zipIdx.flatMap fun line =>
          (scan .marker line.1).map (·.down line.2) := by
  constructor
  · intro mode a b hquotes hseparate
    rw [← scanFrom_behind]
    exact scanFrom_append .start hquotes hseparate
  · intro t
    have hlines : ∀ line ∈ t.splitOn '\n', '\n' ∉ line :=
      fun _ hline => notMem_of_mem_splitOn hline
    have hscan := scanFrom_lines hlines 0
    rw [List.intercalate_splitOn] at hscan
    exact hscan

/-- Behind a string over two lines the tokens of the first line move to the right and down, those
of the second only down. -/
theorem scan_compositional_behind_string :
    Even ("\"p\nq\" a7".toList.count '"') ∧ Separate "\"p\nq\" a7".toList " .5\n-7.".toList ∧
      scan .literal ("\"p\nq\" a7".toList ++ " .5\n-7.".toList) =
        scan .literal "\"p\nq\" a7".toList ++
          (scan .literal " .5\n-7.".toList).map (·.behind "\"p\nq\" a7".toList) := by
  have hquotes : Even ("\"p\nq\" a7".toList.count '"') := by decide +kernel
  have hseparate : Separate "\"p\nq\" a7".toList (' ' :: ".5\n-7.".toList) :=
    fun _ _ _ => stops_cons.mpr (isJoining_of_isWhiteSpace rfl)
  exact ⟨hquotes, hseparate, scan_compositional.1 .literal _ _ (fun _ => hquotes) hseparate⟩

end TypedList
