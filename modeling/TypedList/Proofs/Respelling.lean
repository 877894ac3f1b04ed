import TypedList.Proofs.Concatenation
import TypedList.Proofs.Places

/-!
# Writing tokens and scanning them again

The tokens of a text can be written down one by one, with a space between any two of them.  The text
that comes out has the same tokens again, but that no letter of it stands inside a word where it
cannot stand in a name.

Main results:

- Theorem `Cut.rescannable`: the entries of a text are scanned again each as what it was.
- Theorem `entry_scanFrom_of_rescannable`: so are all of them with spaces between them.
- Theorem `scan_respelled`: writing the tokens of a text keeps what they say.
-/

namespace TypedList

namespace Entry

/-- How a token is written: a string in its quotes, a string that does not end behind its opening
quote, and every other token as its lexeme. -/
def written (entry : Entry) : Text :=
  if entry.code = .stringLiteral then '"' :: entry.lexeme ++ ['"']
  else if entry.fault = some .unterminatedString then '"' :: entry.lexeme
  else entry.lexeme

/-- What a token says once it stands by itself: a letter that is no more inside a word is an
invalid character. -/
def isolated (entry : Entry) : Entry :=
  if entry.fault = some .invalidIdentifierCharacter then
    { entry with fault := some .invalidCharacter }
  else entry

end Entry

/-- The tokens of a text, written with single spaces between them. -/
def respelled (mode : QuoteMode) (t : Text) : Text :=
  [' '].intercalate (((scan mode t).map Token.entry).map Entry.written)

variable {mode : QuoteMode} {entry : Entry} {entries : List Entry} {code : Code}
  {fault : Option Fault} {c : Char} {lexeme rest t : Text}

namespace Entry

/-- All but strings and open strings are written as their lexemes. -/
theorem written_eq_lexeme (hcode : code ≠ .stringLiteral)
    (hfault : fault ≠ some .unterminatedString) : written ⟨code, lexeme, fault⟩ = lexeme := by
  simp [written, hcode, hfault]

/-- Only a letter inside a word is told from one that stands alone. -/
theorem isolated_eq_self (hfault : entry.fault ≠ some .invalidIdentifierCharacter) :
    entry.isolated = entry :=
  if_neg hfault

/-- A token by itself is written as before. -/
@[simp]
theorem written_isolated (entry : Entry) : entry.isolated.written = entry.written := by
  unfold isolated
  split <;> rename_i hfault
  · simp [written, hfault]
  · rfl

/-! ## One token -/

/-- Written before the given text, the token is a complete block that says what the token says by
itself. -/
def Rescans (mode : QuoteMode) (entry : Entry) (rest : Text) : Prop :=
  ∃ s : Segment, s.Fits mode rest ∧ s.text = entry.written ∧ s.entries = [entry.isolated]

/-- The token can be written before every text that begins with a space, and at the end. -/
def Robust (mode : QuoteMode) (entry : Entry) : Prop :=
  ∀ rest, Stops (· ≠ ' ') rest → entry.Rescans mode rest

end Entry

/-- A space ends a word. -/
theorem isWordChar_space : isWordChar ' ' = false :=
  isWordChar_of_isWhiteSpace rfl

/-- A word without letters beyond ASCII is the same word again. -/
theorem robust_word (hletter : c.isAlpha = true) (hlexeme : ∀ d ∈ lexeme, isNameChar d = true) :
    Entry.Robust mode ⟨.ofWord (c :: lexeme), c :: lexeme, none⟩ := by
  intro rest hrest
  have hchars : ∀ d ∈ c :: lexeme, isNameChar d = true := by
    intro d hd
    rcases List.mem_cons.mp hd with rfl | hd
    · exact isNameChar_of_isAlpha hletter
    · exact hlexeme d hd
  have hwordChars : ∀ d ∈ lexeme, isWordChar d = true := by
    intro d hd
    simp [isWordChar, hlexeme d hd]
  have hcode : Code.ofWord (c :: lexeme) ≠ .stringLiteral := by
    rcases Code.ofWord_cases (c :: lexeme) with h | h <;> simp [h]
  refine ⟨.word (c :: lexeme), .word hletter hwordChars (hrest.of_ne isWordChar_space), ?_, ?_⟩
  · rw [Entry.written_eq_lexeme hcode (by simp)]
    rfl
  · have hkept : (c :: lexeme).filter isNameChar = c :: lexeme := List.filter_eq_self.mpr hchars
    have hforeign : (c :: lexeme).filter (!isNameChar ·) = [] := by
      rw [List.filter_eq_nil_iff]
      intro d hd
      simp [hchars d hd]
    rw [Entry.isolated_eq_self (by simp), Segment.entries, Segment.wordEntries, hkept, hforeign]
    simp [Code.ofWord, Code.keywords]

/-- A letter that carries a word on without standing in a name lies behind all ASCII characters. -/
theorem le_toNat_of_foreign (hname : isNameChar c = false) (hword : isWordChar c = true) :
    128 ≤ c.toNat := by
  by_contra hlow
  rw [isWordChar, hname, Bool.false_or, isAlphabetic_of_lt (by omega)] at hword
  rw [isNameChar_of_isAlpha hword] at hname
  contradiction

/-- Such a letter is an invalid character by itself. -/
theorem robust_foreign (hname : isNameChar c = false) (hword : isWordChar c = true) :
    Entry.Robust mode ⟨.error, [c], some .invalidIdentifierCharacter⟩ := by
  intro rest _
  have hbound := le_toNat_of_foreign hname hword
  have hspace : isWhiteSpace c = false := by
    cases hspace : isWhiteSpace c with
    | false => rfl
    | true =>
      rw [isWordChar_of_isWhiteSpace hspace] at hword
      contradiction
  simp only [isNameChar, Char.isAlphanum, Bool.or_eq_false_iff] at hname
  have hquote : c ≠ '"' := by
    rintro rfl
    exact absurd hbound (by decide)
  have hmark : Code.ofPunctuation? c = none := by
    cases hcode : Code.ofPunctuation? c with
    | none => rfl
    | some code =>
      rw [← Code.char?_eq_some] at hcode
      cases code <;> simp [Code.char?] at hcode <;> subst hcode <;> exact absurd hbound (by decide)
  refine ⟨.mark c, .mark hspace hname.1.1 hname.1.2 fun h => hquote h.1, ?_, ?_⟩
  · rw [Entry.written_eq_lexeme (by simp) (by simp)]
    rfl
  · rw [Segment.entries, Segment.markEntry, if_neg hquote, hmark]
    rfl

namespace Segment

variable {s : Segment}

/-- A complete block is complete before every space, unless it is an open string. -/
theorem Fits.before_space (h : s.Fits mode rest) (hopen : ¬ s.IsOpen)
    (ht : Stops (· ≠ ' ') t) : s.Fits mode t := by
  cases h with
  | word hletter htail => exact .word hletter htail (ht.of_ne isWordChar_space)
  | integer hwhole => exact .integer hwhole (ht.of_ne rfl) (ht.of_ne rfl)
  | float hwhole hdecimals => exact .float hwhole hdecimals (ht.of_ne rfl)
  | closed hmode hbody => exact .closed hmode hbody
  | unclosed => exact absurd trivial hopen
  | mark hspace hletter hdigit hquote => exact .mark hspace hletter hdigit hquote

/-- A complete block that is no word gives one token, which is written as the block. -/
theorem entries_eq_singleton (h : s.Fits mode rest) :
    (∃ text, s = word text) ∨
      ∃ entry, s.entries = [entry] ∧ entry.written = s.text ∧ entry.isolated = entry := by
  cases h with
  | word => exact Or.inl ⟨_, rfl⟩
  | integer | float =>
    refine Or.inr ⟨_, rfl, Entry.written_eq_lexeme ?_ (by simp), Entry.isolated_eq_self (by simp)⟩
    split <;> simp
  | closed | unclosed => exact Or.inr ⟨_, rfl, rfl, rfl⟩
  | @mark c =>
    rcases markEntry_cases c with ⟨code, fault, hentry, hcode, hfault⟩
    simp only [List.mem_cons, not_or] at hcode
    rw [entries, hentry]
    refine Or.inr ⟨_, rfl, Entry.written_eq_lexeme hcode.2.2.1 ?_, Entry.isolated_eq_self ?_⟩
    · rcases hfault with rfl | rfl <;> simp
    · rcases hfault with rfl | rfl <;> simp

/-- What a complete block gives can be written before every space, unless it is an open string. -/
theorem robust_of_mem_entries (h : s.Fits mode rest) (hopen : ¬ s.IsOpen)
    (hentry : entry ∈ s.entries) : entry.Robust mode := by
  rcases entries_eq_singleton h with ⟨text, rfl⟩ | ⟨single, hentries, hwritten, hisolated⟩
  · cases h with
    | @word letter tail _ hletter htail =>
      rcases List.mem_cons.mp hentry with rfl | hentry
      · have hkept : (letter :: tail).filter isNameChar = letter :: tail.filter isNameChar :=
          List.filter_cons_of_pos (isNameChar_of_isAlpha hletter)
        have hrobust : Entry.Robust mode
            ⟨.ofWord (letter :: tail.filter isNameChar), letter :: tail.filter isNameChar, none⟩ :=
          robust_word hletter fun _ hd => List.of_mem_filter hd
        rw [hkept]
        simpa [Code.ofWord, Code.keywords] using hrobust
      · rcases List.mem_map.mp hentry with ⟨c, hc, rfl⟩
        rcases List.mem_filter.mp hc with ⟨hmem, hforeign⟩
        exact robust_foreign (by simpa using hforeign) (isWordChar_of_mem_word hletter htail c hmem)
  · rw [hentries, List.mem_singleton] at hentry
    subst hentry
    intro t ht
    exact ⟨s, h.before_space hopen ht, hwritten.symm, by rw [hisolated, hentries]⟩

end Segment

/-! ## All tokens -/

/-- Written with spaces between them, the tokens stay what they are: each but the last before every
space, and the last at the end. -/
inductive Rescannable (mode : QuoteMode) : List Entry → Prop
  | nil : Rescannable mode []
  | last {entry : Entry} : entry.Rescans mode [] → Rescannable mode [entry]
  | cons {entry : Entry} {entries : List Entry} : entry.Robust mode → Rescannable mode entries →
      Rescannable mode (entry :: entries)

/-- Entries that stand by themselves may be written in front of others. -/
theorem Rescannable.append {others : List Entry} (hentries : ∀ entry ∈ entries, entry.Robust mode)
    (hothers : Rescannable mode others) : Rescannable mode (entries ++ others) := by
  induction entries with
  | nil => exact hothers
  | cons entry entries ih =>
    refine .cons (hentries entry List.mem_cons_self) (ih fun other hother => ?_)
    exact hentries other (List.mem_cons_of_mem entry hother)

/-- A complete cut of no text has no blocks. -/
theorem Cut.blocks_eq_nil {cut : Cut} (hcut : cut.Complete mode) (htext : cut.text = []) :
    cut.blocks = [] := by
  cases cut with
  | last gap => rfl
  | block gap s others =>
    rw [text, List.append_eq_nil_iff, List.append_eq_nil_iff] at htext
    exact absurd htext.2.1 hcut.2.1.text_ne_nil

/-- What the blocks of a complete cut give can be written and scanned again. -/
theorem Cut.rescannable {cut : Cut} (hcut : cut.Complete mode) :
    Rescannable mode (cut.blocks.flatMap Segment.entries) := by
  induction cut with
  | last gap => exact .nil
  | block gap s others ih =>
    rcases hcut with ⟨-, hfits, hothers⟩
    rw [blocks, List.flatMap_cons]
    by_cases hopen : s.IsOpen
    · -- an open string takes up the whole rest of the text
      have hend := (hfits.of_isOpen hopen).2
      rw [hend] at hfits
      rw [blocks_eq_nil hothers hend, List.flatMap_nil, List.append_nil]
      rcases Segment.entries_eq_singleton hfits with
        ⟨text, rfl⟩ | ⟨entry, hentries, hwritten, hisolated⟩
      · contradiction
      · rw [hentries]
        exact .last ⟨s, hfits, hwritten.symm, by rw [hisolated, hentries]⟩
    · exact .append (fun _ hentry => Segment.robust_of_mem_entries hfits hopen hentry) (ih hothers)

/-- A token that can be written before a text is scanned there as what it is by itself. -/
theorem Entry.Rescans.exists_scanFrom (h : entry.Rescans mode rest) (l : Location) :
    ∃ l', (scanFrom mode l (entry.written ++ rest)).map Token.entry =
      entry.isolated :: (scanFrom mode l' rest).map Token.entry := by
  rcases h with ⟨s, hfits, htext, hentries⟩
  refine ⟨l.after s.text, ?_⟩
  rw [← htext, scanFrom_block l hfits, List.map_append, Segment.entry_tokens l hfits, hentries]
  rfl

/-- Tokens written with spaces between them are scanned as what they are by themselves. -/
theorem entry_scanFrom_of_rescannable (h : Rescannable mode entries) (l : Location) :
    (scanFrom mode l ([' '].intercalate (entries.map Entry.written))).map Token.entry =
      entries.map Entry.isolated := by
  induction h generalizing l with
  | nil =>
    rw [List.map_nil, List.intercalate_nil, scanFrom_nil]
    rfl
  | last hlast =>
    rcases hlast.exists_scanFrom l with ⟨l', hscan⟩
    rw [List.append_nil, scanFrom_nil] at hscan
    simpa using hscan
  | @cons entry entries hrobust _ ih =>
    cases entries with
    | nil =>
      rcases (hrobust [] (stops_nil _)).exists_scanFrom l with ⟨l', hscan⟩
      rw [List.append_nil, scanFrom_nil] at hscan
      simpa using hscan
    | cons next entries =>
      have hspace (t : Text) : Stops (· ≠ ' ') ([' '] ++ t) := by simp
      rcases (hrobust _ (hspace _)).exists_scanFrom l with ⟨l', hscan⟩
      rw [List.map_cons, List.map_cons, List.intercalate_cons_cons, List.append_assoc, hscan,
        scanFrom_blank l' isBlank_space, ← List.map_cons (f := Entry.written), ih]
      rfl

/-- Writing the tokens of a text keeps what they say, but that letters inside words become invalid
characters; so doing it again changes nothing. -/
theorem scan_respelled (mode : QuoteMode) (t : Text) :
    (scan mode (respelled mode t)).map Token.entry =
        ((scan mode t).map Token.entry).map Entry.isolated ∧
      respelled mode (respelled mode t) = respelled mode t := by
  rcases Cut.exists_complete mode t with ⟨cut, rfl, hcut⟩
  have hentries : (scan mode cut.text).map Token.entry =
      cut.blocks.flatMap Segment.entries := by
    rw [Cut.scan_text hcut, Cut.entry_tokens .start hcut]
  have hscan : (scan mode (respelled mode cut.text)).map Token.entry =
      ((scan mode cut.text).map Token.entry).map Entry.isolated := by
    rw [respelled, hentries]
    exact entry_scanFrom_of_rescannable (Cut.rescannable hcut) .start
  have hwritten : Entry.written ∘ Entry.isolated = Entry.written :=
    funext Entry.written_isolated
  refine ⟨hscan, ?_⟩
  calc respelled mode (respelled mode cut.text)
      = [' '].intercalate
          ((((scan mode cut.text).map Token.entry).map Entry.isolated).map Entry.written) := by
        rw [respelled, hscan]
    _ = respelled mode cut.text := by rw [List.map_map, hwritten, respelled]

end TypedList
