import Mathlib.Data.List.Basic
import TypedList.Proofs.Escapes
import TypedList.Report.ErrorLog

/-!
# Reading the error log back

Every diagnostic has its own line in the error log, whatever character it found, and no two
diagnostics have the same line.  The line is read from the left: the position ends at the first
closing bracket, no message is the beginning of another one, and the shown symbol tells where it
ends by itself.

Main results:

- Theorem `Violation.message_append_inj`: what a text begins with is the message of one violation.
- Theorem `Diagnostic.display_injective`: two diagnostics with the same line are equal.
- Theorem `errorLog_unambiguous`: the error log has one line per diagnostic and determines them all.
-/

namespace TypedList

variable {s t : Text}

/-! ## The parts of a line -/

namespace Violation

/-- All ways to break the grammar. -/
def all : List Violation :=
  [invalidIdentifierStart, digitInIdentifier, missingElement, unterminatedString,
    missingDigitAfterSign, missingDigitAfterDot, trailingContent] ++
  [.assign, .openBracket, .closeBracket, .semicolon, .openingQuote].map missingSymbol

/-- Every violation is among them. -/
theorem mem_all (kind : Violation) : kind ∈ all := by
  cases kind with
  | missingSymbol expected => cases expected <;> decide
  | _ => decide

/-- No message is the beginning of another one. -/
theorem eq_of_prefix_message {k l : Violation} (h : k.message <+: l.message) : k = l := by
  have hall : ∀ k ∈ all, ∀ l ∈ all, k.message <+: l.message → k = l := by decide +kernel
  exact hall k (mem_all k) l (mem_all l) h

/-- What a text begins with is the message of one violation. -/
theorem message_append_inj {k l : Violation} (h : k.message ++ s = l.message ++ t) :
    k = l ∧ s = t := by
  have hsame : k = l := by
    rcases List.prefix_or_prefix_of_prefix (List.prefix_append k.message s)
      (h ▸ List.prefix_append l.message t) with hprefix | hprefix
    · exact eq_of_prefix_message hprefix
    · exact (eq_of_prefix_message hprefix).symm
  subst hsame
  exact ⟨rfl, List.append_cancel_left h⟩

/-- No message breaks its line. -/
theorem lineFeed_notMem_message (kind : Violation) : '\n' ∉ kind.message := by
  have hall : ∀ k ∈ all, '\n' ∉ k.message := by decide +kernel
  exact hall kind (mem_all kind)

end Violation

namespace Symbol

/-- A character is shown in single quotes. -/
theorem display_char (c : Char) : (char c).display = '\'' :: (shownChar c ++ ['\'']) :=
  rfl

/-- The closing quote is the first character behind the shown one. -/
theorem display_char_append (c : Char) (s : Text) :
    (char c).display ++ s = '\'' :: (shownChar c ++ '\'' :: s) := by
  rw [display_char, List.cons_append, List.append_assoc, List.singleton_append]

/-- The end of the input begins with a letter, and so with no quote. -/
theorem display_endOfInput : endOfInput.display = 'e' :: "nd of input".toList := by
  decide +kernel

/-- What a text begins with shows one symbol: a character is in quotes, the end of the input is
not. -/
theorem display_append_inj {x y : Symbol} (h : x.display ++ s = y.display ++ t) :
    x = y ∧ s = t := by
  cases x with
  | char c =>
    cases y with
    | char d =>
      rw [display_char_append, display_char_append] at h
      obtain ⟨rfl, hrest⟩ :=
        (shows_shownChar c).append_inj (shows_shownChar d) (List.cons.inj h).2
      exact ⟨rfl, (List.cons.inj hrest).2⟩
    | endOfInput =>
      rw [display_char_append, display_endOfInput] at h
      exact absurd (List.cons.inj h).1 (by decide)
  | endOfInput =>
    cases y with
    | char d =>
      rw [display_char_append, display_endOfInput] at h
      exact absurd (List.cons.inj h).1 (by decide)
    | endOfInput => exact ⟨rfl, List.append_cancel_left h⟩

/-- No symbol breaks its line. -/
theorem lineFeed_notMem_display (symbol : Symbol) : '\n' ∉ symbol.display := by
  cases symbol with
  | endOfInput => decide +kernel
  | char c =>
    intro hmem
    rw [display_char, List.mem_cons, List.mem_append, List.mem_singleton] at hmem
    rcases hmem with hquote | hshown | hquote
    · exact absurd hquote (by decide)
    · exact absurd (eq_space_of_mem_escapeChar (by simp) hshown rfl) (by decide)
    · exact absurd hquote (by decide)

end Symbol

/-! ## Lines -/

namespace Diagnostic

/-- The parts of a line, with what separates them. -/
theorem display_eq (d : Diagnostic) :
    d.display = "[position ".toList ++ (decimal d.position ++ ']' :: ' ' :: (d.kind.message ++
      (" (found ".toList ++ (d.symbol.display ++ [')'])))) := by
  have hparts : d.display = "[position ".toList ++ decimal d.position ++ "] ".toList ++
      d.kind.message ++ " (found ".toList ++ d.symbol.display ++ ")".toList := rfl
  have hclose : "] ".toList = [']', ' '] := by decide +kernel
  have hend : ")".toList = [')'] := by decide +kernel
  rw [hparts, hclose, hend]
  simp only [List.append_assoc, List.cons_append, List.nil_append]

/-- Two diagnostics with the same line are equal. -/
theorem display_injective : Function.Injective display := by
  intro d e h
  rw [display_eq, display_eq] at h
  rcases append_cons_inj (notMem_decimal rfl _) (notMem_decimal rfl _)
    (List.append_cancel_left h) with ⟨hposition, hspace⟩
  rcases Violation.message_append_inj (List.cons.inj hspace).2 with ⟨hkind, hfound⟩
  have hsymbol := (Symbol.display_append_inj (List.append_cancel_left hfound)).1
  cases d
  cases e
  congr
  exact decimal_injective hposition

/-- No diagnostic breaks its line. -/
theorem lineFeed_notMem_display (d : Diagnostic) : '\n' ∉ d.display := by
  intro hmem
  simp only [display_eq, List.mem_append, List.mem_cons, List.not_mem_nil, or_false] at hmem
  rcases hmem with hlead | hposition | hclose | hspace | hmessage | hlead | hsymbol | hend
  · exact absurd hlead (by decide +kernel)
  · exact notMem_decimal rfl _ hposition
  · exact absurd hclose (by decide)
  · exact absurd hspace (by decide)
  · exact d.kind.lineFeed_notMem_message hmessage
  · exact absurd hlead (by decide +kernel)
  · exact d.symbol.lineFeed_notMem_display hsymbol
  · exact absurd hend (by decide)

/-- No line of a diagnostic says that there are none. -/
theorem display_ne_noErrors (d : Diagnostic) : d.display ≠ noErrors := by
  have hopen : "[position ".toList = '[' :: "position ".toList := by decide +kernel
  have hremark : noErrors = 'N' :: "o errors found".toList := by decide +kernel
  intro h
  rw [display_eq, hopen, hremark] at h
  exact absurd (List.cons.inj h).1 (by decide)

end Diagnostic

/-! ## The log -/

/-- The lines of the error log: one per diagnostic, or the remark that there is none. -/
def errorLines (errors : List Diagnostic) : List Text :=
  if errors = [] then [noErrors] else errors.map Diagnostic.display

/-- There is a line for each diagnostic, and one where there are none. -/
theorem length_errorLines (errors : List Diagnostic) :
    (errorLines errors).length = max 1 errors.length := by
  cases errors with
  | nil => rfl
  | cons d errors => simp [errorLines]

/-- The log is never without a line. -/
theorem errorLines_ne_nil (errors : List Diagnostic) : errorLines errors ≠ [] := by
  have hlength := length_errorLines errors
  intro hnil
  rw [hnil, List.length_nil] at hlength
  omega

/-- No line of the log is broken. -/
theorem lineFeed_notMem_errorLines (errors : List Diagnostic) :
    ∀ line ∈ errorLines errors, '\n' ∉ line := by
  intro line hline
  unfold errorLines at hline
  split at hline
  · rw [List.mem_singleton.mp hline]
    decide +kernel
  · obtain ⟨d, -, rfl⟩ := List.mem_map.mp hline
    exact d.lineFeed_notMem_display

/-- The lines show which diagnostics there are, and in which order. -/
theorem errorLines_injective : Function.Injective errorLines := by
  have hremark {d : Diagnostic} {errors : List Diagnostic} :
      [noErrors] ≠ (d :: errors).map Diagnostic.display := by
    intro h
    exact d.display_ne_noErrors (List.cons.inj h).1.symm
  intro xs ys h
  cases xs with
  | nil =>
    cases ys with
    | nil => rfl
    | cons d ys => exact absurd h hremark
  | cons c xs =>
    cases ys with
    | nil => exact absurd h.symm hremark
    | cons d ys => exact Diagnostic.display_injective.list_map h

/-- The error log is its lines with a line feed between any two of them. -/
theorem errorLog_eq (errors : List Diagnostic) :
    errorLog errors = ['\n'].intercalate (errorLines errors) := by
  cases errors with
  | nil => rfl
  | cons d errors => rfl

/-- Cut at its line feeds, the log gives its lines back. -/
theorem splitOn_errorLog (errors : List Diagnostic) :
    (errorLog errors).splitOn '\n' = errorLines errors := by
  rw [errorLog_eq]
  exact List.splitOn_intercalate '\n' (lineFeed_notMem_errorLines errors) (errorLines_ne_nil errors)

/-- The error log has one line for every diagnostic, or a single one where there is none, and two
lists of diagnostics with the same error log are equal. -/
theorem errorLog_unambiguous :
    (∀ errors, (errorLog errors).splitOn '\n' = errorLines errors ∧
      (errorLines errors).length = max 1 errors.length) ∧
    Function.Injective errorLog := by
  constructor
  · intro errors
    exact ⟨splitOn_errorLog errors, length_errorLines errors⟩
  · intro xs ys h
    apply errorLines_injective
    rw [← splitOn_errorLog, h, splitOn_errorLog]

example : errorLog [⟨.missingSymbol .assign, .char '\n', 3⟩, ⟨.trailingContent, .endOfInput, 12⟩] =
    "[position 3] expected '=' (found '\\n')\n".toList ++
    "[position 12] unexpected characters after end of list (found end of input)".toList := by
  decide +kernel

end TypedList
