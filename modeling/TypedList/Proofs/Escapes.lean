import Mathlib.Data.List.TakeWhile
import TypedList.Proofs.Runs
import TypedList.Text.Escaped

/-!
# Telling shown characters apart

A character is shown as itself, by a letter behind a backslash, or by its code point.  Wherever the
shown form of one character ends and the next begins can be told from the text alone, so texts that
are shown alike are equal, and no shown form breaks a line.

Main results:

- Theorem `Shows.append_inj`: what two texts show first is the same character if the texts are.
- Theorem `ShowsText.eq`: a shown form shows one text only.
- Theorem `eq_space_of_mem_escapeChar`: the only white space in a shown form is the plain space.
-/

namespace TypedList

/-! ## Hexadecimal numbers -/

variable {c d : Char} {m n : Nat} {s t u x y : Text}

/-- A number below the base has one digit. -/
theorem hexadecimal_of_lt (hn : n < 16) : hexadecimal n = [n.digitChar] :=
  Nat.toDigits_of_lt_base hn

/-- Any other number has its last digit behind those of its quotient by the base. -/
theorem hexadecimal_of_le (hn : 16 ≤ n) :
    hexadecimal n = hexadecimal (n / 16) ++ [(n % 16).digitChar] :=
  Nat.toDigits_of_base_le (by decide) hn

/-- The sixteen digits are different characters. -/
theorem digitChar_injective : ∀ m < 16, ∀ n < 16, m.digitChar = n.digitChar → m = n := by
  decide

/-- The digits of a hexadecimal number. -/
theorem exists_of_mem_hexadecimal (hc : c ∈ hexadecimal n) : ∃ d < 16, c = d.digitChar := by
  induction n using Nat.strong_induction_on with
  | _ n ih =>
    rcases Nat.lt_or_ge n 16 with hn | hn
    · rw [hexadecimal_of_lt hn, List.mem_singleton] at hc
      exact ⟨n, hn, hc⟩
    · rw [hexadecimal_of_le hn, List.mem_append, List.mem_singleton] at hc
      rcases hc with hc | hc
      · exact ih (n / 16) (by omega) hc
      · exact ⟨n % 16, by omega, hc⟩

/-- Hexadecimal digits are ASCII letters and digits. -/
theorem isAlphanum_of_mem_hexadecimal (hc : c ∈ hexadecimal n) : c.isAlphanum = true := by
  have hdigits : ∀ d < 16, d.digitChar.isAlphanum = true := by decide
  obtain ⟨d, hd, rfl⟩ := exists_of_mem_hexadecimal hc
  exact hdigits d hd

/-- Two numbers with the same hexadecimal digits are equal. -/
theorem hexadecimal_injective (h : hexadecimal m = hexadecimal n) : m = n := by
  have hlong {k : Nat} (hk : 16 ≤ k) : 2 ≤ (hexadecimal k).length := by
    have hpos : 0 < (hexadecimal (k / 16)).length := Nat.length_toDigits_pos
    rw [hexadecimal_of_le hk, List.length_append, List.length_singleton]
    omega
  induction m using Nat.strong_induction_on generalizing n with
  | _ m ih =>
    have hlength := congrArg List.length h
    rcases Nat.lt_or_ge m 16 with hm | hm
    · rcases Nat.lt_or_ge n 16 with hn | hn
      · rw [hexadecimal_of_lt hm, hexadecimal_of_lt hn, List.singleton_inj] at h
        exact digitChar_injective m hm n hn h
      · have hn' := hlong hn
        rw [hexadecimal_of_lt hm, List.length_singleton] at hlength
        omega
    · rcases Nat.lt_or_ge n 16 with hn | hn
      · have hm' := hlong hm
        rw [hexadecimal_of_lt hn, List.length_singleton] at hlength
        omega
      · rw [hexadecimal_of_le hm, hexadecimal_of_le hn] at h
        rcases List.append_inj' h rfl with ⟨hfront, hlast⟩
        have hquotient := ih (m / 16) (by omega) hfront
        have hremainder := digitChar_injective (m % 16) (by omega) (n % 16) (by omega)
          (List.singleton_inj.mp hlast)
        omega

/-! ## Shown characters -/

/-- The character that a letter behind a backslash stands for. -/
def shownByLetter? : Char → Option Char
  | '0' => some '\x00'
  | 't' => some '\t'
  | 'r' => some '\r'
  | 'n' => some '\n'
  | '\\' => some '\\'
  | '\'' => some '\''
  | '"' => some '"'
  | _ => none

/-- The text shows the character. -/
inductive Shows : Char → Text → Prop
  | itself {c : Char} : c ≠ '\\' → Shows c [c]
  | letter {c letter : Char} : shownByLetter? letter = some c → Shows c ['\\', letter]
  | codePoint (c : Char) : Shows c (codePointEscape c)

/-- The parts of the escape by code point, with what follows it. -/
theorem codePointEscape_append (c : Char) (s : Text) :
    codePointEscape c ++ s =
      '\\' :: 'u' :: '\x7b' :: (hexadecimal c.toNat ++ '\x7d' :: s) := by
  simp [codePointEscape]

/-- The brace that ends a code point is none of its digits. -/
theorem brace_notMem_hexadecimal (n : Nat) : '\x7d' ∉ hexadecimal n := by
  intro hbrace
  have halphanum := isAlphanum_of_mem_hexadecimal hbrace
  contradiction

/-- If two texts are equal, so are the characters that they show first, and what is left behind
these. -/
theorem Shows.append_inj (hx : Shows c x) (hy : Shows d y) (h : x ++ s = y ++ t) :
    c = d ∧ s = t := by
  cases hx with
  | itself hc =>
    cases hy with
    | itself hd => exact List.cons.inj h
    | letter hd => exact absurd (List.cons.inj h).1 hc
    | codePoint =>
      rw [codePointEscape_append] at h
      exact absurd (List.cons.inj h).1 hc
  | @letter letter hc =>
    cases hy with
    | itself hd => exact absurd (List.cons.inj h).1.symm hd
    | @letter letter' hd =>
      simp only [List.cons_append, List.nil_append, List.cons.injEq, true_and] at h
      obtain ⟨rfl, rfl⟩ := h
      exact ⟨Option.some.inj (hc.symm.trans hd), rfl⟩
    | codePoint =>
      rw [codePointEscape_append] at h
      simp only [List.cons_append, List.cons.injEq, true_and] at h
      rw [h.1] at hc
      contradiction
  | codePoint =>
    rw [codePointEscape_append] at h
    cases hy with
    | itself hd => exact absurd (List.cons.inj h).1.symm hd
    | @letter letter' hd =>
      simp only [List.cons_append, List.cons.injEq, true_and] at h
      rw [← h.1] at hd
      contradiction
    | codePoint =>
      rw [codePointEscape_append] at h
      simp only [List.cons.injEq, true_and] at h
      rcases append_cons_inj (brace_notMem_hexadecimal _) (brace_notMem_hexadecimal _) h with
        ⟨hnumber, hrest⟩
      exact ⟨Char.toNat_inj.mp (hexadecimal_injective hnumber), hrest⟩

/-- A character is shown by something. -/
theorem Shows.ne_nil (hx : Shows c x) : x ≠ [] := by
  cases hx with
  | itself => exact List.cons_ne_nil _ _
  | letter => exact List.cons_ne_nil _ _
  | codePoint => simp [codePointEscape]

/-- The escaped form of a character shows it, if no more than quotes are escaped by themselves. -/
theorem shows_escapeChar {rule : EscapeRule} (hrule : rule.quotes ⊆ ['\'', '"']) (c : Char) :
    Shows c (escapeChar rule c) := by
  unfold escapeChar
  split <;> rename_i hletter
  · rename_i letter
    refine .letter ?_
    unfold escapeLetter? at hletter
    split at hletter <;> simp at hletter <;> subst hletter <;> rfl
  · split <;> rename_i hquote
    · refine .letter ?_
      have hmem := hrule hquote
      simp only [List.mem_cons, List.not_mem_nil, or_false] at hmem
      rcases hmem with rfl | rfl <;> rfl
    · split
      · exact .codePoint c
      · refine .itself ?_
        rintro rfl
        contradiction

/-- A single character is shown as every rule shows it. -/
theorem shows_shownChar (c : Char) : Shows c (shownChar c) :=
  shows_escapeChar (by simp) c

/-! ## Shown texts -/

/-- The second text shows the characters of the first one behind another. -/
inductive ShowsText : Text → Text → Prop
  | nil : ShowsText [] []
  | cons {c : Char} {t x y : Text} : Shows c x → ShowsText t y → ShowsText (c :: t) (x ++ y)

/-- A shown form shows one text only. -/
theorem ShowsText.eq (ht : ShowsText t x) (hu : ShowsText u x) : t = u := by
  induction ht generalizing u with
  | nil =>
    generalize hx : ([] : Text) = x at hu
    cases hu with
    | nil => rfl
    | cons hc _ => simp [hc.ne_nil] at hx
  | @cons c t x y hc ht ih =>
    generalize hz : x ++ y = z at hu
    cases hu with
    | nil => simp [hc.ne_nil] at hz
    | @cons d u x' y' hd hu =>
      obtain ⟨rfl, rfl⟩ := hc.append_inj hd hz
      rw [ih hu]

/-- Two shown texts together show the two texts together. -/
theorem ShowsText.append (ht : ShowsText t x) (hu : ShowsText u y) :
    ShowsText (t ++ u) (x ++ y) := by
  induction ht with
  | nil => exact hu
  | cons hc _ ih =>
    rw [List.append_assoc]
    exact .cons hc ih

/-- No character is shown by less than one. -/
theorem ShowsText.length_le (h : ShowsText t x) : t.length ≤ x.length := by
  induction h with
  | nil => exact Nat.le_refl 0
  | cons hc _ ih =>
    have hpos := List.length_pos_iff.mpr hc.ne_nil
    rw [List.length_cons, List.length_append]
    omega

/-- Escaping character by character shows the text. -/
theorem showsText_flatMap {rule : EscapeRule} (hrule : rule.quotes ⊆ ['\'', '"']) (t : Text) :
    ShowsText t (t.flatMap (escapeChar rule)) := by
  induction t with
  | nil => exact .nil
  | cons c t ih => exact .cons (shows_escapeChar hrule c) ih

/-- So does the shown form, whose first character is escaped by a rule of its own. -/
theorem showsText_shownText (t : Text) : ShowsText t (shownText t) := by
  cases t with
  | nil => exact .nil
  | cons c t => exact .cons (shows_shownChar c) (showsText_flatMap (by simp) t)

/-- Spaces are shown as themselves. -/
theorem showsText_replicate_space (n : Nat) :
    ShowsText (List.replicate n ' ') (List.replicate n ' ') := by
  induction n with
  | zero => exact .nil
  | succ n ih => exact .cons (.itself (by decide)) ih

/-! ## White space -/

/-- White space but the plain space is unprintable. -/
theorem isUnprintable_of_isWhiteSpace (h : isWhiteSpace c = true) (hc : c ≠ ' ') :
    isUnprintable c = true := by
  have hranges : ∀ space ∈ Unicode.whiteSpace, space = (0x20, 0x20) ∨
      ∃ range ∈ Unicode.unprintable, range.1 ≤ space.1 ∧ space.2 ≤ range.2 := by
    decide +kernel
  obtain ⟨space, hspace, hlow, hhigh⟩ := Unicode.Ranges.covers_iff.mp h
  rcases hranges space hspace with rfl | ⟨range, hrange, hfirst, hlast⟩
  · have hnumber : c.toNat = ' '.toNat := Nat.le_antisymm hhigh hlow
    exact absurd (Char.toNat_inj.mp hnumber) hc
  · exact Unicode.Ranges.covers_iff.mpr
      ⟨range, hrange, Nat.le_trans hfirst hlow, Nat.le_trans hhigh hlast⟩

/-- There is no white space in the escape by code point. -/
theorem isWhiteSpace_of_mem_codePointEscape (hd : d ∈ codePointEscape c) :
    isWhiteSpace d = false := by
  simp only [codePointEscape, List.mem_append, List.mem_cons, List.not_mem_nil, or_false] at hd
  rcases hd with ((rfl | rfl | rfl) | hd) | rfl
  · rfl
  · rfl
  · rfl
  · exact isWhiteSpace_of_isAlphanum (isAlphanum_of_mem_hexadecimal hd)
  · rfl

/-- The only white space in a shown form is the plain space. -/
theorem eq_space_of_mem_escapeChar {rule : EscapeRule} (hrule : rule.quotes ⊆ ['\'', '"'])
    (hd : d ∈ escapeChar rule c) (hspace : isWhiteSpace d = true) : d = ' ' := by
  have hescaped {letter : Char} (hletter : isWhiteSpace letter = false)
      (hmem : d ∈ ['\\', letter]) : d = ' ' := by
    simp only [List.mem_cons, List.not_mem_nil, or_false] at hmem
    rcases hmem with rfl | rfl
    · contradiction
    · rw [hletter] at hspace
      contradiction
  unfold escapeChar at hd
  split at hd <;> rename_i hletter
  · refine hescaped ?_ hd
    unfold escapeLetter? at hletter
    split at hletter <;> simp at hletter <;> subst hletter <;> rfl
  · split at hd <;> rename_i hquote
    · refine hescaped ?_ hd
      have hmem := hrule hquote
      simp only [List.mem_cons, List.not_mem_nil, or_false] at hmem
      rcases hmem with rfl | rfl <;> rfl
    · split at hd <;> rename_i hprintable
      · rw [isWhiteSpace_of_mem_codePointEscape hd] at hspace
        contradiction
      · rw [List.mem_singleton] at hd
        subst hd
        by_contra hne
        exact hprintable (by simp [isUnprintable_of_isWhiteSpace hspace hne])

/-- The only white space in a shown text is the plain space. -/
theorem eq_space_of_mem_shownText (hd : d ∈ shownText t) (hspace : isWhiteSpace d = true) :
    d = ' ' := by
  cases t with
  | nil => contradiction
  | cons c t =>
    rcases List.mem_append.mp hd with hd | hd
    · exact eq_space_of_mem_escapeChar (by simp) hd hspace
    · rcases List.mem_flatMap.mp hd with ⟨e, -, hd⟩
      exact eq_space_of_mem_escapeChar (by simp) hd hspace

end TypedList
