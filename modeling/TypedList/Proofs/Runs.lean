import TypedList.Grammar
import TypedList.Segment

/-!
# Runs of characters

A run of a character class ends where the text that follows does not go on with the class.  The
end of a run is the only place where its text can be cut into the run and what follows it, which
is what makes every reading of a text determinate.

Main results:

- Theorem `append_inj_of_stops`: two cuts of a text behind a complete run are equal.
- Theorem `isWhiteSpace_of_isAlphanum`: white space is neither a letter nor a digit.
-/

namespace TypedList

/-! ## Where a run ends -/

/-- The text does not begin with a character of the class. -/
def Stops (p : Char → Bool) (t : Text) : Prop :=
  t.head?.any p = false

/-- The text begins with a character of the class. -/
def Begins (p : Char → Bool) (t : Text) : Prop :=
  t.head?.any p = true

@[simp]
theorem stops_nil (p : Char → Bool) : Stops p [] :=
  rfl

@[simp]
theorem stops_cons {p : Char → Bool} {c : Char} {t : Text} :
    Stops p (c :: t) ↔ p c = false :=
  Iff.rfl

/-- What a text begins with is its first character. -/
theorem begins_iff {p : Char → Bool} {t : Text} :
    Begins p t ↔ ∃ c rest, p c = true ∧ t = c :: rest := by
  cases t with
  | nil => simp [Begins]
  | cons c rest => simp [Begins]

/-- A text cannot both begin with a class and stop it. -/
theorem Begins.not_stops {p : Char → Bool} {t : Text} (hbegins : Begins p t) : ¬ Stops p t := by
  intro hstops
  unfold Begins at hbegins
  rw [hstops] at hbegins
  contradiction

/-- A text that begins with a class stops every class without a common character. -/
theorem Begins.stops {p q : Char → Bool} {t : Text} (hbegins : Begins p t)
    (hdisjoint : ∀ c, p c = true → q c = false) : Stops q t := by
  rcases begins_iff.mp hbegins with ⟨c, rest, hc, rfl⟩
  exact hdisjoint c hc

/-- A text that begins with a class and one that stops it begin differently. -/
theorem Begins.head?_ne {p : Char → Bool} {s t : Text} (hbegins : Begins p s)
    (hstops : Stops p t) : s.head? ≠ t.head? := by
  intro hhead
  unfold Begins at hbegins
  rw [hhead, hstops] at hbegins
  contradiction

/-- A text that begins with a class begins with every larger one. -/
theorem Begins.mono {p q : Char → Bool} {t : Text} (hbegins : Begins p t)
    (hle : ∀ c, p c = true → q c = true) : Begins q t := by
  rcases begins_iff.mp hbegins with ⟨c, rest, hc, rfl⟩
  exact hle c hc

/-- Whether a text begins with a class shows at its first character. -/
theorem Begins.congr {p : Char → Bool} {s t : Text} (hbegins : Begins p s)
    (hhead : t.head? = s.head?) : Begins p t := by
  unfold Begins
  rw [hhead]
  exact hbegins

/-- Whether a text stops a class shows at its first character. -/
theorem Stops.congr {p : Char → Bool} {s t : Text} (hstops : Stops p s)
    (hhead : t.head? = s.head?) : Stops p t := by
  unfold Stops
  rw [hhead]
  exact hstops

/-- A text that stops a class stops every smaller one. -/
theorem Stops.mono {p q : Char → Bool} {t : Text} (hstops : Stops p t)
    (hle : ∀ c, q c = true → p c = true) : Stops q t := by
  cases t with
  | nil => rfl
  | cons c t =>
    rw [stops_cons] at hstops ⊢
    cases hq : q c with
    | false => rfl
    | true => rw [hle c hq] at hstops; contradiction

/-- A text that stops a class does so before any other, if it has a character at all. -/
theorem Stops.append_of_eq_nil {p : Char → Bool} {s t : Text} (hs : Stops p s)
    (ht : s = [] → Stops p t) : Stops p (s ++ t) := by
  cases s with
  | nil => exact ht rfl
  | cons c s => exact hs

/-- Where two texts stop a class, so does one behind the other. -/
theorem Stops.append {p : Char → Bool} {s t : Text} (hs : Stops p s) (ht : Stops p t) :
    Stops p (s ++ t) :=
  hs.append_of_eq_nil fun _ => ht

/-- Where a text stops a class, so does the text with a symbol behind it that is not of the
class. -/
theorem Stops.append_cons {p : Char → Bool} {s t : Text} {c : Char} (hs : Stops p s)
    (hc : p c = false) : Stops p (s ++ c :: t) :=
  hs.append (stops_cons.mpr hc)

/-- Where only one character can stand, every class without it stops. -/
theorem Stops.of_ne {p : Char → Bool} {d : Char} {t : Text} (h : Stops (· ≠ d) t)
    (hd : p d = false) : Stops p t := by
  cases t with
  | nil => exact stops_nil p
  | cons c t =>
    have hc : c = d := by simpa using h
    rw [stops_cons, hc]
    exact hd

/-- Where neither a letter nor a digit follows, a name ends. -/
theorem stops_alphanum {t : Text} (hletter : Stops Char.isAlpha t) (hdigit : Stops Char.isDigit t) :
    Stops Char.isAlphanum t := by
  cases t with
  | nil => rfl
  | cons c t =>
    rw [stops_cons] at hletter hdigit ⊢
    simp [Char.isAlphanum, hletter, hdigit]

/-- What is left behind the longest run stops the class. -/
theorem stops_dropWhile (p : Char → Bool) (t : Text) : Stops p (t.dropWhile p) := by
  have hhead := List.head?_dropWhile_not p t
  unfold Stops
  cases hdrop : (t.dropWhile p).head? with
  | none => rfl
  | some c =>
    rw [hdrop] at hhead
    simpa using hhead

/-- Nothing is left where two classes stop that have every character between them. -/
theorem eq_nil_of_stops {p q : Char → Bool} {t : Text} (hp : Stops p t) (hq : Stops q t)
    (hall : ∀ c, p c = true ∨ q c = true) : t = [] := by
  cases t with
  | nil => rfl
  | cons c t =>
    rw [stops_cons] at hp hq
    rcases hall c with h | h
    · rw [hp] at h; contradiction
    · rw [hq] at h; contradiction

variable {p : Char → Bool} {x y u v : Text}

/-- The longest run of a text is the one that the class does not carry on. -/
theorem takeWhile_append_of_stops (hx : ∀ c ∈ x, p c = true) (hy : Stops p y) :
    (x ++ y).takeWhile p = x := by
  rw [List.takeWhile_append_of_pos hx]
  cases y with
  | nil => simp
  | cons c y =>
    rw [stops_cons] at hy
    simp [hy]

/-- What the longest run leaves is what the class does not carry on. -/
theorem dropWhile_append_of_stops (hx : ∀ c ∈ x, p c = true) (hy : Stops p y) :
    (x ++ y).dropWhile p = y := by
  rw [List.dropWhile_append_of_pos hx]
  cases y with
  | nil => rfl
  | cons c y =>
    rw [stops_cons] at hy
    simp [hy]

/-- Two cuts of a text behind a complete run are equal. -/
theorem append_inj_of_stops (hx : ∀ c ∈ x, p c = true) (hy : Stops p y)
    (hu : ∀ c ∈ u, p c = true) (hv : Stops p v) (h : x ++ y = u ++ v) : x = u ∧ y = v := by
  have hrun : x = u := by
    rw [← takeWhile_append_of_stops hx hy, h, takeWhile_append_of_stops hu hv]
  subst hrun
  exact ⟨rfl, List.append_cancel_left h⟩

/-- Two cuts of a text at the first place of a character are equal. -/
theorem append_cons_inj {d : Char} (hx : d ∉ x) (hu : d ∉ u) (h : x ++ d :: y = u ++ d :: v) :
    x = u ∧ y = v := by
  have hne {t : Text} (ht : d ∉ t) : ∀ c ∈ t, decide (c ≠ d) = true := by
    intro c hc
    rw [decide_eq_true_eq]
    rintro rfl
    exact ht hc
  have hstops (t : Text) : Stops (· ≠ d) (d :: t) := by simp
  have hcut := append_inj_of_stops (hne hx) (hstops y) (hne hu) (hstops v) h
  exact ⟨hcut.1, List.tail_eq_of_cons_eq hcut.2⟩

/-! ## Classes without a common character -/

/-- White space lies between the ends of one of its ranges. -/
theorem isWhiteSpace_bounds {c : Char} (h : isWhiteSpace c = true) :
    (9 ≤ c.toNat ∧ c.toNat ≤ 13) ∨ c.toNat = 32 ∨ 133 ≤ c.toNat := by
  rw [isWhiteSpace, Unicode.Ranges.covers_iff] at h
  obtain ⟨range, hrange, hlow, hhigh⟩ := h
  simp only [Unicode.whiteSpace, List.mem_cons, List.not_mem_nil, or_false] at hrange
  rcases hrange with rfl | rfl | rfl | rfl | rfl | rfl | rfl | rfl | rfl | rfl <;> omega

/-- The code points of the ASCII letters. -/
theorem isAlpha_iff_toNat {c : Char} :
    c.isAlpha = true ↔ (65 ≤ c.toNat ∧ c.toNat ≤ 90) ∨ (97 ≤ c.toNat ∧ c.toNat ≤ 122) := by
  have hunfold : c.isAlpha = (decide (c.val ≥ 'A'.val ∧ c.val ≤ 'Z'.val) ||
      (decide (c.val ≥ 'a'.val) && decide (c.val ≤ 'z'.val))) := rfl
  rw [hunfold]
  simp [UInt32.le_iff_toNat_le]

/-- The ASCII letters and digits lie between the first digit and the last letter. -/
theorem isAlphanum_bounds {c : Char} (h : c.isAlphanum = true) :
    48 ≤ c.toNat ∧ c.toNat ≤ 122 := by
  rw [Char.isAlphanum, Bool.or_eq_true, isAlpha_iff_toNat, Char.isDigit_iff_toNat] at h
  simp only [Char.reduceToNat] at h
  omega

/-- No letter is a digit. -/
theorem isDigit_of_isAlpha {c : Char} (h : c.isAlpha = true) : c.isDigit = false := by
  cases hdigit : c.isDigit with
  | false => rfl
  | true =>
    rw [isAlpha_iff_toNat] at h
    rw [Char.isDigit_iff_toNat] at hdigit
    simp only [Char.reduceToNat] at hdigit
    omega

/-- No digit is a letter. -/
theorem isAlpha_of_isDigit {c : Char} (h : c.isDigit = true) : c.isAlpha = false := by
  cases halpha : c.isAlpha with
  | false => rfl
  | true => rw [isDigit_of_isAlpha halpha] at h; contradiction

/-- A letter goes on with a name. -/
theorem isAlphanum_of_isAlpha {c : Char} (h : c.isAlpha = true) : c.isAlphanum = true := by
  simp [Char.isAlphanum, h]

/-- So does a digit. -/
theorem isAlphanum_of_isDigit {c : Char} (h : c.isDigit = true) : c.isAlphanum = true := by
  simp [Char.isAlphanum, h]

/-- White space is neither a letter nor a digit. -/
theorem isWhiteSpace_of_isAlphanum {c : Char} (h : c.isAlphanum = true) :
    isWhiteSpace c = false := by
  cases hspace : isWhiteSpace c with
  | false => rfl
  | true =>
    have hbounds := isAlphanum_bounds h
    have hranges := isWhiteSpace_bounds hspace
    omega

/-- No digit is white space. -/
theorem isWhiteSpace_of_isDigit {c : Char} (h : c.isDigit = true) : isWhiteSpace c = false :=
  isWhiteSpace_of_isAlphanum (isAlphanum_of_isDigit h)

/-- White space ends a name. -/
theorem isAlphanum_of_isWhiteSpace {c : Char} (h : isWhiteSpace c = true) :
    c.isAlphanum = false := by
  cases halphanum : c.isAlphanum with
  | false => rfl
  | true => rw [isWhiteSpace_of_isAlphanum halphanum] at h; contradiction

/-- No white space is a digit. -/
theorem isDigit_of_isWhiteSpace {c : Char} (h : isWhiteSpace c = true) : c.isDigit = false := by
  have halphanum := isAlphanum_of_isWhiteSpace h
  simp only [Char.isAlphanum, Bool.or_eq_false_iff] at halphanum
  exact halphanum.2

/-- A character is covered by only one of two tables whose ranges lie apart. -/
theorem Unicode.Ranges.covers_of_apart {xs ys : Unicode.Ranges} {c : Char}
    (happart : ∀ x ∈ xs, ∀ y ∈ ys, x.2 < y.1 ∨ y.2 < x.1) (h : xs.covers c = true) :
    ys.covers c = false := by
  cases hcovers : ys.covers c with
  | false => rfl
  | true =>
    rw [covers_iff] at h hcovers
    rcases h with ⟨x, hx, hx₁, hx₂⟩
    rcases hcovers with ⟨y, hy, hy₁, hy₂⟩
    have hlt := happart x hx y hy
    omega

/-- Among the ASCII characters only the ASCII letters are alphabetic. -/
theorem isAlphabetic_of_lt {c : Char} (h : c.toNat < 128) : isAlphabetic c = c.isAlpha := by
  have hlow : ∀ range ∈ Unicode.alphabeticBeyondAscii, 128 ≤ range.1 := by decide +kernel
  have hbeyond : Unicode.alphabeticBeyondAscii.covers c = false := by
    cases hcovers : Unicode.alphabeticBeyondAscii.covers c with
    | false => rfl
    | true =>
      rcases Unicode.Ranges.covers_iff.mp hcovers with ⟨range, hrange, hfirst, -⟩
      have hbound := hlow range hrange
      omega
  rw [isAlphabetic, hbeyond, Bool.or_false]

/-- White space is not alphabetic. -/
theorem isAlphabetic_of_isWhiteSpace {c : Char} (h : isWhiteSpace c = true) :
    isAlphabetic c = false := by
  have halphanum := isAlphanum_of_isWhiteSpace h
  have hbeyond : Unicode.alphabeticBeyondAscii.covers c = false :=
    Unicode.Ranges.covers_of_apart (by decide +kernel) h
  simp only [Char.isAlphanum, Bool.or_eq_false_iff] at halphanum
  simp [isAlphabetic, halphanum.1, hbeyond]

/-- White space is no character that is not white space. -/
theorem eq_false_of_isWhiteSpace {c d : Char} (hd : isWhiteSpace d = false)
    (h : isWhiteSpace c = true) : decide (c = d) = false := by
  rw [decide_eq_false_iff_not]
  intro heq
  subst heq
  rw [hd] at h
  contradiction

/-- White space carries no word on. -/
theorem isWordChar_of_isWhiteSpace {c : Char} (h : isWhiteSpace c = true) :
    isWordChar c = false := by
  have hscore : decide (c = '_') = false := eq_false_of_isWhiteSpace rfl h
  simp [isWordChar, isNameChar, isAlphanum_of_isWhiteSpace h, hscore,
    isAlphabetic_of_isWhiteSpace h]

/-- The empty text is white space. -/
theorem isBlank_nil : IsBlank [] :=
  fun _ hc => absurd hc List.not_mem_nil

/-- So is a single white space character. -/
theorem isBlank_singleton {c : Char} (h : isWhiteSpace c = true) : IsBlank [c] :=
  fun _ hd => List.mem_singleton.mp hd ▸ h

/-- So is a space. -/
theorem isBlank_space : IsBlank [' '] :=
  isBlank_singleton rfl

/-- White space does not begin with a class that has none of it. -/
theorem stops_append_of_isBlank {p : Char → Bool} {w t : Text} (hw : IsBlank w) (ht : Stops p t)
    (hspace : ∀ c, isWhiteSpace c = true → p c = false) : Stops p (w ++ t) := by
  cases w with
  | nil => exact ht
  | cons c w => exact hspace c (hw c List.mem_cons_self)

end TypedList
