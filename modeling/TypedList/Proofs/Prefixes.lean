import TypedList.Proofs.Languages

/-!
# Prefixes of a language

A reader with one character of lookahead knows a prefix of the text and the character behind it.
What it has read either leaves a smaller language for the rest, or it can still be completed while
no text that goes on with the same character can: then that character is the first one that does
not belong.

Main results:

- Theorem `Leaves.trans`: prefixes are read piece by piece.
- Theorem `Leaves.rejects`: the first character that does not belong behind a piece does not
  belong behind the pieces before it either.
- The `leaves_` and `rejects_` theorems of the pieces of the grammar.
-/

namespace TypedList

open Grammar

/-- Reading a prefix of a text of `L`, with the lookahead of the text that is left, leaves a text
of `K`. -/
structure Leaves (L : Language Char) (passed : Text) (K : Language Char) (left : Text) : Prop where
  complete : ∀ t ∈ K, passed ++ t ∈ L
  sound : ∀ t, t.head? = left.head? → passed ++ t ∈ L → t ∈ K

/-- A prefix can be completed to a text of `L`, but not to one that goes on as the text that is
left does. -/
structure Rejects (L : Language Char) (passed left : Text) : Prop where
  viable : ∃ t, passed ++ t ∈ L
  fatal : ∀ t, t.head? = left.head? → passed ++ t ∉ L

variable {A B K L M : Language Char} {x y w n left t : Text} {p : Char → Bool} {c : Char}

/-- What a text goes on with shows only in its first character. -/
theorem head?_append_congr (x : Text) (h : t.head? = left.head?) :
    (x ++ t).head? = (x ++ left).head? := by
  rw [List.head?_append, List.head?_append, h]

/-- Prefixes are read piece by piece. -/
theorem Leaves.trans (hfirst : Leaves L x K (y ++ left)) (hnext : Leaves K y M left) :
    Leaves L (x ++ y) M left := by
  constructor
  · intro t ht
    rw [List.append_assoc]
    exact hfirst.complete _ (hnext.complete t ht)
  · intro t hhead ht
    rw [List.append_assoc] at ht
    exact hnext.sound t hhead (hfirst.sound _ (head?_append_congr y hhead) ht)

/-- The first character that does not belong behind a piece does not belong behind the pieces
before it either. -/
theorem Leaves.rejects (hfirst : Leaves L x K (y ++ left)) (hnext : Rejects K y left) :
    Rejects L (x ++ y) left := by
  constructor
  · rcases hnext.viable with ⟨t, ht⟩
    refine ⟨t, ?_⟩
    rw [List.append_assoc]
    exact hfirst.complete _ ht
  · intro t hhead ht
    rw [List.append_assoc] at ht
    exact hnext.fatal t hhead (hfirst.sound _ (head?_append_congr y hhead) ht)

/-- What a complete prefix leaves decides whether the whole text belongs. -/
theorem Leaves.mem_iff (h : Leaves L x K left) : x ++ left ∈ L ↔ left ∈ K :=
  ⟨h.sound left rfl, h.complete left⟩

/-! ## Choices -/

/-- A text that does not begin as the language does is rejected at once. -/
theorem rejects_of_begins (hL : ∃ t, t ∈ L) (hbegins : ∀ t ∈ L, Begins p t)
    (hleft : Stops p left) : Rejects L [] left := by
  refine ⟨hL, ?_⟩
  intro t hhead ht
  exact (hbegins t ht).head?_ne hleft hhead

/-- The lookahead excludes the second of two languages. -/
theorem leaves_add_left (hB : ∀ t ∈ B, t.head? ≠ left.head?) : Leaves (A + B) [] A left := by
  constructor
  · intro t ht
    exact Or.inl ht
  · intro t hhead ht
    rcases ht with ht | ht
    · exact ht
    · exact absurd hhead (hB t ht)

/-- The lookahead excludes the first of two languages. -/
theorem leaves_add_right (hA : ∀ t ∈ A, t.head? ≠ left.head?) : Leaves (A + B) [] B left := by
  rw [add_comm]
  exact leaves_add_left hA

/-! ## Symbols and white space -/

/-- Behind a symbol the rest of the product is left. -/
theorem leaves_symbol : Leaves (symbol c * K) [c] K left := by
  constructor
  · intro t ht
    exact mem_symbol_mul.mpr ⟨t, ht, rfl⟩
  · intro t _ ht
    exact (cons_mem_symbol_mul.mp ht).2

/-- White space as far as it goes leaves what may follow it. -/
theorem leaves_blank (hleft : Stops isWhiteSpace left) (hA : Avoids A isWhiteSpace)
    (hw : IsBlank w) : Leaves (blank * A) w A left := by
  constructor
  · intro t ht
    exact append_mem_blank_mul hw ht
  · intro t hhead ht
    rcases Language.mem_mul.mp ht with ⟨v, hv, a, ha, heq⟩
    have hcut := append_inj_of_stops hv (hA a ha) hw (hleft.congr hhead) heq
    exact hcut.2 ▸ ha

/-- Behind white space the lookahead narrows what may follow; more white space may still come
before it. -/
theorem leaves_blank_narrow (hleft : Stops isWhiteSpace left) (hA : Avoids A isWhiteSpace)
    (hw : IsBlank w) (hnarrow : Leaves A [] B left) :
    Leaves (blank * A) w (blank * B) left := by
  constructor
  · intro t ht
    rcases Language.mem_mul.mp ht with ⟨v, hv, b, hb, rfl⟩
    exact append_mem_blank_mul_self hw (append_mem_blank_mul hv (hnarrow.complete b hb))
  · intro t hhead ht
    have ha := (leaves_blank hleft hA hw).sound t hhead ht
    exact mem_blank_mul_of_mem (hnarrow.sound t hhead ha)

/-! ## Names -/

/-- Letters as far as they go leave what may follow a name. -/
theorem leaves_name (hK : Avoids K Char.isAlpha) (hn : IsName n) (hleft : Stops Char.isAlpha left) :
    Leaves (name * K) n K left := by
  constructor
  · intro t ht
    exact Language.append_mem_mul (mem_name.mpr hn) ht
  · intro t hhead ht
    rcases Language.mem_mul.mp ht with ⟨m, hm, k, hk, heq⟩
    have hcut := append_inj_of_stops hm.2 (hK k hk) hn.2 (hleft.congr hhead) heq
    exact hcut.2 ▸ hk

/-- A digit behind the letters of a name is one too many, if something else has to follow. -/
theorem rejects_name_digit (hK : ∃ t, t ∈ K) (hletter : Avoids K Char.isAlpha)
    (hdigit : Avoids K Char.isDigit) (hn : IsName n) (hleft : Stops Char.isAlpha left)
    (hbegins : Begins Char.isDigit left) : Rejects (name * K) n left := by
  constructor
  · rcases hK with ⟨t, ht⟩
    exact ⟨t, Language.append_mem_mul (mem_name.mpr hn) ht⟩
  · intro t hhead ht
    have hk := (leaves_name hletter hn hleft).sound t hhead ht
    exact (hbegins.congr hhead).not_stops (hdigit t hk)

/-! ## Numbers -/

/-- Behind a sign a number is left. -/
theorem leaves_sign (hc : Routine.isSign c = true) : Leaves (sign * (unsigned * K)) [c]
    (unsigned * K) left := by
  have hsign : c = '+' ∨ c = '-' := by
    simpa [Routine.isSign] using hc
  constructor
  · intro t ht
    exact mem_sign_mul.mpr (Or.inr ⟨c, t, hsign, ht, rfl⟩)
  · intro t _ ht
    rcases mem_sign_mul.mp ht with ht | ⟨d, rest, -, hrest, heq⟩
    · -- A number without a sign begins with a digit.
      have hbegins := begins_unsigned_mul ht
      rcases hsign with rfl | rfl <;> contradiction
    · rw [List.cons_append, List.nil_append, List.cons.injEq] at heq
      exact heq.2 ▸ hrest

/-- Where no sign stands, nothing is passed over. -/
theorem leaves_no_sign (hleft : Stops Routine.isSign left) : Leaves (sign * K) [] K left := by
  rw [sign, add_mul, one_mul]
  apply leaves_add_left
  intro t ht
  have hbegins : Begins Routine.isSign t := by
    rw [add_mul] at ht
    rcases ht with ht | ht <;> rcases mem_symbol_mul.mp ht with ⟨rest, -, rfl⟩ <;> rfl
  exact hbegins.head?_ne hleft

/-- Digits as far as they go leave what may follow them. -/
theorem leaves_digits (hK : Avoids K Char.isDigit) (hx : IsDigits x)
    (hleft : Stops Char.isDigit left) : Leaves (digits * K) x K left := by
  constructor
  · intro t ht
    exact Language.append_mem_mul (mem_digits.mpr hx) ht
  · intro t hhead ht
    rcases Language.mem_mul.mp ht with ⟨m, hm, k, hk, heq⟩
    have hcut := append_inj_of_stops hm.2 (hK k hk) hx.2 (hleft.congr hhead) heq
    exact hcut.2 ▸ hk

/-- Behind a point digits are left. -/
theorem leaves_point (hK : Avoids K (· = '.')) :
    Leaves (fraction * K) ['.'] (digits * K) left := by
  have hfraction : fraction * K = K + symbol '.' * (digits * K) := by
    rw [fraction, add_mul, one_mul, mul_assoc]
  rw [hfraction]
  constructor
  · intro t ht
    exact Or.inr (mem_symbol_mul.mpr ⟨t, ht, rfl⟩)
  · intro t _ ht
    rcases ht with ht | ht
    · have hstops := hK _ ht
      simp at hstops
    · exact (cons_mem_symbol_mul.mp ht).2

/-- Where no point stands, there is no fraction. -/
theorem leaves_no_point (hleft : Stops (· = '.') left) : Leaves (fraction * K) [] K left := by
  rw [fraction, add_mul, one_mul, mul_assoc]
  exact leaves_add_left fun t ht => (begins_symbol_mul ht).head?_ne hleft

/-! ## Strings -/

/-- Behind its closing quote a string leaves what may follow it. -/
theorem leaves_string (hx : '"' ∉ x) : Leaves (string * K) ('"' :: (x ++ ['"'])) K left := by
  constructor
  · intro t ht
    exact Language.append_mem_mul (mem_string.mpr ⟨x, hx, rfl⟩) ht
  · intro t _ ht
    rcases Language.mem_mul.mp ht with ⟨s, ⟨y, hy, rfl⟩, k, hk, heq⟩
    have hbodies : y ++ '"' :: k = x ++ '"' :: t := by
      simpa using heq
    have hcut := append_inj_of_stops (p := (· ≠ '"')) (by grind) (by simp) (by grind) (by simp)
      hbodies
    exact (List.cons.inj hcut.2).2 ▸ hk

/-- A string that is still open at the end of the text can be closed, but is not. -/
theorem rejects_open_string (hK : ∃ t, t ∈ K) (hx : '"' ∉ x) :
    Rejects (string * K) ('"' :: x) [] := by
  constructor
  · rcases hK with ⟨t, ht⟩
    refine ⟨'"' :: t, ?_⟩
    have hclosed := Language.append_mem_mul (mem_string.mpr ⟨x, hx, rfl⟩) ht
    simpa using hclosed
  · intro t hhead ht
    have hnil : t = [] := by
      simpa using hhead
    subst hnil
    rcases Language.mem_mul.mp ht with ⟨s, ⟨y, hy, rfl⟩, k, hk, heq⟩
    have hbodies : y ++ '"' :: k = x := by
      simpa using heq
    exact hx (by rw [← hbodies]; simp)

/-! ## Elements and lists of elements -/

/-- A double quote decides for a string. -/
theorem leaves_quote (hleft : Begins (· = '"') left) :
    Leaves (element * K) [] (string * K) left := by
  rw [element, add_mul, mul_assoc]
  apply leaves_add_left
  intro t ht
  apply (begins_number_mul ht).head?_ne
  apply hleft.stops
  intro c hc
  rw [of_decide_eq_true hc]
  rfl

/-- Anything but a double quote decides for a number. -/
theorem leaves_no_quote (hleft : Stops (· = '"') left) :
    Leaves (element * K) [] (sign * (unsigned * K)) left := by
  rw [element, add_mul, mul_assoc]
  exact leaves_add_right fun t ht => (begins_string_mul ht).head?_ne hleft

/-- Where no element begins, the list is closed. -/
theorem leaves_no_element (hspace : Stops isWhiteSpace left) (hleft : Stops startsElement left)
    (hw : IsBlank w) : Leaves (blank * inside closing) w (blank * closing) left :=
  leaves_blank_narrow hspace avoids_inside_closing hw
    (leaves_add_left fun _ ht => (begins_element_mul ht).head?_ne hleft)

/-- Where the list is not closed, an element begins. -/
theorem leaves_element (hspace : Stops isWhiteSpace left) (hleft : Stops (· = ']') left)
    (hw : IsBlank w) :
    Leaves (blank * inside closing) w (blank * (element * afterElement closing)) left :=
  leaves_blank_narrow hspace avoids_inside_closing hw
    (leaves_add_right fun _ ht => (begins_closing ht).head?_ne hleft)

/-- Where no comma stands behind an element, the list is closed. -/
theorem leaves_no_comma (hspace : Stops isWhiteSpace left) (hleft : Stops (· = ',') left)
    (hw : IsBlank w) : Leaves (afterElement closing) w (blank * closing) left := by
  rw [afterElement_eq]
  apply leaves_blank_narrow hspace _ hw
  · exact leaves_add_left fun _ ht => (begins_symbol_mul ht).head?_ne hleft
  · exact avoids_add (avoids_symbol_mul rfl) (avoids_symbol_mul rfl)

/-- Behind a comma the list is as behind its opening bracket. -/
theorem leaves_comma (hw : IsBlank w) :
    Leaves (afterElement closing) (w ++ [',']) (blank * inside closing) left := by
  rw [afterElement_eq]
  have hcomma : Leaves (closing + symbol ',' * (blank * inside closing)) []
      (symbol ',' * (blank * inside closing)) (',' :: left) :=
    leaves_add_right fun _ ht => (begins_closing ht).head?_ne (by simp)
  have hblank : Leaves (blank * (closing + symbol ',' * (blank * inside closing))) w
      (closing + symbol ',' * (blank * inside closing)) ([] ++ (',' :: left)) :=
    leaves_blank rfl (avoids_add (avoids_symbol_mul rfl) (avoids_symbol_mul rfl)) hw
  have hsymbol := hblank.trans hcomma
  rw [List.append_nil] at hsymbol
  exact Leaves.trans (y := [',']) hsymbol leaves_symbol

end TypedList
