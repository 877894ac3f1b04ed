/-!
# Texts

A text is the list of its characters, so that every length, position and column counts
characters.  This module also trims texts and writes numbers as text.

Main results:

- Theorem `decimal_injective`: two numbers with the same decimal digits are equal.
-/

namespace TypedList

/-- A text: its characters in order. -/
abbrev Text := List Char

/-- A text without the characters of a class at its end. -/
def trimEnd (p : Char → Bool) (t : Text) : Text :=
  (t.reverse.dropWhile p).reverse

section

variable {p : Char → Bool} {c : Char} {s t : Text}

/-- What is cut off behind a text may have been put there. -/
theorem trimEnd_append (hs : ∀ c ∈ s, p c = true) : trimEnd p (t ++ s) = trimEnd p t := by
  unfold trimEnd
  rw [List.reverse_append, List.dropWhile_append_of_pos]
  intro c hc
  exact hs c (List.mem_reverse.mp hc)

/-- Any other character at the end stays. -/
theorem trimEnd_concat (hc : p c = false) : trimEnd p (t ++ [c]) = t ++ [c] := by
  simp [trimEnd, hc]

/-- What is left was there before. -/
theorem mem_of_mem_trimEnd (hc : c ∈ trimEnd p t) : c ∈ t :=
  List.mem_reverse.mp ((List.dropWhile_sublist p).mem (List.mem_reverse.mp hc))

/-- What is left ends in no character of the class. -/
theorem eq_false_of_mem_getLast?_trimEnd (hc : c ∈ (trimEnd p t).getLast?) : p c = false := by
  have hhead := List.head?_dropWhile_not p t.reverse
  rw [trimEnd, List.getLast?_reverse, Option.mem_def] at hc
  rwa [hc] at hhead

end

/-- A number in decimal, without leading zeros. -/
def decimal (n : Nat) : Text :=
  Nat.toDigits 10 n

/-- A number in lower-case hexadecimal, without leading zeros. -/
def hexadecimal (n : Nat) : Text :=
  Nat.toDigits 16 n

/-- A decimal number is digits only. -/
theorem isDigit_of_mem_decimal {c : Char} {n : Nat} (hc : c ∈ decimal n) : c.isDigit = true :=
  Nat.isDigit_of_mem_toDigits (by decide) (by decide) hc

/-- No other character is in it. -/
theorem notMem_decimal {c : Char} (hc : c.isDigit = false) (n : Nat) : c ∉ decimal n := by
  intro hmem
  rw [isDigit_of_mem_decimal hmem] at hc
  contradiction

/-- Reading the decimal digits of a number gives the number back. -/
theorem ofDigitChars_decimal (n : Nat) : Nat.ofDigitChars 10 (decimal n) 0 = n :=
  Nat.ofDigitChars_ten_toDigits

/-- Two numbers with the same decimal digits are equal. -/
theorem decimal_injective {m n : Nat} (h : decimal m = decimal n) : m = n := by
  rw [← ofDigitChars_decimal m, h, ofDigitChars_decimal]

end TypedList
