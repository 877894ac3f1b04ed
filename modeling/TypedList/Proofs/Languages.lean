import Mathlib.Computability.Language
import TypedList.Check.Declaration
import TypedList.Proofs.Runs

/-!
# The languages of the grammar

The pieces of a list declaration as languages over the characters, so that a declaration is a
product of them and what may stand behind each of its pieces is a product as well.

Main results:

- Theorem `Grammar.afterElement_eq`: what may stand behind an element is the closing of the list,
  or a comma and the closing, or a comma and another element with what may stand behind that.
- Theorem `Grammar.mem_declaration`: the product of the pieces holds exactly the declarations.
-/

namespace TypedList

namespace Grammar

open scoped Computability

/-! ## Pieces -/

/-- White space. -/
def blank : Language Char :=
  {t | IsBlank t}

/-- The one text that consists of the given character. -/
def symbol (c : Char) : Language Char :=
  {t | t = [c]}

/-- Names. -/
def name : Language Char :=
  {t | IsName t}

/-- Runs of digits. -/
def digits : Language Char :=
  {t | IsDigits t}

/-- What may follow the first digits of a number. -/
def fraction : Language Char :=
  1 + symbol '.' * digits

/-- Numbers without a sign. -/
def unsigned : Language Char :=
  digits * fraction

/-- The signs of a number, or none. -/
def sign : Language Char :=
  1 + (symbol '+' + symbol '-')

/-- Strings in double quotes. -/
def string : Language Char :=
  {t | ∃ body, '"' ∉ body ∧ t = '"' :: (body ++ ['"'])}

/-- Elements. -/
def element : Language Char :=
  string + sign * unsigned

/-- A comma with white space around it, and an element. -/
def nextElement : Language Char :=
  blank * (symbol ',' * (blank * element))

/-- What may stand between the brackets. -/
def body : Language Char :=
  1 + element * nextElement∗ * (1 + blank * symbol ',')

/-- What may stand behind an element of a list, if the given texts may stand where the list is
closed. -/
def afterElement (close : Language Char) : Language Char :=
  nextElement∗ * ((1 + blank * symbol ',') * (blank * close))

/-- What may stand behind the opening bracket and white space. -/
def inside (close : Language Char) : Language Char :=
  close + element * afterElement close

/-- What may stand behind the closing bracket. -/
def ending : Language Char :=
  blank * (symbol ';' * blank)

/-- What may stand where a list is closed. -/
def closing : Language Char :=
  symbol ']' * ending

/-- What may stand where a list is opened. -/
def opening : Language Char :=
  symbol '[' * (blank * inside closing)

/-- What may stand behind a name and white space. -/
def assignment : Language Char :=
  symbol '=' * (blank * opening)

/-- List declarations. -/
def declaration : Language Char :=
  blank * (name * (blank * assignment))

/-- The texts of `blank` are the runs of white space. -/
theorem mem_blank {t : Text} : t ∈ blank ↔ IsBlank t :=
  Iff.rfl

/-- The texts of `name` are the names. -/
theorem mem_name {t : Text} : t ∈ name ↔ IsName t :=
  Iff.rfl

/-- The texts of `digits` are the runs of digits. -/
theorem mem_digits {t : Text} : t ∈ digits ↔ IsDigits t :=
  Iff.rfl

/-- A symbol is the only text of its language. -/
theorem mem_symbol {c : Char} {t : Text} : t ∈ symbol c ↔ t = [c] :=
  Iff.rfl

/-- The texts of `string` are those in quotes with none inside. -/
theorem mem_string {t : Text} : t ∈ string ↔ ∃ body, '"' ∉ body ∧ t = '"' :: (body ++ ['"']) :=
  Iff.rfl

/-- A symbol and what follows it. -/
theorem mem_symbol_mul {c : Char} {K : Language Char} {t : Text} :
    t ∈ symbol c * K ↔ ∃ rest ∈ K, t = c :: rest := by
  rw [Language.mem_mul]
  constructor
  · intro h
    rcases h with ⟨x, hx, rest, hrest, rfl⟩
    rw [mem_symbol] at hx
    subst hx
    exact ⟨rest, hrest, rfl⟩
  · intro h
    rcases h with ⟨rest, hrest, rfl⟩
    exact ⟨[c], rfl, rest, hrest, rfl⟩

/-- A product with a symbol in front is known by its first character. -/
theorem cons_mem_symbol_mul {c d : Char} {K : Language Char} {rest : Text} :
    d :: rest ∈ symbol c * K ↔ d = c ∧ rest ∈ K := by
  rw [mem_symbol_mul]
  constructor
  · intro h
    rcases h with ⟨t, ht, heq⟩
    rw [List.cons.injEq] at heq
    rw [heq.1, heq.2]
    exact ⟨rfl, ht⟩
  · intro h
    rcases h with ⟨rfl, hrest⟩
    exact ⟨rest, hrest, rfl⟩

/-- Two runs of white space are one. -/
theorem isBlank_append {v w : Text} (hv : IsBlank v) (hw : IsBlank w) : IsBlank (v ++ w) := by
  intro c hc
  rw [List.mem_append] at hc
  rcases hc with hc | hc
  · exact hv c hc
  · exact hw c hc

/-- Two runs of white space make one. -/
theorem blank_mul_blank : blank * blank = blank := by
  ext t
  rw [Language.mem_mul]
  constructor
  · intro h
    rcases h with ⟨v, hv, w, hw, rfl⟩
    exact isBlank_append hv hw
  · intro ht
    exact ⟨[], by simp [mem_blank, IsBlank], t, ht, rfl⟩

/-- White space and what it may stand in front of. -/
theorem append_mem_blank_mul {w t : Text} {K : Language Char} (hw : IsBlank w) (ht : t ∈ K) :
    w ++ t ∈ blank * K :=
  Language.append_mem_mul (mem_blank.mpr hw) ht

/-- White space may be absent. -/
theorem mem_blank_mul_of_mem {t : Text} {K : Language Char} (ht : t ∈ K) : t ∈ blank * K :=
  append_mem_blank_mul (w := []) (by simp [IsBlank]) ht

/-- More white space in front of what white space may stand in front of changes nothing. -/
theorem append_mem_blank_mul_self {w t : Text} {K : Language Char} (hw : IsBlank w)
    (ht : t ∈ blank * K) : w ++ t ∈ blank * K := by
  rw [← blank_mul_blank, mul_assoc]
  exact append_mem_blank_mul hw ht

/-! ## Lists of elements -/

/-- What may stand behind an element: the closing of the list, or a comma and the closing, or a
comma and another element with what may stand behind that. -/
theorem afterElement_eq (close : Language Char) :
    afterElement close = blank * (close + symbol ',' * (blank * inside close)) := by
  have hunfold : afterElement close =
      (1 + blank * symbol ',') * (blank * close) + nextElement * afterElement close := by
    rw [afterElement, ← mul_assoc nextElement, ← one_add_mul,
      Language.one_add_self_mul_kstar_eq_kstar]
  calc afterElement close
      = (1 + blank * symbol ',') * (blank * close) + nextElement * afterElement close := hunfold
    _ = blank * (close + symbol ',' * (blank * inside close)) := by
      simp only [nextElement, inside, mul_add, add_mul, one_mul, mul_assoc, add_assoc]

/-- The language of numbers without a sign is the one of the grammar. -/
theorem mem_unsigned {t : Text} : t ∈ unsigned ↔ IsUnsigned t := by
  rw [unsigned, fraction, mul_add, mul_one, Language.mem_add, Language.mem_mul]
  constructor
  · intro h
    rcases h with ht | ⟨whole, hwhole, rest, hrest, rfl⟩
    · exact .integer ht
    · rw [mem_symbol_mul] at hrest
      obtain ⟨decimals, hdecimals, rfl⟩ := hrest
      exact .float hwhole hdecimals
  · intro ht
    cases ht with
    | integer hwhole => exact Or.inl hwhole
    | @float whole decimals hwhole hdecimals =>
      exact Or.inr ⟨whole, hwhole, '.' :: decimals, mem_symbol_mul.mpr ⟨_, hdecimals, rfl⟩, rfl⟩

/-- A number is unsigned or a sign and an unsigned number. -/
theorem mem_sign_mul {K : Language Char} {t : Text} :
    t ∈ sign * K ↔ t ∈ K ∨ ∃ c rest, (c = '+' ∨ c = '-') ∧ rest ∈ K ∧ t = c :: rest := by
  rw [sign, add_mul, one_mul, add_mul, Language.mem_add, Language.mem_add, mem_symbol_mul,
    mem_symbol_mul]
  constructor
  · intro h
    rcases h with ht | ⟨rest, hrest, rfl⟩ | ⟨rest, hrest, rfl⟩
    · exact Or.inl ht
    · exact Or.inr ⟨'+', rest, Or.inl rfl, hrest, rfl⟩
    · exact Or.inr ⟨'-', rest, Or.inr rfl, hrest, rfl⟩
  · intro h
    rcases h with ht | ⟨c, rest, rfl | rfl, hrest, rfl⟩
    · exact Or.inl ht
    · exact Or.inr (Or.inl ⟨rest, hrest, rfl⟩)
    · exact Or.inr (Or.inr ⟨rest, hrest, rfl⟩)

/-- The language of elements is the one of the grammar. -/
theorem mem_element {t : Text} : t ∈ element ↔ IsElement t := by
  rw [element, Language.mem_add, mem_sign_mul, mem_string]
  constructor
  · intro h
    rcases h with ⟨body, hbody, rfl⟩ | ht | ⟨c, rest, hc, hrest, rfl⟩
    · exact .string hbody
    · exact .unsigned (mem_unsigned.mp ht)
    · exact .signed hc (mem_unsigned.mp hrest)
  · intro ht
    cases ht with
    | @string body hbody => exact Or.inl ⟨body, hbody, rfl⟩
    | unsigned hnumber => exact Or.inr (Or.inl (mem_unsigned.mpr hnumber))
    | @signed c rest hc hrest => exact Or.inr (Or.inr ⟨c, rest, hc, mem_unsigned.mpr hrest, rfl⟩)

/-- Lists of elements are an element and any number of next ones. -/
theorem mem_elements {t : Text} : t ∈ element * nextElement∗ ↔ IsElements t := by
  constructor
  · intro ht
    obtain ⟨x, hx, rest, hrest, rfl⟩ := Language.mem_mul.mp ht
    obtain ⟨pieces, rfl, hpieces⟩ := Language.mem_kstar.mp hrest
    clear ht hrest
    induction pieces generalizing x with
    | nil => simpa using IsElements.single (mem_element.mp hx)
    | cons piece pieces ih =>
      have hpiece := hpieces piece List.mem_cons_self
      obtain ⟨before, hbefore, u, hu, rfl⟩ := Language.mem_mul.mp hpiece
      obtain ⟨v, hv, rfl⟩ := mem_symbol_mul.mp hu
      obtain ⟨after, hafter, y, hy, rfl⟩ := Language.mem_mul.mp hv
      have hrest := ih y hy fun z hz => hpieces z (List.mem_cons_of_mem _ hz)
      have hcons := IsElements.cons (mem_element.mp hx) hbefore hafter hrest
      simpa using hcons
  · intro ht
    induction ht with
    | single hx => exact Language.mem_mul.mpr ⟨_, mem_element.mpr hx, [], Language.nil_mem_kstar _,
        List.append_nil _⟩
    | @cons x before after rest hx hbefore hafter _ ih =>
      have hnext : before ++ ',' :: (after ++ rest) ∈ nextElement * nextElement∗ := by
        simp only [nextElement, mul_assoc]
        exact Language.append_mem_mul hbefore
          (mem_symbol_mul.mpr ⟨_, Language.append_mem_mul hafter ih, rfl⟩)
      have hstar : before ++ ',' :: (after ++ rest) ∈ nextElement∗ := by
        rw [← Language.one_add_self_mul_kstar_eq_kstar, Language.mem_add]
        exact Or.inr hnext
      simpa using Language.append_mem_mul (mem_element.mpr hx) hstar

/-- Bodies are empty, or elements with or without a comma behind them. -/
theorem mem_body {t : Text} : t ∈ body ↔ IsBody t := by
  rw [body, mul_add, mul_one, Language.mem_add, Language.mem_one, Language.mem_add, Language.mem_mul]
  constructor
  · intro h
    rcases h with rfl | ht | ⟨elements, helements, rest, hrest, rfl⟩
    · exact .empty
    · exact .elements (mem_elements.mp ht)
    · obtain ⟨before, hbefore, comma, hcomma, rfl⟩ := Language.mem_mul.mp hrest
      rw [mem_symbol] at hcomma
      subst hcomma
      have htrailing := IsBody.trailingComma (mem_elements.mp helements) hbefore
      rw [List.append_assoc] at htrailing
      exact htrailing
  · intro ht
    cases ht with
    | empty => exact Or.inl rfl
    | elements helements => exact Or.inr (Or.inl (mem_elements.mpr helements))
    | @trailingComma elements before helements hbefore =>
      rw [List.append_assoc]
      exact Or.inr (Or.inr ⟨_, mem_elements.mpr helements, _,
        Language.append_mem_mul hbefore rfl, rfl⟩)

/-- Behind the opening bracket stand white space, a body, white space and the closing. -/
theorem blank_mul_inside (close : Language Char) :
    blank * inside close = blank * (body * (blank * close)) := by
  have hempty : blank * (blank * close) = blank * close := by
    rw [← mul_assoc, blank_mul_blank]
  rw [body, add_mul, one_mul, mul_add, hempty, inside, afterElement, mul_add]
  simp only [mul_assoc]

/-- The product of the pieces holds exactly the declarations. -/
theorem mem_declaration {t : Text} : t ∈ declaration ↔ IsDeclaration t := by
  rw [declaration, assignment, opening, blank_mul_inside, closing, ending]
  constructor
  · intro ht
    obtain ⟨w₀, hw₀, t₀, ht₀, rfl⟩ := Language.mem_mul.mp ht
    obtain ⟨n, hn, t₁, ht₁, rfl⟩ := Language.mem_mul.mp ht₀
    obtain ⟨w₁, hw₁, t₂, ht₂, rfl⟩ := Language.mem_mul.mp ht₁
    obtain ⟨t₃, ht₃, rfl⟩ := mem_symbol_mul.mp ht₂
    obtain ⟨w₂, hw₂, t₄, ht₄, rfl⟩ := Language.mem_mul.mp ht₃
    obtain ⟨t₅, ht₅, rfl⟩ := mem_symbol_mul.mp ht₄
    obtain ⟨w₃, hw₃, t₆, ht₆, rfl⟩ := Language.mem_mul.mp ht₅
    obtain ⟨b, hb, t₇, ht₇, rfl⟩ := Language.mem_mul.mp ht₆
    obtain ⟨w₄, hw₄, t₈, ht₈, rfl⟩ := Language.mem_mul.mp ht₇
    obtain ⟨t₉, ht₉, rfl⟩ := mem_symbol_mul.mp ht₈
    obtain ⟨w₅, hw₅, t₁₀, ht₁₀, rfl⟩ := Language.mem_mul.mp ht₉
    obtain ⟨w₆, hw₆, rfl⟩ := mem_symbol_mul.mp ht₁₀
    exact ⟨w₀, n, w₁, w₂, w₃, b, w₄, w₅, w₆, hw₀, hn, hw₁, hw₂, hw₃, mem_body.mp hb, hw₄, hw₅, hw₆,
      by simp⟩
  · intro h
    rcases h with ⟨w₀, n, w₁, w₂, w₃, b, w₄, w₅, w₆, hw₀, hn, hw₁, hw₂, hw₃, hb, hw₄, hw₅, hw₆, rfl⟩
    have hending : w₅ ++ ';' :: w₆ ∈ ending :=
      append_mem_blank_mul hw₅ (mem_symbol_mul.mpr ⟨w₆, hw₆, rfl⟩)
    have hclosing : w₄ ++ ']' :: (w₅ ++ ';' :: w₆) ∈ blank * closing :=
      append_mem_blank_mul hw₄ (mem_symbol_mul.mpr ⟨_, hending, rfl⟩)
    have hbody := append_mem_blank_mul hw₃ (Language.append_mem_mul (mem_body.mpr hb) hclosing)
    have hlist := append_mem_blank_mul hw₂ ((mem_symbol_mul (c := '[')).mpr ⟨_, hbody, rfl⟩)
    have hassign := append_mem_blank_mul hw₁ ((mem_symbol_mul (c := '=')).mpr ⟨_, hlist, rfl⟩)
    have hdeclaration :=
      append_mem_blank_mul hw₀ (Language.append_mem_mul (mem_name.mpr hn) hassign)
    simpa [closing, ending] using hdeclaration

/-! ## First characters -/

/-- No text of the language begins with a character of the class. -/
def Avoids (K : Language Char) (p : Char → Bool) : Prop :=
  ∀ t ∈ K, Stops p t

/-- What begins with a symbol avoids every class that the symbol is not in. -/
theorem avoids_symbol_mul {c : Char} {K : Language Char} {p : Char → Bool} (hc : p c = false) :
    Avoids (symbol c * K) p := by
  intro t ht
  obtain ⟨rest, -, rfl⟩ := mem_symbol_mul.mp ht
  exact hc

/-- A sum avoids what both languages avoid. -/
theorem avoids_add {K L : Language Char} {p : Char → Bool} (hK : Avoids K p) (hL : Avoids L p) :
    Avoids (K + L) p := by
  intro t ht
  rw [Language.mem_add] at ht
  rcases ht with ht | ht
  · exact hK t ht
  · exact hL t ht

/-- White space in front changes nothing where the class has no white space. -/
theorem avoids_blank_mul {K : Language Char} {p : Char → Bool} (hK : Avoids K p)
    (hspace : ∀ c, isWhiteSpace c = true → p c = false) : Avoids (blank * K) p := by
  intro t ht
  obtain ⟨w, hw, u, hu, rfl⟩ := Language.mem_mul.mp ht
  exact stops_append_of_isBlank hw (hK u hu) hspace

/-- Whether a number may begin with the character. -/
def startsNumber (c : Char) : Bool :=
  Routine.isSign c || c.isDigit

/-- Whether an element may begin with the character. -/
def startsElement (c : Char) : Bool :=
  c = '"' || startsNumber c

/-- What begins with a symbol begins with its character. -/
theorem begins_symbol_mul {c : Char} {K : Language Char} {t : Text} (ht : t ∈ symbol c * K) :
    Begins (· = c) t := by
  rcases mem_symbol_mul.mp ht with ⟨rest, -, rfl⟩
  simp [Begins]

/-- A text that begins with a nonempty run of a class begins with the class. -/
theorem begins_append {p : Char → Bool} {x u : Text} (hne : x ≠ []) (hx : ∀ c ∈ x, p c = true) :
    Begins p (x ++ u) := by
  rcases List.exists_cons_of_ne_nil hne with ⟨c, x, rfl⟩
  exact begins_iff.mpr ⟨c, x ++ u, hx c List.mem_cons_self, rfl⟩

/-- What begins with a name begins with a letter. -/
theorem begins_name_mul {K : Language Char} {t : Text} (ht : t ∈ name * K) :
    Begins Char.isAlpha t := by
  rcases Language.mem_mul.mp ht with ⟨n, ⟨hne, hn⟩, u, -, rfl⟩
  exact begins_append hne hn

/-- What begins with digits begins with a digit. -/
theorem begins_digits_mul {K : Language Char} {t : Text} (ht : t ∈ digits * K) :
    Begins Char.isDigit t := by
  rcases Language.mem_mul.mp ht with ⟨n, ⟨hne, hn⟩, u, -, rfl⟩
  exact begins_append hne hn

/-- So does what begins with a number without a sign. -/
theorem begins_unsigned_mul {K : Language Char} {t : Text} (ht : t ∈ unsigned * K) :
    Begins Char.isDigit t := by
  rw [unsigned, mul_assoc] at ht
  exact begins_digits_mul ht

/-- What begins with a string begins with a quote. -/
theorem begins_string_mul {K : Language Char} {t : Text} (ht : t ∈ string * K) :
    Begins (· = '"') t := by
  rcases Language.mem_mul.mp ht with ⟨x, ⟨body, -, rfl⟩, u, -, rfl⟩
  rfl

/-- Every text that begins with a number begins with a character of one. -/
theorem begins_number_mul {K : Language Char} {t : Text} (ht : t ∈ sign * (unsigned * K)) :
    Begins startsNumber t := by
  rcases mem_sign_mul.mp ht with ht | ⟨c, rest, hc, -, rfl⟩
  · rcases begins_iff.mp (begins_unsigned_mul ht) with ⟨c, rest, hc, rfl⟩
    exact begins_iff.mpr ⟨c, rest, by simp [startsNumber, hc], rfl⟩
  · refine begins_iff.mpr ⟨c, rest, ?_, rfl⟩
    rcases hc with rfl | rfl <;> rfl

/-- Every text that begins with an element begins with a character of one. -/
theorem begins_element_mul {K : Language Char} {t : Text} (ht : t ∈ element * K) :
    Begins startsElement t := by
  rw [element, add_mul, mul_assoc, Language.mem_add] at ht
  rcases ht with ht | ht
  · rcases begins_iff.mp (begins_string_mul ht) with ⟨c, rest, hc, rfl⟩
    exact begins_iff.mpr ⟨c, rest, by simp [startsElement, of_decide_eq_true hc], rfl⟩
  · rcases begins_iff.mp (begins_number_mul ht) with ⟨c, rest, hc, rfl⟩
    exact begins_iff.mpr ⟨c, rest, by simp [startsElement, hc], rfl⟩

/-- Behind the elements the closing bracket comes first. -/
theorem begins_closing {t : Text} (ht : t ∈ closing) : Begins (· = ']') t :=
  begins_symbol_mul ht

/-! ## Languages with a text -/

/-- A product is not empty if its factors are not. -/
theorem exists_mem_mul {K L : Language Char} (hK : ∃ t, t ∈ K) (hL : ∃ t, t ∈ L) :
    ∃ t, t ∈ K * L := by
  rcases hK with ⟨x, hx⟩
  rcases hL with ⟨y, hy⟩
  exact ⟨x ++ y, Language.append_mem_mul hx hy⟩

theorem exists_mem_blank : ∃ t, t ∈ blank :=
  ⟨[], by simp [mem_blank, IsBlank]⟩

theorem exists_mem_symbol (c : Char) : ∃ t, t ∈ symbol c :=
  ⟨[c], rfl⟩

theorem exists_mem_name : ∃ t, t ∈ name :=
  ⟨['a'], by simp [mem_name, IsName]⟩

theorem exists_mem_digits : ∃ t, t ∈ digits :=
  ⟨['0'], by simp [mem_digits, IsDigits]⟩

theorem exists_mem_fraction : ∃ t, t ∈ fraction :=
  ⟨[], Or.inl rfl⟩

theorem exists_mem_string : ∃ t, t ∈ string :=
  ⟨['"', '"'], [], by simp, rfl⟩

theorem exists_mem_number : ∃ t, t ∈ sign * unsigned :=
  exists_mem_mul ⟨[], Or.inl rfl⟩ (exists_mem_mul exists_mem_digits exists_mem_fraction)

theorem exists_mem_ending : ∃ t, t ∈ ending :=
  exists_mem_mul exists_mem_blank (exists_mem_mul (exists_mem_symbol ';') exists_mem_blank)

theorem exists_mem_closing : ∃ t, t ∈ closing :=
  exists_mem_mul (exists_mem_symbol ']') exists_mem_ending

theorem exists_mem_afterElement : ∃ t, t ∈ afterElement closing := by
  rw [afterElement_eq]
  apply exists_mem_mul exists_mem_blank
  rcases exists_mem_closing with ⟨t, ht⟩
  exact ⟨t, Or.inl ht⟩

theorem exists_mem_inside : ∃ t, t ∈ blank * inside closing := by
  apply exists_mem_mul exists_mem_blank
  rcases exists_mem_closing with ⟨t, ht⟩
  exact ⟨t, Or.inl ht⟩

theorem exists_mem_opening : ∃ t, t ∈ blank * opening :=
  exists_mem_mul exists_mem_blank (exists_mem_mul (exists_mem_symbol '[') exists_mem_inside)

theorem exists_mem_assignment : ∃ t, t ∈ blank * assignment :=
  exists_mem_mul exists_mem_blank (exists_mem_mul (exists_mem_symbol '=') exists_mem_opening)

/-! ## Characters that cannot come first -/

/-- No element begins with white space. -/
theorem isWhiteSpace_of_startsElement {c : Char} (hc : startsElement c = true) :
    isWhiteSpace c = false := by
  simp only [startsElement, startsNumber, Routine.isSign, Bool.or_eq_true, decide_eq_true_eq] at hc
  rcases hc with rfl | (rfl | rfl) | hdigit
  · rfl
  · rfl
  · rfl
  · exact isWhiteSpace_of_isAlphanum (isAlphanum_of_isDigit hdigit)

/-- No name begins with white space. -/
theorem avoids_name_mul {K : Language Char} : Avoids (name * K) isWhiteSpace := by
  intro t ht
  apply (begins_name_mul ht).stops
  intro c hc
  exact isWhiteSpace_of_isAlphanum (isAlphanum_of_isAlpha hc)

/-- Neither does an element. -/
theorem avoids_element_mul {K : Language Char} : Avoids (element * K) isWhiteSpace :=
  fun _ ht => (begins_element_mul ht).stops fun _ hc => isWhiteSpace_of_startsElement hc

/-- Neither does what stands between the brackets, together with the closing one. -/
theorem avoids_inside_closing : Avoids (inside closing) isWhiteSpace :=
  avoids_add (avoids_symbol_mul rfl) avoids_element_mul

/-- What stands behind an element does not carry a number on. -/
theorem avoids_afterElement {p : Char → Bool} (hspace : ∀ c, isWhiteSpace c = true → p c = false)
    (hclose : p ']' = false) (hcomma : p ',' = false) : Avoids (afterElement closing) p := by
  rw [afterElement_eq]
  exact avoids_blank_mul (avoids_add (avoids_symbol_mul hclose) (avoids_symbol_mul hcomma)) hspace

end Grammar

end TypedList
