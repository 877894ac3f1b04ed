import Mathlib.Data.List.Chain
import TypedList.Token.Scan

/-!
# The grammar of tokens

Which sequences of tokens are those of a list declaration.  Their codes follow the grammar of a
declaration, and further conditions hold where codes alone allow more than the check of a text
does: about the name, about floats, and about the place of signs.

Main results:

- Theorem `IsListTokens.code_ne_error`: no token of a declaration is an error.
- Theorems `Tidy.cons_plain` and `Tidy.cons_sign`: what may stand before tidy tokens.
-/

namespace TypedList

/-! ## The tokens of a declaration -/

/-- The token is a number. -/
def Token.IsNumber (token : Token) : Prop :=
  token.code = .integer ∨ token.code = .float

/-- The token is the sign of a number. -/
def Token.IsSign (token : Token) : Prop :=
  token.code = .plus ∨ token.code = .minus

/-- The tokens of an element: a string, or a number with at most one sign. -/
inductive IsElementTokens : List Token → Prop
  | string {literal : Token} : literal.code = .stringLiteral → IsElementTokens [literal]
  | unsigned {number : Token} : number.IsNumber → IsElementTokens [number]
  | signed {sign number : Token} : sign.IsSign → number.IsNumber → IsElementTokens [sign, number]

/-- The tokens of one or more elements with commas between them. -/
inductive IsElementsTokens : List Token → Prop
  | single {element : List Token} : IsElementTokens element → IsElementsTokens element
  | cons {element rest : List Token} {comma : Token} : IsElementTokens element →
      comma.code = .comma → IsElementsTokens rest → IsElementsTokens (element ++ comma :: rest)

/-- The tokens between the brackets: none, or elements with at most one comma behind the last. -/
inductive IsBodyTokens : List Token → Prop
  | empty : IsBodyTokens []
  | elements {elements : List Token} : IsElementsTokens elements → IsBodyTokens elements
  | trailingComma {elements : List Token} {comma : Token} : IsElementsTokens elements →
      comma.code = .comma → IsBodyTokens (elements ++ [comma])

/-- Codes in the order of a declaration. -/
inductive IsListTokens : List Token → Prop
  | list {name assign openBracket closeBracket semicolon : Token} {body : List Token} :
      name.code = .identifier ∨ name.code = .keyword → assign.code = .assign →
      openBracket.code = .openBracket → IsBodyTokens body → closeBracket.code = .closeBracket →
      semicolon.code = .semicolon →
        IsListTokens (name :: assign :: openBracket :: (body ++ [closeBracket, semicolon]))

/-- The token is no float that ends in a point. -/
def Token.EndsInDigit (token : Token) : Prop :=
  token.code = .float → token.lexeme.getLast? ≠ some '.'

/-- The second token stands on the line of the first, right behind it, if the first is a sign. -/
def Token.Joined (sign number : Token) : Prop :=
  sign.IsSign → number.span.line = sign.span.line ∧
    sign.span.endColumn + 1 = number.span.startColumn

/-- Every float ends in a digit, and every sign stands right before the token behind it. -/
structure Tidy (tokens : List Token) : Prop where
  floats : ∀ token ∈ tokens, token.EndsInDigit
  signs : tokens.IsChain Token.Joined

/-- The tokens of a list declaration: codes in its order, first a name of ASCII letters without an
error for another letter behind it, and numbers that are written as the check wants them. -/
structure IsDeclarationTokens (tokens : List Token) : Prop where
  shape : IsListTokens tokens
  plain_name : ∀ name ∈ tokens.head?, ∀ c ∈ name.lexeme, c.isAlpha = true
  no_inline_error : ∀ next ∈ tokens[1]?, next.fault ≠ some .invalidIdentifierCharacter
  tidy : Tidy tokens

/-! ## Tidy tokens -/

variable {token sign number : Token} {tokens more : List Token}

/-- The empty list of tokens is tidy. -/
theorem tidy_nil : Tidy [] :=
  ⟨by simp, .nil⟩

/-- Tidy tokens stay so without those in front. -/
theorem Tidy.of_append (tokens : List Token) (h : Tidy (tokens ++ more)) : Tidy more := by
  constructor
  · intro token htoken
    exact h.floats token (List.mem_append_right tokens htoken)
  · exact h.signs.right_of_append

/-- The first of tidy tokens does not end in a point. -/
theorem Tidy.endsInDigit (h : Tidy (token :: more)) : token.EndsInDigit :=
  h.floats token List.mem_cons_self

/-- A token that is no sign may stand before any tokens. -/
theorem Tidy.cons (h : Tidy more) (hsign : ¬ token.IsSign) (hfloat : token.EndsInDigit) :
    Tidy (token :: more) := by
  constructor
  · intro other hother
    rcases List.mem_cons.mp hother with rfl | hother
    · exact hfloat
    · exact h.floats other hother
  · rw [List.isChain_cons]
    exact ⟨fun _ _ hcode => absurd hcode hsign, h.signs⟩

/-- A sign may stand right before a number. -/
theorem Tidy.cons_sign (h : Tidy (number :: more)) (hsign : sign.IsSign)
    (hjoined : sign.Joined number) : Tidy (sign :: number :: more) := by
  constructor
  · intro other hother
    rcases List.mem_cons.mp hother with rfl | hother
    · intro hcode
      unfold Token.IsSign at hsign
      rw [hcode] at hsign
      simp at hsign
    · exact h.floats other hother
  · rw [List.isChain_cons_cons]
    exact ⟨hjoined, h.signs⟩

/-- A number is no sign. -/
theorem Token.IsNumber.not_isSign (h : number.IsNumber) : ¬ number.IsSign := by
  unfold Token.IsSign
  rcases h with h | h <;> simp [h]

/-- A token that is neither a sign nor a float may stand before any tokens. -/
theorem Tidy.cons_plain (h : Tidy more) (hcode : token.code ∉ [.plus, .minus, .float]) :
    Tidy (token :: more) := by
  simp only [List.mem_cons, List.not_mem_nil, or_false, not_or] at hcode
  apply h.cons
  · intro h
    rcases h with hsign | hsign
    · exact hcode.1 hsign
    · exact hcode.2.1 hsign
  · intro hfloat
    exact absurd hfloat hcode.2.2

/-! ## Errors -/

/-- No token of an element is an error. -/
theorem IsElementTokens.code_ne_error (h : IsElementTokens tokens) :
    ∀ token ∈ tokens, token.code ≠ .error := by
  cases h with
  | string hliteral => simp [hliteral]
  | unsigned hnumber => rcases hnumber with h | h <;> simp [h]
  | signed hsign hnumber => rcases hsign with h | h <;> rcases hnumber with h' | h' <;> simp [h, h']

/-- Neither is one of elements with their commas. -/
theorem IsElementsTokens.code_ne_error (h : IsElementsTokens tokens) :
    ∀ token ∈ tokens, token.code ≠ .error := by
  induction h with
  | single helement => exact helement.code_ne_error
  | cons helement hcomma _ ih =>
    intro token htoken
    rw [List.mem_append, List.mem_cons] at htoken
    rcases htoken with htoken | rfl | htoken
    · exact helement.code_ne_error token htoken
    · simp [hcomma]
    · exact ih token htoken

/-- So none between the brackets is. -/
theorem IsBodyTokens.code_ne_error (h : IsBodyTokens tokens) :
    ∀ token ∈ tokens, token.code ≠ .error := by
  cases h with
  | empty => simp
  | elements helements => exact helements.code_ne_error
  | trailingComma helements hcomma =>
    intro token htoken
    rw [List.mem_append, List.mem_singleton] at htoken
    rcases htoken with htoken | rfl
    · exact helements.code_ne_error token htoken
    · simp [hcomma]

/-- A declaration has no error among its tokens. -/
theorem IsListTokens.code_ne_error (h : IsListTokens tokens) :
    ∀ token ∈ tokens, token.code ≠ .error := by
  cases h with
  | list hname hassign hopen hbody hclose hsemicolon =>
    intro token htoken
    simp only [List.mem_cons, List.mem_append, List.not_mem_nil, or_false] at htoken
    rcases htoken with rfl | rfl | rfl | htoken | rfl | rfl
    · rcases hname with h | h <;> simp [h]
    · simp [hassign]
    · simp [hopen]
    · exact hbody.code_ne_error token htoken
    · simp [hclose]
    · simp [hsemicolon]

end TypedList
