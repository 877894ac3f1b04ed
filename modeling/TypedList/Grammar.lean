import TypedList.Text.Basic
import TypedList.Unicode.WhiteSpace

/-!
# The grammar of list declarations

Which texts are list declarations, said by their form alone: the texts that every check must
accept, and no other.

Main results:

- Theorem `IsElement.ne_nil`: no element is empty.
-/

namespace TypedList

/-- A run of white space, perhaps empty. -/
def IsBlank (t : Text) : Prop :=
  ∀ c ∈ t, isWhiteSpace c = true

/-- The name of a list: one or more ASCII letters. -/
def IsName (t : Text) : Prop :=
  t ≠ [] ∧ ∀ c ∈ t, c.isAlpha = true

/-- One or more digits. -/
def IsDigits (t : Text) : Prop :=
  t ≠ [] ∧ ∀ c ∈ t, c.isDigit = true

/-- A number without its sign: digits, perhaps followed by a point and more digits. -/
inductive IsUnsigned : Text → Prop
  | integer {whole : Text} : IsDigits whole → IsUnsigned whole
  | float {whole fraction : Text} :
      IsDigits whole → IsDigits fraction → IsUnsigned (whole ++ '.' :: fraction)

/-- An element: a string in double quotes, or a number with at most one sign. -/
inductive IsElement : Text → Prop
  | string {body : Text} : '"' ∉ body → IsElement ('"' :: body ++ ['"'])
  | unsigned {number : Text} : IsUnsigned number → IsElement number
  | signed {sign : Char} {number : Text} :
      sign = '+' ∨ sign = '-' → IsUnsigned number → IsElement (sign :: number)

/-- One or more elements with commas between them and white space around the commas. -/
inductive IsElements : Text → Prop
  | single {element : Text} : IsElement element → IsElements element
  | cons {element before after rest : Text} :
      IsElement element → IsBlank before → IsBlank after → IsElements rest →
        IsElements (element ++ before ++ ',' :: after ++ rest)

/-- What stands between the brackets: nothing, or elements with at most one comma behind the
last. -/
inductive IsBody : Text → Prop
  | empty : IsBody []
  | elements {elements : Text} : IsElements elements → IsBody elements
  | trailingComma {elements before : Text} :
      IsElements elements → IsBlank before → IsBody (elements ++ before ++ [','])

/-- A list declaration: a name, `=`, a body between brackets, and `;`, with white space between
them and around them. -/
def IsDeclaration (t : Text) : Prop :=
  ∃ w₀ name w₁ w₂ w₃ body w₄ w₅ w₆ : Text,
    IsBlank w₀ ∧ IsName name ∧ IsBlank w₁ ∧ IsBlank w₂ ∧ IsBlank w₃ ∧ IsBody body ∧
      IsBlank w₄ ∧ IsBlank w₅ ∧ IsBlank w₆ ∧
      t = w₀ ++ name ++ w₁ ++ '=' :: w₂ ++ '[' :: w₃ ++ body ++ w₄ ++ ']' :: w₅ ++ ';' :: w₆

/-- A number without its sign still has a digit. -/
theorem IsUnsigned.ne_nil {t : Text} (h : IsUnsigned t) : t ≠ [] := by
  cases h with
  | integer hwhole => exact hwhole.1
  | float hwhole _ => simp [hwhole.1]

/-- No element is empty. -/
theorem IsElement.ne_nil {t : Text} (h : IsElement t) : t ≠ [] := by
  cases h with
  | string _ => simp
  | unsigned hnumber => exact hnumber.ne_nil
  | signed _ _ => simp

end TypedList
