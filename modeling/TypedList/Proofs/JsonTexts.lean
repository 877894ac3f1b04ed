import Mathlib.Data.List.Forall2
import TypedList.Json.Printer
import TypedList.Json.Reader

/-!
# JSON texts

The grammar of JSON, together with the values that its texts write: white space around the symbols,
strings in any of their spellings, elements of arrays and members of objects between commas.  Its
only numbers are natural ones.

Main results:

- Theorem `writesString_stringLiteral`: a text is written as a string whatever characters it holds.
- Theorem `writes_block`: entries on lines of their own are the entries with white space around
  them.
- Theorem `writes_render`: every value is written as a JSON text.
-/

namespace TypedList

namespace Json

/-! ## The grammar -/

/-- The text is white space. -/
def IsSpaces (w : Text) : Prop :=
  ∀ c ∈ w, isSpace c = true

/-- How a character may stand in a string. -/
inductive WritesChar : Char → Text → Prop
  | plain {c : Char} : c ≠ '"' → c ≠ '\\' → 0x20 ≤ c.toNat → WritesChar c [c]
  /-- Behind a backslash by its letter. -/
  | letter {c letter : Char} : unescape? letter = some c → WritesChar c ['\\', letter]
  /-- By its code point. -/
  | unit {c x y z w : Char} {unit : Nat} :
      hexUnit? x y z w = some unit → ofUnit? unit = some c →
        WritesChar c ['\\', 'u', x, y, z, w]
  /-- By the two halves of a surrogate pair. -/
  | pair {c x y z w x' y' z' w' : Char} {high low : Nat} :
      hexUnit? x y z w = some high → hexUnit? x' y' z' w' = some low →
        ofSurrogates? high low = some c →
          WritesChar c ['\\', 'u', x, y, z, w, '\\', 'u', x', y', z', w']

/-- How a text may stand in a string. -/
inductive WritesChars : Text → Text → Prop
  | nil : WritesChars [] []
  | cons {c : Char} {t w s : Text} :
      WritesChar c w → WritesChars t s → WritesChars (c :: t) (w ++ s)

/-- A text as a string: between quotes. -/
inductive WritesString : Text → Text → Prop
  | quoted {t s : Text} : WritesChars t s → WritesString t ('"' :: s ++ ['"'])

/-- What a part of a JSON text writes. -/
inductive Part
  | value (v : Json)
  /-- A value with white space around it. -/
  | element (v : Json)
  /-- One or more elements between commas. -/
  | elements (vs : List Json)
  /-- A named element of an object. -/
  | member (field : Text × Json)
  /-- One or more members between commas. -/
  | members (fields : List (Text × Json))

/-- The text writes the part. -/
inductive Writes : Part → Text → Prop
  | true : Writes (.value (.bool true)) "true".toList
  | false : Writes (.value (.bool false)) "false".toList
  | number (n : Nat) : Writes (.value (.number n)) (decimal n)
  | string {t s : Text} : WritesString t s → Writes (.value (.string t)) s
  | emptyArray {w : Text} : IsSpaces w → Writes (.value (.array [])) ('[' :: w ++ [']'])
  | array {vs : List Json} {s : Text} :
      Writes (.elements vs) s → Writes (.value (.array vs)) ('[' :: s ++ [']'])
  | emptyObject {w : Text} : IsSpaces w → Writes (.value (.object [])) ('\x7b' :: w ++ ['\x7d'])
  | object {fields : List (Text × Json)} {s : Text} :
      Writes (.members fields) s → Writes (.value (.object fields)) ('\x7b' :: s ++ ['\x7d'])
  | element {v : Json} {w s w' : Text} :
      IsSpaces w → Writes (.value v) s → IsSpaces w' → Writes (.element v) (w ++ s ++ w')
  | lastElement {v : Json} {s : Text} : Writes (.element v) s → Writes (.elements [v]) s
  | elements {v : Json} {vs : List Json} {s s' : Text} :
      Writes (.element v) s → Writes (.elements vs) s' →
        Writes (.elements (v :: vs)) (s ++ ',' :: s')
  | member {name : Text} {v : Json} {w n w' s : Text} :
      IsSpaces w → WritesString name n → IsSpaces w' → Writes (.element v) s →
        Writes (.member (name, v)) (w ++ n ++ w' ++ ':' :: s)
  | lastMember {field : Text × Json} {s : Text} :
      Writes (.member field) s → Writes (.members [field]) s
  | members {field : Text × Json} {fields : List (Text × Json)} {s s' : Text} :
      Writes (.member field) s → Writes (.members fields) s' →
        Writes (.members (field :: fields)) (s ++ ',' :: s')

/-! ## White space -/

/-- The empty text is white space. -/
theorem isSpaces_nil : IsSpaces [] :=
  fun _ hc => absurd hc List.not_mem_nil

/-- Indentation is white space. -/
theorem isSpaces_replicate (n : Nat) : IsSpaces (List.replicate n ' ') := by
  intro c hc
  rw [List.eq_of_mem_replicate hc]
  rfl

/-- A new line begins with white space. -/
theorem isSpaces_newLine (depth : Nat) : IsSpaces ('\n' :: indent depth) := by
  intro c hc
  rcases List.mem_cons.mp hc with rfl | hc
  · rfl
  · exact isSpaces_replicate _ c hc

/-! ## Strings -/

/-- The letter of an escape stands for the escaped character. -/
theorem unescape?_of_escapeLetter? {c letter : Char} (h : escapeLetter? c = some letter) :
    unescape? letter = some c := by
  unfold escapeLetter? at h
  split at h <;> cases h <;> rfl

/-- The code points below U+0020 have two hexadecimal digits. -/
theorem hexUnit?_of_lt {n : Nat} (hn : n < 0x20) :
    hexUnit? '0' '0' (Nat.digitChar (n / 16)) (Nat.digitChar (n % 16)) = some n := by
  have hall : ∀ n < 0x20,
      hexUnit? '0' '0' (Nat.digitChar (n / 16)) (Nat.digitChar (n % 16)) = some n := by decide
  exact hall n hn

/-- The number of a character gives the character back. -/
theorem ofUnit?_toNat (c : Char) : ofUnit? c.toNat = some c := by
  have hvalid : c.toNat.isValidChar := c.valid
  rw [ofUnit?, if_pos hvalid, Char.ofNat_toNat]

/-- What the printer writes for a character is one of its spellings. -/
theorem writesChar_stringChar (c : Char) : WritesChar c (stringChar c) := by
  unfold stringChar
  split
  · rename_i letter hletter
    exact .letter (unescape?_of_escapeLetter? hletter)
  · rename_i hnone
    split
    · rename_i hlow
      exact .unit (hexUnit?_of_lt hlow) (ofUnit?_toNat c)
    · rename_i hhigh
      refine .plain ?_ ?_ (Nat.le_of_not_lt hhigh)
      · rintro rfl
        exact nomatch hnone
      · rintro rfl
        exact nomatch hnone

/-- A text is written as a string whatever characters it holds. -/
theorem writesString_stringLiteral (t : Text) : WritesString t (stringLiteral t) := by
  have hchars : WritesChars t (t.flatMap stringChar) := by
    induction t with
    | nil => exact .nil
    | cons c t ih => exact .cons (writesChar_stringChar c) ih
  exact .quoted hchars

/-! ## Values -/

/-- Entries on lines of their own are the entries with white space around them: a comma, or the
closing bracket, comes at the end of the line. -/
theorem writes_block {α : Type} (Entry : α → Text → Prop) (Entries : List α → Text → Prop)
    (last : ∀ a s, Entry a s → Entries [a] s)
    (more : ∀ a s as s', Entry a s → Entries as s' → Entries (a :: as) (s ++ ',' :: s'))
    {inner outer : Nat} {as : List α} {texts : List Text}
    (hentries : List.Forall₂
      (fun a s => ∀ w w', IsSpaces w → IsSpaces w' → Entry a (w ++ s ++ w')) as texts)
    (hsome : as ≠ []) :
    Entries as ('\n' :: [',', '\n'].intercalate (texts.map (indent inner ++ ·)) ++
      '\n' :: indent outer) := by
  induction hentries with
  | nil => exact absurd rfl hsome
  | cons hentry hrest ih =>
    rename_i a s as texts
    rcases hrest with - | ⟨hnext, hrest⟩
    · have hlast := last a _ (hentry _ _ (isSpaces_newLine inner) (isSpaces_newLine outer))
      simpa using hlast
    · rename_i b s' as texts
      have hmore := more a _ _ _ (hentry _ _ (isSpaces_newLine inner) isSpaces_nil)
        (ih (List.cons_ne_nil b as))
      simpa using hmore

mutual

/-- A value is written at every depth. -/
theorem writes_pretty (depth : Nat) : ∀ v : Json, Writes (.value v) (pretty depth v)
  | bool true => .true
  | bool false => .false
  | number n => .number n
  | string t => .string (writesString_stringLiteral t)
  | array [] => .emptyArray isSpaces_nil
  | array (v :: vs) => by
    have hitems := writes_prettyItems (depth + 1) (v :: vs)
    exact .array (writes_block (fun v => Writes (.element v)) (fun vs => Writes (.elements vs))
      (fun _ _ => .lastElement) (fun _ _ _ _ => .elements) hitems (List.cons_ne_nil v vs))
  | object [] => .emptyObject isSpaces_nil
  | object (field :: fields) => by
    have hfields := writes_prettyFields (depth + 1) (field :: fields)
    exact .object (writes_block (fun field => Writes (.member field))
      (fun fields => Writes (.members fields)) (fun _ _ => .lastMember) (fun _ _ _ _ => .members)
      hfields (List.cons_ne_nil field fields))

/-- The items of an array are elements with any white space around them. -/
theorem writes_prettyItems (depth : Nat) : ∀ vs : List Json,
    List.Forall₂ (fun v s => ∀ w w', IsSpaces w → IsSpaces w' →
      Writes (.element v) (w ++ s ++ w')) vs (prettyItems depth vs)
  | [] => .nil
  | v :: vs =>
    .cons (fun _ _ hw hw' => .element hw (writes_pretty depth v) hw') (writes_prettyItems depth vs)

/-- The fields of an object are members with any white space around them. -/
theorem writes_prettyFields (depth : Nat) : ∀ fields : List (Text × Json),
    List.Forall₂ (fun field s => ∀ w w', IsSpaces w → IsSpaces w' →
      Writes (.member field) (w ++ s ++ w')) fields (prettyFields depth fields)
  | [] => .nil
  | (name, v) :: fields => by
    refine .cons ?_ (writes_prettyFields depth fields)
    intro w w' hw hw'
    have hspace : IsSpaces [' '] := isSpaces_replicate 1
    have hmember := Writes.member hw (writesString_stringLiteral name) isSpaces_nil
      (.element hspace (writes_pretty depth v) hw')
    simpa using hmember

end

end Json

end TypedList
