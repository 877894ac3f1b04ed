import TypedList.Proofs.Acceptance
import TypedList.Proofs.FirstTokens

/-!
# Agreement of the tokens and the check

The check of a text reads its characters and never looks at its tokens.  Which texts it accepts
can be told from their tokens all the same.

Main results:

- Theorems `scans_elements` and `yields_elements`: elements of the one grammar are elements of the
  other, by induction on how they are made up.
- Theorem `diagnose_eq_nil_iff_tokens`: nothing is found in a text exactly when its tokens are
  those of a declaration, and none of these is an error.
-/

namespace TypedList

variable {l : Location} {c : Char} {sign number token : Token} {more : List Token}
  {w t rest : Text}

/-! ## From the text to its tokens -/

/-- Wherever the text stands before the rest, its tokens are of the given kind, and they are tidy
before all tidy tokens. -/
def Scans (K : List Token → Prop) (t rest : Text) : Prop :=
  ∀ l, ∃ tokens l', K tokens ∧
    scanFrom .literal l (t ++ rest) = tokens ++ scanFrom .literal l' rest ∧
      ∀ more, Tidy more → Tidy (tokens ++ more)

/-- What is known of the tokens may be weakened. -/
theorem Scans.mono {K K' : List Token → Prop} (h : Scans K t rest)
    (himp : ∀ tokens, K tokens → K' tokens) : Scans K' t rest := by
  intro l
  rcases h l with ⟨tokens, l', htokens, hscan, htidy⟩
  exact ⟨tokens, l', himp tokens htokens, hscan, htidy⟩

/-- The tokens of an element of the grammar are those of an element. -/
theorem scans_element {element : Text} (h : IsElement element)
    (hrest : Stops continuesNumber rest) : Scans IsElementTokens element rest := by
  intro l
  cases h with
  | string hbody =>
    rcases scanFrom_string l rest hbody with ⟨span, l', hscan⟩
    exact ⟨[_], l', .string rfl, hscan, fun more hmore => hmore.cons_plain (by simp [Token.sound])⟩
  | unsigned hnumber =>
    rcases scanFrom_number l hnumber hrest with ⟨number, l', hcode, hdigit, -, hscan⟩
    exact ⟨[number], l', .unsigned hcode, hscan, fun more hmore =>
      hmore.cons hcode.not_isSign hdigit⟩
  | @signed sign unsigned hsign hnumber =>
    have hcode : ∃ code : Code, (code = .plus ∨ code = .minus) ∧ code.char? = some sign := by
      rcases hsign with rfl | rfl
      · exact ⟨.plus, Or.inl rfl, rfl⟩
      · exact ⟨.minus, Or.inr rfl, rfl⟩
    rcases hcode with ⟨code, hcode, hmark⟩
    have hnil : IsBlank [] := by simp [IsBlank]
    have hscan : scanFrom .literal l ([] ++ sign :: (unsigned ++ rest)) =
        .sound code [sign] (.ofLength l 1) ::
          scanFrom .literal (l.after [sign]) (unsigned ++ rest) :=
      scanFrom_mark l hnil hmark
    rcases scanFrom_number (l.after [sign]) hnumber hrest with
      ⟨number, l', hnumber', hdigit, hspan, hscan'⟩
    refine ⟨[.sound code [sign] (.ofLength l 1), number], l', .signed hcode hnumber', ?_, ?_⟩
    · rw [List.nil_append, hscan'] at hscan
      exact hscan
    · intro more hmore
      refine (hmore.cons hnumber'.not_isSign hdigit).cons_sign hcode fun _ => ?_
      have hstep : l.after [sign] = ⟨l.line, l.column + 1⟩ := by
        rcases hsign with rfl | rfl <;> rfl
      rw [hspan, hstep]
      simp [Token.sound, Span.ofLength]

/-- A delimiter behind white space is the first token. -/
theorem scanFrom_delimiter (code : Code) (l : Location) (rest : Text) (hw : IsBlank w)
    (h : code.char? = some c) (hcode : code ∉ [.plus, .minus, .float]) :
    ∃ token l', (token.code = code ∧ token.fault = none) ∧
      (∀ more, Tidy more → Tidy (token :: more)) ∧
        scanFrom .literal l (w ++ c :: rest) = token :: scanFrom .literal l' rest :=
  ⟨_, _, ⟨rfl, rfl⟩, fun _ hmore => hmore.cons_plain hcode, scanFrom_mark l hw h⟩

/-- The tokens of the elements of the grammar are those of elements. -/
theorem scans_elements {elements : Text} (h : IsElements elements)
    (hrest : Stops continuesNumber rest) : Scans IsElementsTokens elements rest := by
  induction h with
  | single helement => exact (scans_element helement hrest).mono fun _ => .single
  | @cons element before after others helement hbefore hafter _ ih =>
    intro l
    have hstops : Stops continuesNumber (before ++ ',' :: (after ++ (others ++ rest))) :=
      stops_number hbefore rfl
    rcases scans_element helement hstops l with ⟨first, l₁, hfirst, hscan₁, htidy₁⟩
    rcases scanFrom_delimiter .comma l₁ (after ++ (others ++ rest)) hbefore rfl (by simp) with
      ⟨comma, l₂, hcomma, htidy₂, hscan₂⟩
    rcases ih (l₂.after after) with ⟨next, l₃, hnext, hscan₃, htidy₃⟩
    refine ⟨first ++ comma :: next, l₃, .cons hfirst hcomma.1 hnext, ?_, ?_⟩
    · rw [hscan₂, scanFrom_blank l₂ hafter, hscan₃] at hscan₁
      simpa using hscan₁
    · intro more hmore
      rw [List.append_assoc]
      exact htidy₁ _ (htidy₂ _ (htidy₃ more hmore))

/-- The tokens of a body of the grammar are those of a body. -/
theorem scans_body {body : Text} (h : IsBody body) (hrest : Stops continuesNumber rest) :
    Scans IsBodyTokens body rest := by
  cases h with
  | empty => exact fun l => ⟨[], l, .empty, rfl, fun _ hmore => hmore⟩
  | elements helements => exact (scans_elements helements hrest).mono fun _ => .elements
  | @trailingComma elements before helements hbefore =>
    intro l
    have hstops : Stops continuesNumber (before ++ ',' :: rest) := stops_number hbefore rfl
    rcases scans_elements helements hstops l with ⟨tokens, l₁, htokens, hscan₁, htidy₁⟩
    rcases scanFrom_delimiter .comma l₁ rest hbefore rfl (by simp) with
      ⟨comma, l₂, hcomma, htidy₂, hscan₂⟩
    refine ⟨tokens ++ [comma], l₂, .trailingComma htokens hcomma.1, ?_, ?_⟩
    · rw [hscan₂] at hscan₁
      simpa using hscan₁
    · intro more hmore
      rw [List.append_assoc]
      exact htidy₁ _ (htidy₂ more hmore)

/-- The tokens from the closing bracket on. -/
theorem scanFrom_closing (l : Location) {w₄ w₅ w₆ : Text} (hw₄ : IsBlank w₄) (hw₅ : IsBlank w₅)
    (hw₆ : IsBlank w₆) :
    ∃ closeBracket semicolon, closeBracket.code = .closeBracket ∧ semicolon.code = .semicolon ∧
      Tidy [closeBracket, semicolon] ∧
        scanFrom .literal l (w₄ ++ ']' :: (w₅ ++ ';' :: w₆)) = [closeBracket, semicolon] := by
  rcases scanFrom_delimiter .closeBracket l (w₅ ++ ';' :: w₆) hw₄ rfl (by simp) with
    ⟨closeBracket, l₁, hclose, htidy₁, hscan₁⟩
  rcases scanFrom_delimiter .semicolon l₁ w₆ hw₅ rfl (by simp) with
    ⟨semicolon, l₂, hsemicolon, htidy₂, hscan₂⟩
  refine ⟨closeBracket, semicolon, hclose.1, hsemicolon.1, htidy₁ _ (htidy₂ _ tidy_nil), ?_⟩
  rw [hscan₁, hscan₂, scanFrom_of_isBlank l₂ hw₆]

/-- The tokens of a declaration of the grammar are those of a declaration. -/
theorem isDeclarationTokens_of_isDeclaration (h : IsDeclaration t) :
    IsDeclarationTokens (scan .literal t) := by
  rcases h with ⟨w₀, name, w₁, w₂, w₃, body, w₄, w₅, w₆, hw₀, hname, hw₁, hw₂, hw₃, hbody, hw₄,
    hw₅, hw₆, rfl⟩
  let inner := body ++ (w₄ ++ ']' :: (w₅ ++ ';' :: w₆))
  have hword : Stops isWordChar (w₁ ++ '=' :: (w₂ ++ '[' :: (w₃ ++ inner))) :=
    stops_word hw₁ (by decide +kernel)
  have hnumber : Stops continuesNumber (w₄ ++ ']' :: (w₅ ++ ';' :: w₆)) := stops_number hw₄ rfl
  rcases scanFrom_name (Location.start.after w₀) hname hword with ⟨l₁, hscan₁⟩
  rcases scanFrom_delimiter .assign l₁ (w₂ ++ '[' :: (w₃ ++ inner)) hw₁ rfl (by simp) with
    ⟨assign, l₂, hassign, htidy₂, hscan₂⟩
  rcases scanFrom_delimiter .openBracket l₂ (w₃ ++ inner) hw₂ rfl (by simp) with
    ⟨openBracket, l₃, hopen, htidy₃, hscan₃⟩
  rcases scans_body hbody hnumber (l₃.after w₃) with ⟨tokens, l₄, htokens, hscan₄, htidy₄⟩
  rcases scanFrom_closing l₄ hw₄ hw₅ hw₆ with
    ⟨closeBracket, semicolon, hclose, hsemicolon, htidy₅, hscan₅⟩
  have htext : w₀ ++ name ++ w₁ ++ '=' :: w₂ ++ '[' :: w₃ ++ body ++ w₄ ++ ']' :: w₅ ++ ';' :: w₆ =
      w₀ ++ (name ++ (w₁ ++ '=' :: (w₂ ++ '[' :: (w₃ ++ inner)))) := by simp [inner]
  have hscan : scan .literal (w₀ ++ (name ++ (w₁ ++ '=' :: (w₂ ++ '[' :: (w₃ ++ inner))))) =
      scanFrom .literal (Location.start.after w₀)
        (name ++ (w₁ ++ '=' :: (w₂ ++ '[' :: (w₃ ++ inner)))) := scanFrom_blank .start hw₀
  rw [hscan₁, hscan₂, hscan₃, scanFrom_blank l₃ hw₃, hscan₄, hscan₅, ← htext] at hscan
  rw [hscan]
  have hcode := Code.ofWord_cases name
  constructor
  · exact .list hcode hassign.1 hopen.1 htokens hclose hsemicolon
  · intro first hfirst
    rw [List.head?_cons, Option.mem_some_iff] at hfirst
    subst hfirst
    exact hname.2
  · intro next hnext
    rw [List.getElem?_cons_succ, List.getElem?_cons_zero, Option.mem_some_iff] at hnext
    subst hnext
    simp [hassign.2]
  · apply Tidy.cons_plain
    · exact htidy₂ _ (htidy₃ _ (htidy₄ _ htidy₅))
    · rcases hcode with h | h <;> simp [Token.sound, h]

/-! ## From the tokens to the text -/

/-- The text is white space, a piece of the given form, and a text of the given tokens. -/
def Yields (P : Text → Prop) (t : Text) (tokens : List Token) : Prop :=
  ∃ gap piece rest l, IsBlank gap ∧ P piece ∧ t = gap ++ (piece ++ rest) ∧
    scanFrom .literal l rest = tokens

/-- What is known of the text may be weakened. -/
theorem Yields.mono {P Q : Text → Prop} (h : Yields P t more) (himp : ∀ x, P x → Q x) :
    Yields Q t more := by
  rcases h with ⟨gap, piece, rest, l, hgap, hpiece, ht, hmore⟩
  exact ⟨gap, piece, rest, l, hgap, himp piece hpiece, ht, hmore⟩

/-- A number behind a sign that it is joined to leaves no white space between them. -/
theorem eq_nil_of_joined {gap : Text} {n : Nat} (hsign : sign.IsSign) (hjoined : sign.Joined number)
    (hspan : sign.span = .ofLength l 1)
    (hspan' : number.span = .ofLength ((l.step c).after gap) n) (hc : c ≠ '\n') : gap = [] := by
  have hplace := hjoined hsign
  have hstep : l.step c = ⟨l.line, l.column + 1⟩ := l.step_of_ne hc
  rw [hspan, hspan'] at hplace
  simp only [Span.ofLength, Nat.add_sub_cancel] at hplace
  apply Location.eq_nil_of_after
  · rw [hplace.1, hstep]
  · rw [← hplace.2, hstep]

/-- Tokens of an element come from an element of the grammar. -/
theorem yields_element {element : List Token} (helement : IsElementTokens element)
    (htidy : Tidy (element ++ more)) (h : scanFrom .literal l t = element ++ more) :
    Yields IsElement t more := by
  cases helement with
  | string hcode =>
    rcases string_of_scanFrom hcode h with ⟨gap, body, rest, l', hgap, hbody, ht, hmore⟩
    exact ⟨gap, _, rest, l', hgap, .string hbody, ht, hmore.symm⟩
  | unsigned hnumber =>
    rcases number_of_scanFrom hnumber htidy.endsInDigit h with
      ⟨gap, unsigned, rest, l', hgap, hunsigned, ht, -, hmore⟩
    exact ⟨gap, unsigned, rest, l', hgap, .unsigned hunsigned, ht, hmore.symm⟩
  | @signed sign number hsign hnumber =>
    have hchar : ∃ c : Char, (c = '+' ∨ c = '-') ∧ sign.code.char? = some c := by
      rcases hsign with hsign | hsign
      · exact ⟨'+', Or.inl rfl, by rw [hsign]; rfl⟩
      · exact ⟨'-', Or.inr rfl, by rw [hsign]; rfl⟩
    rcases hchar with ⟨c, hc, hchar⟩
    rcases mark_of_scanFrom hchar h with ⟨gap, rest₁, hgap, rfl, hspan, hscan⟩
    have htail : Tidy (number :: more) := Tidy.of_append [sign] htidy
    rcases number_of_scanFrom hnumber htail.endsInDigit hscan.symm with
      ⟨gap', unsigned, rest, l', hgap', hunsigned, rfl, hspan', hmore⟩
    have hjoined : sign.Joined number := (List.isChain_cons_cons.mp htidy.signs).1
    rw [Location.after_append] at hspan'
    have hnil : gap' = [] := by
      apply eq_nil_of_joined hsign hjoined hspan hspan'
      rcases hc with rfl | rfl <;> simp
    subst hnil
    exact ⟨gap, c :: unsigned, rest, l', hgap, .signed hc hunsigned, rfl, hmore.symm⟩

/-- A delimiter token comes from its character. -/
theorem yields_delimiter (hc : token.code.char? = some c)
    (h : scanFrom .literal l t = token :: more) :
    ∃ gap rest l', IsBlank gap ∧ t = gap ++ c :: rest ∧ scanFrom .literal l' rest = more := by
  rcases mark_of_scanFrom hc h with ⟨gap, rest, hgap, ht, -, hmore⟩
  exact ⟨gap, rest, _, hgap, ht, hmore.symm⟩

/-- Tokens of elements come from elements of the grammar. -/
theorem yields_elements {elements : List Token} (helements : IsElementsTokens elements)
    (htidy : Tidy (elements ++ more)) (h : scanFrom .literal l t = elements ++ more) :
    Yields IsElements t more := by
  induction helements generalizing l t with
  | single helement => exact (yields_element helement htidy h).mono fun _ => .single
  | @cons element others comma helement hcomma _ ih =>
    rw [List.append_assoc] at h htidy
    rcases yields_element helement htidy h with ⟨gap, piece, rest₁, l₁, hgap, hpiece, rfl, hscan₁⟩
    rcases yields_delimiter (by rw [hcomma]; rfl) hscan₁ with
      ⟨before, rest₂, l₂, hbefore, rfl, hscan₂⟩
    have hrest : Tidy (others ++ more) := Tidy.of_append [comma] (Tidy.of_append element htidy)
    rcases ih hrest hscan₂ with ⟨after, pieces, rest, l', hafter, hpieces, rfl, hmore⟩
    exact ⟨gap, _, rest, l', hgap, .cons hpiece hbefore hafter hpieces, by simp, hmore⟩

/-- Tokens of a body come from a body of the grammar. -/
theorem yields_body {body : List Token} (hbody : IsBodyTokens body) (htidy : Tidy (body ++ more))
    (h : scanFrom .literal l t = body ++ more) : Yields IsBody t more := by
  cases hbody with
  | empty => exact ⟨[], [], t, l, by simp [IsBlank], .empty, rfl, h⟩
  | elements helements => exact (yields_elements helements htidy h).mono fun _ => .elements
  | trailingComma helements hcomma =>
    rw [List.append_assoc] at h htidy
    rcases yields_elements helements htidy h with
      ⟨gap, piece, rest₁, l₁, hgap, hpiece, rfl, hscan₁⟩
    rcases yields_delimiter (by rw [hcomma]; rfl) hscan₁ with
      ⟨before, rest, l', hbefore, rfl, hmore⟩
    exact ⟨gap, _, rest, l', hgap, .trailingComma hpiece hbefore, by simp, hmore⟩

/-- Tokens of a declaration come from a declaration of the grammar. -/
theorem isDeclaration_of_isDeclarationTokens (h : IsDeclarationTokens (scan .literal t)) :
    IsDeclaration t := by
  rcases h with ⟨hshape, hname, herror, htidy⟩
  have hscan : scanFrom .literal .start t = scan .literal t := rfl
  generalize scan .literal t = tokens at hshape hname herror htidy hscan
  cases hshape with
  | @list name assign openBracket closeBracket semicolon body hcode hassign hopen hbody hclose
      hsemicolon =>
    have hinner : Tidy (body ++ [closeBracket, semicolon]) :=
      Tidy.of_append [name, assign, openBracket] htidy
    rcases name_of_scanFrom hcode (hname name rfl) hscan herror with
      ⟨w₀, word, rest₁, l₁, hw₀, hword, rfl, hscan₁⟩
    rcases yields_delimiter (by rw [hassign]; rfl) hscan₁.symm with
      ⟨w₁, rest₂, l₂, hw₁, rfl, hscan₂⟩
    rcases yields_delimiter (by rw [hopen]; rfl) hscan₂ with ⟨w₂, rest₃, l₃, hw₂, rfl, hscan₃⟩
    rcases yields_body hbody hinner hscan₃ with
      ⟨w₃, piece, rest₄, l₄, hw₃, hpiece, rfl, hscan₄⟩
    rcases yields_delimiter (by rw [hclose]; rfl) hscan₄ with ⟨w₄, rest₅, l₅, hw₄, rfl, hscan₅⟩
    rcases yields_delimiter (by rw [hsemicolon]; rfl) hscan₅ with ⟨w₅, w₆, l₆, hw₅, rfl, hscan₆⟩
    exact ⟨w₀, word, w₁, w₂, w₃, piece, w₄, w₅, w₆, hw₀, hword, hw₁, hw₂, hw₃, hpiece, hw₄, hw₅,
      isBlank_of_scanFrom hscan₆, by simp⟩

/-! ## Both passes -/

/-- The tokens of the declarations of the grammar are exactly those of a declaration. -/
theorem isDeclarationTokens_iff : IsDeclarationTokens (scan .literal t) ↔ IsDeclaration t :=
  ⟨isDeclaration_of_isDeclarationTokens, isDeclarationTokens_of_isDeclaration⟩

/-- Nothing is found in a text exactly when its tokens are those of a declaration, and none of
these is an error. -/
theorem diagnose_eq_nil_iff_tokens (t : Text) :
    (diagnose t = [] ↔ IsDeclarationTokens (scan .literal t)) ∧
      (diagnose t = [] → ∀ token ∈ scan .literal t, token.code ≠ .error) := by
  have hagree : diagnose t = [] ↔ IsDeclarationTokens (scan .literal t) := by
    rw [diagnose_eq_nil_iff_mem, Grammar.mem_declaration, isDeclarationTokens_iff]
  refine ⟨hagree, ?_⟩
  intro haccepted
  exact (hagree.mp haccepted).shape.code_ne_error

/-- A signed float right behind its sign is accepted, and the tokens around it are those of a
declaration. -/
theorem diagnose_eq_nil_iff_tokens_signed_float :
    diagnose "ab = [1, -2.5];".toList = [] ∧
      IsDeclarationTokens (scan .literal "ab = [1, -2.5];".toList) ∧
        ∀ token ∈ scan .literal "ab = [1, -2.5];".toList, token.code ≠ .error := by
  have haccepted : diagnose "ab = [1, -2.5];".toList = [] := by decide +kernel
  have htokens := diagnose_eq_nil_iff_tokens "ab = [1, -2.5];".toList
  exact ⟨haccepted, htokens.1.mp haccepted, htokens.2 haccepted⟩

end TypedList
