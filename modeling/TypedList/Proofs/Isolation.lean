import TypedList.Proofs.Coverage

/-!
# Broken elements among sound ones

A list may hold broken elements.  Each of them is found where it breaks, and the check goes on at
the comma behind it: no broken element hides another, and none is found twice.

Main results:

- Theorem `covers_item`: what is found in one item does not depend on the items around it.
- Theorem `covers_listing`: a whole list is found broken where its items are, in their order.
- Theorem `diagnose_listing`: so is a declaration, behind the digits of its name.
-/

namespace TypedList

/-! ## Items -/

/-- A text without a character that ends an element. -/
def IsBare (t : Text) : Prop :=
  ',' ∉ t ∧ ']' ∉ t ∧ ';' ∉ t

/-- Digits with at most one sign. -/
inductive IsInteger : Text → Prop
  | unsigned {whole : Text} : IsDigits whole → IsInteger whole
  | signed {sign : Char} {whole : Text} :
      sign = '+' ∨ sign = '-' → IsDigits whole → IsInteger (sign :: whole)

/-- What stands in the place of an element. -/
inductive Item
  /-- An element. -/
  | element (text : Text) (isElement : IsElement text)
  /-- A text that begins as no element does. -/
  | junk (text : Text) (ne_nil : text ≠ []) (stopsSpace : Stops isWhiteSpace text)
      (stopsElement : Stops Grammar.startsElement text) (isBare : IsBare text)
  /-- A sign with no digit behind it. -/
  | bareSign (sign : Char) (others : Text) (isSign : sign = '+' ∨ sign = '-')
      (stopsDigit : Stops Char.isDigit others) (isBare : IsBare others)
  /-- An integer and a point with no digit behind it. -/
  | barePoint (integer others : Text) (isInteger : IsInteger integer)
      (stopsDigit : Stops Char.isDigit others) (isBare : IsBare others)

namespace Item

/-- The characters of an item. -/
def text : Item → Text
  | element text _ => text
  | junk text _ _ _ _ => text
  | bareSign sign others _ _ _ => sign :: others
  | barePoint integer others _ _ _ => integer ++ '.' :: others

/-- What is found in an item that stands at the given position. -/
def findings (start : Nat) : Item → List Finding
  | element _ _ => []
  | junk _ _ _ _ _ => [(.missingElement, start)]
  | bareSign _ _ _ _ _ => [(.missingDigitAfterSign, start + 1)]
  | barePoint integer _ _ _ _ => [(.missingDigitAfterDot, start + integer.length + 1)]

end Item

/-- An item with white space around it. -/
structure SpacedItem where
  before : Text
  item : Item
  after : Text
  isBlank_before : IsBlank before
  isBlank_after : IsBlank after

namespace SpacedItem

/-- The characters of an item and of the white space around it. -/
def text (s : SpacedItem) : Text :=
  s.before ++ (s.item.text ++ s.after)

/-- What is found in an item behind white space that stands at the given position. -/
def findings (start : Nat) (s : SpacedItem) : List Finding :=
  s.item.findings (start + s.before.length)

end SpacedItem

/-- What stands in front of a comma. -/
inductive Slot
  /-- An item. -/
  | filled (s : SpacedItem)
  /-- White space alone. -/
  | empty (space : Text) (isBlank : IsBlank space)

namespace Slot

/-- The characters in front of a comma. -/
def text : Slot → Text
  | filled s => s.text
  | empty space _ => space

/-- What is found in front of a comma.  Where the item is missing, this shows at the comma. -/
def findings (start : Nat) : Slot → List Finding
  | filled s => s.findings start
  | empty space _ => [(.missingElement, start + space.length)]

end Slot

/-- Items with commas between them, and at most one comma behind the last. -/
inductive Listing
  /-- One item with no comma behind it. -/
  | last (s : SpacedItem)
  /-- What stands in front of the last comma. -/
  | trailing (slot : Slot)
  /-- What stands in front of a comma, and the items behind it. -/
  | more (slot : Slot) (others : Listing)

namespace Listing

/-- The characters of a list of items. -/
def text : Listing → Text
  | last s => s.text
  | trailing slot => slot.text ++ [',']
  | more slot others => slot.text ++ ',' :: others.text

/-- What is found in a list of items that stands at the given position. -/
def findings (start : Nat) : Listing → List Finding
  | last s => s.findings start
  | trailing slot => slot.findings start
  | more slot others => slot.findings start ++ others.findings (start + slot.text.length + 1)

end Listing

namespace Routine

variable {n : Nat} {c : Char} {w x y : Text} {f : List Finding}

/-! ## Broken elements -/

/-- The characters behind an item. -/
def endsItem (c : Char) : Bool :=
  c = ',' || c = ']'

/-- What follows an item carries nothing on that neither a comma nor a bracket does. -/
theorem stops_of_endsItem {p : Char → Bool} (hy : Begins endsItem y) (hcomma : p ',' = false)
    (hbracket : p ']' = false) : Stops p y := by
  apply hy.stops
  intro c hc
  simp only [endsItem, Bool.or_eq_true, decide_eq_true_eq] at hc
  rcases hc with rfl | rfl
  · exact hcomma
  · exact hbracket

/-- The check passes over what is left of a broken element and over the white space behind it. -/
theorem not_mem_syncChars (hx : IsBare x) (hw : IsBlank w) :
    ∀ c ∈ x ++ w, c ∉ GrammarPoint.element.syncChars := by
  intro c hc hsync
  simp only [GrammarPoint.syncChars, List.mem_cons, List.not_mem_nil, or_false] at hsync
  rcases List.mem_append.mp hc with hc | hc
  · obtain ⟨hcomma, hbracket, hsemicolon⟩ := hx
    rcases hsync with rfl | rfl | rfl <;> contradiction
  · have hspace := hw c hc
    rcases hsync with rfl | rfl | rfl <;> contradiction

/-- Where no digit stands, the check goes on at the next synchronization character. -/
theorem covers_missing_digits (hdigit : Stops Char.isDigit (x ++ y))
    (hbare : ∀ c ∈ x, c ∉ GrammarPoint.element.syncChars)
    (hy : Stops (· ∉ GrammarPoint.element.syncChars) y) :
    Covers digits n x y [(.missingDigitAfterSign, n)] :=
  .branch_neg hdigit (covers_report rfl hbare hy)

/-- So it does where no digit stands behind a point. -/
theorem covers_missing_decimals (hdigit : Stops Char.isDigit (x ++ y))
    (hbare : ∀ c ∈ x, c ∉ GrammarPoint.element.syncChars)
    (hy : Stops (· ∉ GrammarPoint.element.syncChars) y) :
    Covers fraction n ('.' :: x) y [(.missingDigitAfterDot, n + 1)] := by
  have hreport {m : Nat} : Covers (branch Char.isDigit (skipWhile Char.isDigit)
      (report .missingDigitAfterDot)) m x y [(.missingDigitAfterDot, m)] :=
    .branch_neg hdigit (covers_report rfl hbare hy)
  rw [fraction_eq]
  exact .branch_pos rfl (covers_next.andThen hreport)

/-- A number is checked as its digits are, wherever its sign puts them. -/
theorem covers_element_integer (hx : IsInteger x)
    (hdigits : ∀ whole m, IsDigits whole → m + whole.length = n + x.length →
      Covers digits m (whole ++ y) w f) : Covers element n (x ++ y) w f := by
  cases hx with
  | unsigned hwhole =>
    refine covers_element_unsigned ?_ (hdigits x n hwhole rfl)
    rw [List.append_assoc]
    exact Grammar.begins_append hwhole.1 hwhole.2
  | @signed sign whole hsign hwhole =>
    refine covers_element_signed hsign (hdigits whole (n + 1) hwhole ?_)
    rw [List.length_cons]
    omega

/-! ## Items among others -/

/-- What is found in one item does not depend on the items around it. -/
theorem covers_item (item : Item) (hw : IsBlank w) (hy : Begins endsItem y) :
    Covers (andThen element blanks) n (item.text ++ w) y (item.findings n) := by
  have hspace : Stops isWhiteSpace y := stops_of_endsItem hy rfl rfl
  have hdigit {x : Text} (hx : Stops Char.isDigit x) : Stops Char.isDigit (x ++ w ++ y) := by
    rw [List.append_assoc]
    exact hx.append (stops_append_of_isBlank hw (stops_of_endsItem hy rfl rfl) fun c hc =>
      isDigit_of_isWhiteSpace hc)
  have hsync : Stops (· ∉ GrammarPoint.element.syncChars) y := stops_of_endsItem hy rfl rfl
  -- A broken item is passed over with the white space behind it, an element without.
  have hbroken {x : Text} {f : List Finding} (h : Covers element n x y f) :
      Covers (andThen element blanks) n x y f := by
    have hblanks := h.andThen (y := []) (covers_no_blanks hspace)
    rwa [List.append_nil, List.append_nil] at hblanks
  cases item with
  | element text helement =>
    have hnumeral : Stops isNumeral (w ++ y) :=
      stops_append_of_isBlank hw (stops_of_endsItem hy rfl rfl) fun c hc =>
        isNumeral_of_isWhiteSpace hc
    exact (covers_element helement (endsBefore_of_stops helement hnumeral)).andThen
      (covers_blanks hw hspace)
  | junk text hne hfirst hstart hbare =>
    obtain ⟨c, others, rfl⟩ := List.exists_cons_of_ne_nil hne
    exact hbroken (covers_missing_element hfirst hstart (not_mem_syncChars hbare hw) hsync)
  | bareSign sign others hsign hothers hbare =>
    exact hbroken (covers_element_signed hsign
      (covers_missing_digits (hdigit hothers) (not_mem_syncChars hbare hw) hsync))
  | barePoint integer others hinteger hothers hbare =>
    have hnumber : Covers element n (integer ++ '.' :: (others ++ w)) y
        [(.missingDigitAfterDot, n + integer.length + 1)] := by
      refine covers_element_integer hinteger fun whole m hwhole hm => ?_
      rw [← hm]
      exact covers_digits hwhole rfl
        (covers_missing_decimals (hdigit hothers) (not_mem_syncChars hbare hw) hsync)
    rw [Item.text, List.append_assoc]
    exact hbroken hnumber

/-- An item is passed over with the white space around it, and what is found in it is found behind
that white space. -/
theorem covers_spacedItem (s : SpacedItem) (hw : IsBlank w) (hy : Begins endsItem y) :
    Covers (andThen element blanks) n (s.text ++ w) y (s.findings n) := by
  have hitem := covers_item (n := n + s.before.length) s.item
    (Grammar.isBlank_append s.isBlank_after hw) hy
  rw [SpacedItem.text, List.append_assoc, List.append_assoc]
  exact hitem.element_blank s.isBlank_before

/-- What stands in front of a comma is passed over up to the comma. -/
theorem covers_slot (slot : Slot) :
    Covers (andThen element blanks) n slot.text (',' :: y) (slot.findings n) := by
  cases slot with
  | filled s =>
    have hitem := covers_spacedItem (n := n) (w := []) (y := ',' :: y) s isBlank_nil rfl
    rwa [List.append_nil] at hitem
  | empty space hspace =>
    have hmissing {m : Nat} : Covers element m [] (',' :: y) [(.missingElement, m)] :=
      covers_missing_element rfl rfl (by simp) rfl
    have hitem {m : Nat} : Covers (andThen element blanks) m [] (',' :: y) [(.missingElement, m)] :=
      hmissing.andThen (covers_no_blanks (stops_cons.mpr rfl))
    have hslot := (hitem (m := n + space.length)).element_blank hspace
    rwa [List.append_nil] at hslot

/-! ### What stands in front of a list -/

/-- Neither white space nor the end of a list. -/
def opensItem (c : Char) : Bool :=
  !isWhiteSpace c && c ≠ ']'

/-- What begins an element begins an item. -/
theorem opensItem_of_startsElement (hc : Grammar.startsElement c = true) : opensItem c = true := by
  have hspace := Grammar.isWhiteSpace_of_startsElement hc
  have hbracket : c ≠ ']' := by
    rintro rfl
    contradiction
  simp [opensItem, hspace, hbracket]

/-- No item begins with white space or closes the list. -/
theorem begins_item (item : Item) : Begins opensItem (item.text ++ y) := by
  cases item with
  | element text helement =>
    exact (begins_isElement helement).mono fun c hc => opensItem_of_startsElement hc
  | junk text hne hfirst hstart hbare =>
    obtain ⟨c, others, rfl⟩ := List.exists_cons_of_ne_nil hne
    have hspace : isWhiteSpace c = false := hfirst
    have hbracket : c ≠ ']' := fun hc => hbare.2.1 (hc ▸ List.mem_cons_self)
    simp [Begins, Item.text, opensItem, hspace, hbracket]
  | bareSign sign others hsign hothers hbare =>
    rcases hsign with rfl | rfl <;> rfl
  | barePoint integer others hinteger hothers hbare =>
    rw [Item.text, List.append_assoc]
    cases hinteger with
    | unsigned hwhole =>
      refine (Grammar.begins_append hwhole.1 hwhole.2).mono ?_
      intro c hc
      exact opensItem_of_startsElement (by simp [Grammar.startsElement, Grammar.startsNumber, hc])
    | signed hsign hwhole => rcases hsign with rfl | rfl <;> rfl

/-- A list that begins with an item is not closed there. -/
theorem opensElement_spacedItem (s : SpacedItem) : OpensElement (s.text ++ y) := by
  rw [SpacedItem.text, List.append_assoc, List.append_assoc]
  refine opensElement_blank s.isBlank_before (begins_item s.item) fun c hc => ?_
  simpa [opensItem] using hc

/-- Neither is one that begins with a comma. -/
theorem opensElement_slot (slot : Slot) : OpensElement (slot.text ++ ',' :: y) := by
  cases slot with
  | filled s => exact opensElement_spacedItem s
  | empty space hspace =>
    refine opensElement_blank (p := (· = ',')) hspace rfl fun c hc => ?_
    rw [of_decide_eq_true hc]
    exact ⟨rfl, by decide⟩

/-- So no list of items is closed before its first. -/
theorem opensElement_listing (l : Listing) : OpensElement (l.text ++ y) := by
  cases l with
  | last s => exact opensElement_spacedItem s
  | trailing slot =>
    rw [Listing.text, List.append_assoc]
    exact opensElement_slot slot
  | more slot others =>
    rw [Listing.text, List.append_assoc]
    exact opensElement_slot slot

/-! ## Whole lists -/

/-- A list is found broken where its items are, in their order. -/
theorem covers_listing (l : Listing) (hw : IsBlank w) :
    Covers (andThen element moreElements) n (l.text ++ w) (']' :: y) (l.findings n) := by
  rw [← andThen_moreElements]
  induction l generalizing n with
  | last s =>
    have hend {m : Nat} : Covers moreElements m [] (']' :: y) [] :=
      covers_moreElements_end rfl rfl
    have hlist := (covers_spacedItem (n := n) (y := ']' :: y) s hw rfl).andThen (y := []) hend
    rwa [List.append_nil, List.append_nil] at hlist
  | trailing slot =>
    have hlist := (covers_slot (n := n) slot).andThen (covers_moreElements_trailing (y := y) hw)
    rw [List.append_nil] at hlist
    rw [Listing.text, List.append_assoc]
    exact hlist
  | more slot others ih =>
    rw [andThen_moreElements] at ih
    have hmore {m : Nat} : Covers moreElements m (',' :: (others.text ++ w)) (']' :: y)
        (others.findings (m + 1)) := by
      have hopen : OpensElement (others.text ++ w ++ ']' :: y) := by
        rw [List.append_assoc]
        exact opensElement_listing others
      exact covers_moreElements_comma (w := []) isBlank_nil hopen ih
    rw [Listing.text, List.append_assoc]
    exact (covers_slot slot).andThen hmore

/-- The check of the elements passes over the list and finds what is found in its items. -/
theorem covers_elements_listing (l : Listing) (hw : IsBlank w) :
    Covers elements n (l.text ++ w) (']' :: y) (l.findings n) := by
  have hopen : OpensElement (l.text ++ w ++ ']' :: y) := by
    rw [List.append_assoc]
    exact opensElement_listing l
  exact covers_elements hopen (covers_listing l hw)

/-- White space at the end is passed over in silence. -/
theorem covers_ending (hw : IsBlank w) : Covers (inOrder [blanks, ending]) n w [] [] := by
  have hend {m : Nat} : Covers ending m [] [] [] := ⟨rfl, rfl⟩
  have hlist := covers_cons (covers_blanks (n := n) hw (stops_nil _)) (covers_last hend)
  rwa [List.append_nil] at hlist

end Routine

open Routine

/-- In a declaration that breaks the grammar only in the digits of its name and in its items, each
of these is found once, and nothing else. -/
theorem diagnose_listing {t name w₀ w₁ w₂ w₃ w₄ w₅ : Text} (listing : Listing)
    (hname : IsLooseName name) (hw₀ : IsBlank w₀) (hw₁ : IsBlank w₁) (hw₂ : IsBlank w₂)
    (hw₃ : IsBlank w₃) (hw₄ : IsBlank w₄) (hw₅ : IsBlank w₅)
    (ht : t = w₀ ++ name ++ w₁ ++ '=' :: w₂ ++ '[' :: listing.text ++ w₃ ++ ']' :: w₄ ++
      ';' :: w₅) :
    diagnose t = (nameFindings w₀.length name ++
        listing.findings (w₀.length + name.length + w₁.length + 1 + w₂.length + 1)).map
      fun (kind, position) => .inText t kind position := by
  have hclosing {m : Nat} : Covers (inOrder [blanks, expect .closeBracket, blanks,
      expect .semicolon, blanks, ending]) m (']' :: (w₄ ++ ';' :: w₅)) [] [] :=
    ((covers_ending hw₅).symbol .semicolon hw₄).symbol (w := []) .closeBracket isBlank_nil
  have hlist {m : Nat} := covers_cons (covers_elements_listing (n := m) listing hw₃) hclosing
  have hopening {m : Nat} := (hlist.symbol .openBracket hw₂).symbol (n := m) .assign hw₁
  have hbehind : Stops Char.isAlphanum (w₁ ++ '=' :: (w₂ ++ '[' :: (listing.text ++ w₃ ++
      ']' :: (w₄ ++ ';' :: w₅))) ++ []) := by
    rw [List.append_assoc]
    exact stops_append_of_isBlank hw₁ rfl fun c hc => isAlphanum_of_isWhiteSpace hc
  have hall := covers_append (covers_named (n := 0) hw₀ hname hbehind) hopening
  have htext : t = w₀ ++ name ++ (w₁ ++ '=' :: (w₂ ++ '[' :: (listing.text ++ w₃ ++
      ']' :: (w₄ ++ ';' :: w₅)))) := by
    simp only [ht, List.append_assoc, List.cons_append]
  have hfindings := hall.findings
  rw [List.append_nil, ← htext] at hfindings
  refine diagnose_eq_map_inText (hfindings.trans ?_)
  simp only [List.append_nil, List.length_append, Nat.zero_add]

/-- An item behind one space. -/
def SpacedItem.behindSpace (item : Item) : SpacedItem :=
  ⟨[' '], item, [], isBlank_space, isBlank_nil⟩

/-- A list with an item of every kind. -/
def everyItem : Listing :=
  .more (.filled (.behindSpace (.element ['1'] (.unsigned (.integer ⟨by simp, by simp⟩))))) <|
  .more (.filled (.behindSpace (.junk "x y".toList (by simp) rfl rfl (by simp [IsBare])))) <|
  .more (.filled (.behindSpace (.bareSign '-' " 7".toList (.inr rfl) rfl (by simp [IsBare])))) <|
  .more (.filled (.behindSpace (.barePoint ['2'] "e3".toList (.unsigned ⟨by simp, by simp⟩) rfl
    (by simp [IsBare])))) <|
  .more (.empty [] isBlank_nil) <|
  .trailing (.filled (.behindSpace (.element ('"' :: ['s'] ++ ['"']) (.string (by simp)))))

/-- Each broken item of the list is found, and so is the digit of its name. -/
theorem diagnose_everyItem :
    diagnose "a1 = [ 1, x y, - 7, 2.e3,, \"s\",];".toList =
      [⟨.digitInIdentifier, .char '1', 1⟩, ⟨.missingElement, .char 'x', 10⟩,
        ⟨.missingDigitAfterSign, .char ' ', 16⟩, ⟨.missingDigitAfterDot, .char 'e', 22⟩,
        ⟨.missingElement, .char ',', 25⟩] := by
  have hname : IsLooseName "a1".toList := ⟨rfl, by simp⟩
  exact diagnose_listing everyItem hname isBlank_nil isBlank_space isBlank_space isBlank_nil
    isBlank_nil isBlank_nil rfl

end TypedList
