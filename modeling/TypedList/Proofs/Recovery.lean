import TypedList.Proofs.Coverage
import TypedList.Proofs.Displacement

/-!
# Going on behind a missing symbol

Where a check skips to a synchronization character, it goes on as if what it missed had been
written there: whatever follows, valid or not, is found as it would be behind the right symbol,
only at other positions.

Main results:

- Theorem `findsThenAs_of_covers`: two texts that lead the check to the same place with the same
  text behind it have the same diagnostics from there on, up to their positions.
- Theorem `recovers_as_written`: this is so where the check misses the name, `=`, `[` or `]`.
-/

namespace TypedList

/-- In `t` the violation is found at the position, and then what is found in `u`, with `k` added to
every position. -/
def FindsThenAs (t : Text) (kind : Violation) (position : Nat) (k : Int) (u : Text) : Prop :=
  ∃ others, diagnose t = .inText t kind position :: others ∧ Shifted k (diagnose u) others

/-- Elements with commas between them, the last of which is given. -/
inductive IsElementsTo (last : Text) : Text → Prop
  | single : IsElement last → IsElementsTo last last
  | cons {element before after rest : Text} :
      IsElement element → IsBlank before → IsBlank after → IsElementsTo last rest →
        IsElementsTo last (element ++ before ++ ',' :: after ++ rest)

/-- Every list of elements has a last one. -/
theorem exists_isElementsTo {t : Text} (h : IsElements t) : ∃ last, IsElementsTo last t := by
  induction h with
  | @single element helement => exact ⟨element, .single helement⟩
  | cons helement hbefore hafter _ ih =>
    obtain ⟨last, hlast⟩ := ih
    exact ⟨last, .cons helement hbefore hafter hlast⟩

/-- The last of some elements is an element. -/
theorem IsElementsTo.isElement {last t : Text} (h : IsElementsTo last t) : IsElement last := by
  induction h with
  | single helement => exact helement
  | cons _ _ _ _ ih => exact ih

namespace Routine

variable {rs ss : List Routine} {n : Nat} {kind : Violation} {position : Nat}
  {last x x' y : Text}

/-! ## Parts of a declaration -/

/-- A missing delimiter is reported behind white space, and the check goes on where a
synchronization character stands. -/
theorem covers_missing_symbol {delimiter : Delimiter} (hspace : Stops isWhiteSpace (x ++ y))
    (hmissing : Stops (· = delimiter.char) (x ++ y))
    (hx : ∀ c ∈ x, c ∉ delimiter.grammarPoint.syncChars)
    (hy : Stops (· ∉ delimiter.grammarPoint.syncChars) y) :
    Covers (inOrder [blanks, expect delimiter]) n x y [(.missingSymbol delimiter, n)] :=
  covers_cons (covers_no_blanks hspace) (covers_last (covers_missing hmissing hx hy))

/-- Elements begin as their first one does. -/
theorem begins_isElementsTo (hx : IsElementsTo last x) :
    Begins Grammar.startsElement (x ++ y) := by
  cases hx with
  | single hx => exact begins_isElement hx
  | cons hx _ _ _ =>
    simp only [List.append_assoc]
    exact begins_isElement hx

/-- Elements that what follows does not carry on are passed over in silence. -/
theorem covers_isElementsTo (hx : IsElementsTo last x) (hlast : EndsBefore IsElement last y)
    (hspace : Stops isWhiteSpace y) (hcomma : Stops (· = ',') y) :
    Covers (andThen element moreElements) n x y [] := by
  induction hx generalizing n with
  | single hx =>
    have hend := covers_moreElements_end (n := n + last.length) hspace hcomma
    have hlist := (covers_element (n := n) hx hlast).andThen (y := []) hend
    rwa [List.append_nil] at hlist
  | @cons x before after rest hx hbefore hafter hrest ih =>
    have hnumeral : Stops isNumeral (before ++ ',' :: (after ++ rest) ++ y) := by
      rw [List.append_assoc]
      exact stops_append_of_isBlank hbefore rfl fun c hc => isNumeral_of_isWhiteSpace hc
    have hopen : OpensElement (after ++ rest ++ y) := by
      rw [List.append_assoc]
      exact opensElement_of_startsElement hafter (begins_isElementsTo hrest)
    have hmore {m : Nat} : Covers moreElements m (before ++ ',' :: (after ++ rest)) y [] :=
      covers_moreElements_comma hbefore hopen (ih.element_blank hafter)
    have hlist := (covers_element (n := n) hx (endsBefore_of_stops hx hnumeral)).andThen hmore
    simpa only [List.append_assoc, List.cons_append, List.append_nil] using hlist

section Openings

variable {name elements : Text}

/-- A name of letters is passed over in silence. -/
theorem covers_letters (hname : IsName name) (hy : Stops Char.isAlphanum y) :
    Covers (inOrder [blanks, Routine.name]) n name y [] := by
  have hnamed := covers_named (n := n) (w := []) isBlank_nil (isLooseName_of_isName hname) hy
  rwa [nameFindings_of_letters hname.2] at hnamed

/-- So is the `=` behind it. -/
theorem covers_assigned (hname : IsName name) :
    Covers (inOrder [blanks, Routine.name, blanks, expect .assign]) n (name ++ ['=']) y [] :=
  covers_append (covers_letters hname (stops_cons.mpr rfl))
    (covers_symbol (w := []) .assign isBlank_nil)

/-- So is the opening bracket behind that. -/
theorem covers_opened (hname : IsName name) :
    Covers (inOrder [blanks, Routine.name, blanks, expect .assign, blanks, expect .openBracket]) n
      (name ++ ['='] ++ ['[']) y [] :=
  covers_append (covers_assigned hname) (covers_symbol (w := []) .openBracket isBlank_nil)

/-- So are the elements behind that, up to where the last one ends. -/
theorem covers_listed (hname : IsName name) (helements : IsElementsTo last elements)
    (hlast : EndsBefore IsElement last y) (hspace : Stops isWhiteSpace y)
    (hcomma : Stops (· = ',') y) :
    Covers (inOrder [blanks, Routine.name, blanks, expect .assign, blanks, expect .openBracket,
      Routine.elements]) n (name ++ ['='] ++ ['['] ++ elements) y [] := by
  have hopen : OpensElement (elements ++ y) :=
    opensElement_of_startsElement (w := []) isBlank_nil (begins_isElementsTo helements)
  exact covers_append (covers_opened hname)
    (covers_last (covers_elements hopen (covers_isElementsTo helements hlast hspace hcomma)))

end Openings

/-! ## Going on -/

/-- Two texts that lead a check to the same place with the same text behind it have the same
diagnostics from there on. -/
theorem findsThenAs_of_covers (hparts : declaration = inOrder (rs ++ ss))
    (hss : Composed (inOrder ss)) (hbroken : Covers (inOrder rs) 0 x y [(kind, position)])
    (hsound : Covers (inOrder rs) 0 x' y []) :
    FindsThenAs (x ++ y) kind position (x.length - x'.length) (x' ++ y) := by
  have hsplit {v : Text} {found : List Finding} (hv : Covers (inOrder rs) 0 v y found) :
      diagnose (v ++ y) = (inOrder rs ⟨0, v ++ y⟩).diagnostics ++
        (inOrder ss ⟨v.length, y⟩).diagnostics := by
    have hcursor := hv.cursor
    rw [Nat.zero_add] at hcursor
    rw [diagnose_eq, hparts, inOrder_append, andThen, Pass.diagnostics_append, Cursor.start,
      hcursor]
  have hx := hsplit hbroken
  have hx' := hsplit hsound
  obtain ⟨d, hd, hfinding⟩ : ∃ d, (inOrder rs ⟨0, x ++ y⟩).diagnostics = [d] ∧
      d.finding = (kind, position) := by
    have hfindings := hbroken.findings
    rw [Pass.findings, List.map_eq_singleton_iff] at hfindings
    exact hfindings
  have hnone : (inOrder rs ⟨0, x' ++ y⟩).diagnostics = [] :=
    List.map_eq_nil_iff.mp hsound.findings
  rw [hd] at hx
  rw [hnone, List.nil_append] at hx'
  have hfirst : d = .inText (x ++ y) kind position := by
    have htext := eq_inText_of_mem_diagnose (t := x ++ y) (d := d) (by simp [hx])
    rw [Diagnostic.finding, Prod.mk.injEq] at hfinding
    rwa [hfinding.1, hfinding.2] at htext
  refine ⟨(inOrder ss ⟨x.length, y⟩).diagnostics, by rw [hx, hfirst]; rfl, ?_⟩
  rw [hx']
  exact shifted_diagnostics hss x'.length x.length y

/-- Where a delimiter is missing and the text `skipped` leads up to its synchronization character,
the check goes on as if the delimiter stood there instead. -/
theorem findsThenAs_missing {delimiter : Delimiter} {c : Char} {read skipped : Text}
    (hparts : declaration = inOrder ((rs ++ [blanks, expect delimiter]) ++ ss))
    (hss : Composed (inOrder ss)) (hsync : delimiter.grammarPoint.syncChars = [c])
    (hbroken : Covers (inOrder rs) 0 read (skipped ++ c :: y) [])
    (hsound : Covers (inOrder rs) 0 read ([delimiter.char] ++ c :: y) [])
    (hc : c ∉ skipped) (hspace : Stops isWhiteSpace (skipped ++ c :: y))
    (hmissing : Stops (· = delimiter.char) (skipped ++ c :: y)) :
    FindsThenAs (read ++ skipped ++ c :: y) (.missingSymbol delimiter) read.length
      (skipped.length - 1) (read ++ [delimiter.char] ++ c :: y) := by
  have hskipped : ∀ d ∈ skipped, d ∉ delimiter.grammarPoint.syncChars := by
    intro d hd hmem
    rw [hsync, List.mem_singleton] at hmem
    exact hc (hmem ▸ hd)
  have hstop : Stops (· ∉ delimiter.grammarPoint.syncChars) (c :: y) := by
    rw [hsync, stops_cons]
    simp
  have hmiss := covers_append hbroken
    (covers_missing_symbol (n := 0 + read.length) hspace hmissing hskipped hstop)
  have hfound := covers_append hsound
    (covers_symbol (n := 0 + read.length) (w := []) delimiter isBlank_nil)
  have hlength : ((read ++ skipped).length - (read ++ [delimiter.char]).length : Int) =
      skipped.length - 1 := by
    simp only [List.length_append, List.length_singleton]
    omega
  rw [Nat.zero_add] at hmiss
  rw [← hlength]
  exact findsThenAs_of_covers hparts hss hmiss hfound

end Routine

open Routine

/-- Where the check misses the name, `=`, `[` or `]` and skips the text `g`, it goes on as if what
it missed stood there instead. -/
theorem recovers_as_written {name : Text} (hname : IsName name) (r : Text) :
    (∀ g, '=' ∉ g → Stops isWhiteSpace g → Stops Char.isAlpha g →
      FindsThenAs (g ++ '=' :: r) .invalidIdentifierStart 0 (g.length - name.length)
        (name ++ '=' :: r)) ∧
    (∀ g, '[' ∉ g → Stops isWhiteSpace g → Stops (· = '=') g → Stops Char.isAlphanum g →
      FindsThenAs (name ++ g ++ '[' :: r) (.missingSymbol .assign) name.length (g.length - 1)
        (name ++ ['='] ++ '[' :: r)) ∧
    (∀ g, ']' ∉ g → Stops isWhiteSpace g → Stops (· = '[') g →
      FindsThenAs (name ++ ['='] ++ g ++ ']' :: r) (.missingSymbol .openBracket)
        (name ++ ['=']).length (g.length - 1) (name ++ ['='] ++ ['['] ++ ']' :: r)) ∧
    (∀ elements g, IsElements elements → ';' ∉ g → Stops isWhiteSpace g → Stops (· = ',') g →
      Stops (· = ']') g → (∀ last, IsElementsTo last elements → EndsBefore IsElement last g) →
      FindsThenAs (name ++ ['='] ++ ['['] ++ elements ++ g ++ ';' :: r)
        (.missingSymbol .closeBracket) (name ++ ['='] ++ ['['] ++ elements).length (g.length - 1)
        (name ++ ['='] ++ ['['] ++ elements ++ [']'] ++ ';' :: r)) := by
  refine ⟨?_, ?_, ?_, ?_⟩
  · intro g hg hspace hletter
    have hbroken : Covers (inOrder [blanks, Routine.name]) 0 g ('=' :: r)
        [(.invalidIdentifierStart, 0)] :=
      covers_cons (covers_no_blanks (hspace.append_cons rfl))
        (covers_last (covers_no_name (hletter.append_cons rfl) hg rfl))
    exact findsThenAs_of_covers rfl (composed_of_mem_declaration (by simp)) hbroken
      (covers_letters hname rfl)
  · intro g hg hspace hassign halphanum
    exact findsThenAs_missing rfl (composed_of_mem_declaration (by simp)) rfl
      (covers_letters hname (halphanum.append_cons rfl)) (covers_letters hname rfl) hg
      (hspace.append_cons rfl) (hassign.append_cons rfl)
  · intro g hg hspace hopen
    exact findsThenAs_missing rfl (composed_of_mem_declaration (by simp)) rfl
      (covers_assigned hname) (covers_assigned hname) hg (hspace.append_cons rfl)
      (hopen.append_cons rfl)
  · intro elements g helements hg hspace hcomma hclose hends
    obtain ⟨last, hlast⟩ := exists_isElementsTo helements
    have hbroken : EndsBefore IsElement last (g ++ ';' :: r) := by
      cases g with
      | nil => exact endsBefore_of_stops hlast.isElement rfl
      | cons c g => exact hends last hlast
    have hsound : EndsBefore IsElement last ([Delimiter.closeBracket.char] ++ ';' :: r) :=
      endsBefore_of_stops hlast.isElement rfl
    exact findsThenAs_missing rfl (composed_of_mem_declaration (by simp)) rfl
      (covers_listed hname hlast hbroken (hspace.append_cons rfl) (hcomma.append_cons rfl))
      (covers_listed hname hlast hsound rfl rfl) hg
      (hspace.append_cons rfl) (hclose.append_cons rfl)

/-- Four texts in which the check misses a symbol of a list named `xs`. -/
theorem recovers_as_written_xs :
    IsName "xs".toList ∧
      FindsThenAs "7 x=[-];".toList .invalidIdentifierStart 0 1 "xs=[-];".toList ∧
      FindsThenAs "xs_7[-];".toList (.missingSymbol .assign) 2 1 "xs=[-];".toList ∧
      FindsThenAs "xs=(1)]-];".toList (.missingSymbol .openBracket) 3 2 "xs=[]-];".toList ∧
      FindsThenAs "xs=[1 , 2.5_0];-];".toList (.missingSymbol .closeBracket) 11 2
        "xs=[1 , 2.5];-];".toList := by
  have hname : IsName "xs".toList := ⟨by simp, by simp⟩
  have hone : IsElement ['1'] := .unsigned (.integer ⟨by simp, by simp⟩)
  have hfloat : IsUnsigned ("2".toList ++ '.' :: "5".toList) :=
    .float ⟨by simp, by simp⟩ ⟨by simp, by simp⟩
  have helements : IsElements "1 , 2.5".toList :=
    .cons hone isBlank_space isBlank_space (.single (.unsigned hfloat))
  refine ⟨hname, ?_, ?_, ?_, ?_⟩
  · exact (recovers_as_written hname "[-];".toList).1 "7 x".toList (by simp) rfl rfl
  · exact (recovers_as_written hname "-];".toList).2.1 "_7".toList (by simp) rfl rfl rfl
  · exact (recovers_as_written hname "-];".toList).2.2.1 "(1)".toList (by simp) rfl rfl
  · exact (recovers_as_written hname "-];".toList).2.2.2 "1 , 2.5".toList "_0]".toList helements
      (by simp) rfl rfl rfl fun last hlast => endsBefore_of_stops hlast.isElement rfl

end TypedList
