import Mathlib.Algebra.Ring.Nat
import Mathlib.Data.List.Forall2
import TypedList.Proofs.Runs
import TypedList.Report.Table

/-!
# Columns of tables

In a table of rows that a line can show, every column begins at the place that the widths of the
columns before it give, in every line.  The widths are found by one pass over the rows and used by
another; what connects the two is that no cell is wider than its column, so that padding brings it
to the width of the column exactly.

Main results:

- Theorem `foldl_widen`: the widths that the rows are laid out with are those of the longest cells.
- Theorem `showsRow_line`: a line shows each cell of its row where the column begins.
- Theorem `isRule_ruleLine`: the rule has its crosses under the borders between columns.
- Theorem `tableLines_layOut`: the lines of a table are set in columns.
-/

namespace TypedList

/-! ## Joined texts -/

section

variable {c : Char} {sep : Text} {xs ys pieces : List Text}

/-- Two rows of pieces are joined by one more separator. -/
theorem intercalate_append (hx : xs ≠ []) (hy : ys ≠ []) :
    sep.intercalate (xs ++ ys) = sep.intercalate xs ++ sep ++ sep.intercalate ys := by
  induction xs with
  | nil => contradiction
  | cons x xs ih =>
    cases xs with
    | nil =>
      rw [List.singleton_append, List.intercalate_cons_of_ne_nil hy, List.intercalate_singleton]
    | cons x' xs =>
      rw [List.cons_append, List.cons_append, List.intercalate_cons_cons, ← List.cons_append,
        ih (List.cons_ne_nil x' xs), List.intercalate_cons_cons]
      simp only [List.append_assoc]

/-- Every piece brings its own length and that of a separator, but there is none behind the
last. -/
theorem length_intercalate (hpieces : pieces ≠ []) :
    (sep.intercalate pieces).length + sep.length =
      (pieces.map fun piece => piece.length + sep.length).sum := by
  induction pieces with
  | nil => contradiction
  | cons piece pieces ih =>
    cases pieces with
    | nil => simp
    | cons piece' pieces =>
      have hrest := ih (List.cons_ne_nil _ _)
      rw [List.intercalate_cons_cons, List.map_cons, List.sum_cons, ← hrest]
      simp only [List.length_append]
      omega

/-- A character of a joined text comes from the separator or from a piece. -/
theorem mem_intercalate (hc : c ∈ sep.intercalate pieces) :
    c ∈ sep ∨ ∃ piece ∈ pieces, c ∈ piece := by
  induction pieces with
  | nil => simp at hc
  | cons piece pieces ih =>
    cases pieces with
    | nil =>
      rw [List.intercalate_singleton] at hc
      exact .inr ⟨piece, List.mem_cons_self, hc⟩
    | cons piece' pieces =>
      rw [List.intercalate_cons_cons, List.mem_append, List.mem_append] at hc
      rcases hc with (hc | hc) | hc
      · exact .inr ⟨piece, List.mem_cons_self, hc⟩
      · exact .inl hc
      · rcases ih hc with hsep | ⟨p, hp, hc⟩
        · exact .inl hsep
        · exact .inr ⟨p, List.mem_cons_of_mem _ hp, hc⟩

end

/-! ## Widths and places of columns -/

/-- The width of a column: that of its longest cell. -/
def columnWidth (rows : List Row) (k : Nat) : Nat :=
  (rows.map fun row => (row[k]?.getD []).length).max?.getD 0

/-- The widths of the columns of a table. -/
def columnWidths (columns : Nat) (rows : List Row) : List Nat :=
  (List.range columns).map (columnWidth rows)

/-- Where a column begins: behind those before it, with three places for each separator. -/
def columnStart (width : Nat → Nat) (k : Nat) : Nat :=
  ((List.range k).map fun j => width j + 3).sum

variable {k : Nat} {width : Nat → Nat} {cell : Text} {row header : Row} {rows : List Row}

/-- The next column begins behind this one and a separator. -/
theorem columnStart_succ (width : Nat → Nat) (k : Nat) :
    columnStart width (k + 1) = columnStart width k + (width k + 3) := by
  rw [columnStart, List.range_succ, List.map_append, List.sum_append]
  simp [columnStart]

/-- No cell is wider than its column. -/
theorem length_le_columnWidth (hrow : row ∈ rows) (hcell : row[k]? = some cell) :
    cell.length ≤ columnWidth rows k := by
  have hlength : cell.length = (row[k]?.getD []).length := by rw [hcell, Option.getD_some]
  rw [hlength]
  exact List.le_max?_getD_of_mem (List.mem_map_of_mem hrow)

/-- A row widens every column to its cell. -/
theorem getElem?_widen (widths : List Nat) (hlength : row.length = widths.length) (k : Nat) :
    (Row.widen widths row)[k]? =
      widths[k]?.map fun width => max width (row[k]?.getD []).length := by
  rw [Row.widen, List.getElem?_zipWith]
  rcases Nat.lt_or_ge k widths.length with hk | hk
  · rw [List.getElem?_eq_getElem hk, List.getElem?_eq_getElem (hlength ▸ hk)]
    rfl
  · rw [List.getElem?_eq_none hk]
    rfl

/-- After all rows a width is the greatest length in its column. -/
theorem getElem?_foldl_widen (widths : List Nat)
    (hlength : ∀ row ∈ rows, row.length = widths.length) (k : Nat) :
    (rows.foldl Row.widen widths)[k]? =
      widths[k]?.map ((rows.map fun row => (row[k]?.getD []).length).foldl max) := by
  induction rows generalizing widths with
  | nil => simp
  | cons row rows ih =>
    have hrow := hlength row List.mem_cons_self
    have hwiden : (Row.widen widths row).length = widths.length := by
      simp [Row.widen, hrow]
    rw [List.foldl_cons, ih (Row.widen widths row), getElem?_widen widths hrow, Option.map_map]
    · rfl
    · intro other hother
      rw [hwiden]
      exact hlength other (List.mem_cons_of_mem _ hother)

/-- The widths that the rows are laid out with are those of the longest cells. -/
theorem foldl_widen (hrows : ∀ row ∈ rows, row.length = header.length) :
    rows.foldl Row.widen (header.map List.length) =
      columnWidths header.length (header :: rows) := by
  apply List.ext_getElem?
  intro k
  unfold columnWidths
  rw [getElem?_foldl_widen _ (by simpa using hrows), List.getElem?_map, List.getElem?_map]
  rcases Nat.lt_or_ge k header.length with hk | hk
  · rw [List.getElem?_range hk, List.getElem?_eq_getElem hk, Option.map_some, Option.map_some,
      Option.map_some, columnWidth, List.map_cons, List.max?_cons', List.getElem?_eq_getElem hk]
    rfl
  · rw [List.getElem?_eq_none hk, List.getElem?_eq_none (by simpa using hk)]
    rfl

/-! ## Pieces in columns -/

/-- Where a column begins, what stands before it ends with a separator. -/
theorem cut_intercalate {sep : Text} {pieces : List Text} (hsep : sep.length = 3)
    (hwidth : (pieces.take k).map List.length = (List.range k).map width) (hk : 0 < k)
    (hlt : k < pieces.length) :
    ∃ before, before.length + 3 = columnStart width k ∧
      sep.intercalate pieces = before ++ (sep ++ sep.intercalate (pieces.drop k)) := by
  have hbefore : pieces.take k ≠ [] := by
    rw [← List.length_pos_iff, List.length_take]
    omega
  have hbehind : pieces.drop k ≠ [] := by
    rw [← List.length_pos_iff, List.length_drop]
    omega
  refine ⟨sep.intercalate (pieces.take k), ?_, ?_⟩
  · have hsum : (pieces.take k).map (fun piece => piece.length + 3) =
        (List.range k).map fun j => width j + 3 := by
      have hmap := congrArg (List.map (· + 3)) hwidth
      rwa [List.map_map, List.map_map] at hmap
    rw [columnStart, ← hsum, ← hsep, length_intercalate hbefore]
  · rw [← List.append_assoc, ← intercalate_append hbefore hbehind, List.take_append_drop]

/-- What stands from the start of a column on is the pieces from there on, joined. -/
theorem drop_columnStart {sep : Text} {pieces : List Text} (hsep : sep.length = 3)
    (hwidth : (pieces.take k).map List.length = (List.range k).map width)
    (hlt : k < pieces.length) :
    (sep.intercalate pieces).drop (columnStart width k) = sep.intercalate (pieces.drop k) := by
  rcases Nat.eq_zero_or_pos k with rfl | hk
  · rfl
  · obtain ⟨before, hlength, hcut⟩ := cut_intercalate hsep hwidth hk hlt
    rw [hcut, ← List.append_assoc]
    exact List.drop_left' (by rw [List.length_append, hsep, hlength])

/-- A piece that is not the last one ends where its column does. -/
theorem take_drop_columnStart {sep piece : Text} {pieces : List Text} (hsep : sep.length = 3)
    (hwidth : (pieces.take k).map List.length = (List.range k).map width)
    (hpiece : pieces[k]? = some piece) (hlength : piece.length = width k)
    (hlt : k + 1 < pieces.length) :
    ((sep.intercalate pieces).drop (columnStart width k)).take (width k) = piece := by
  have hbehind : pieces.drop (k + 1) ≠ [] := by
    rw [← List.length_pos_iff, List.length_drop]
    omega
  rw [drop_columnStart hsep hwidth (Nat.lt_of_succ_lt hlt), List.drop_eq_getElem?_toList_append,
    hpiece, Option.toList_some, List.singleton_append, List.intercalate_cons_of_ne_nil hbehind,
    List.append_assoc]
  exact List.take_left' hlength

/-! ## Lines of rows -/

/-- The text has no white space but plain spaces. -/
def IsPlain (t : Text) : Prop :=
  ∀ c ∈ t, isWhiteSpace c = true → c = ' '

/-- Whether a text has plain white space only can be decided character by character. -/
theorem isPlain_iff {t : Text} :
    IsPlain t ↔ (t.all fun c => !isWhiteSpace c || c = ' ') = true := by
  simp only [IsPlain, List.all_eq_true, Bool.or_eq_true, Bool.not_eq_true', decide_eq_true_eq]
  refine forall₂_congr fun c _ => ?_
  cases isWhiteSpace c <;> simp

instance (t : Text) : Decidable (IsPlain t) :=
  decidable_of_iff _ isPlain_iff.symm

/-- The rows that a table of so many columns can show: their white space is plain, and they do not
end in any. -/
structure IsTableRow (columns : Nat) (row : Row) : Prop where
  length : row.length = columns
  plain : ∀ cell ∈ row, IsPlain cell
  ends : ∃ front text c, row = front ++ [text ++ [c]] ∧ isWhiteSpace c = false

/-- A line shows a row: before every column but the first there is a separator, every cell begins
where its column does and is followed by nothing but the spaces that fill the column, and the last
one by nothing at all. -/
structure ShowsRow (width : Nat → Nat) (row : Row) (line : Text) : Prop where
  separator : ∀ k, 0 < k → k < row.length →
    (line.drop (columnStart width k - 3)).take 3 = " | ".toList
  cell : ∀ k cell, k + 1 < row.length → row[k]? = some cell →
    (line.drop (columnStart width k)).take (width k) =
      cell ++ List.replicate (width k - cell.length) ' '
  last : row.getLast? = some (line.drop (columnStart width (row.length - 1)))

/-- A cell that fits is padded to the width exactly. -/
theorem length_pad {w : Nat} (h : cell.length ≤ w) : (Row.pad w cell).length = w := by
  rw [Row.pad, List.length_append, List.length_replicate]
  omega

/-- Padding brings every cell to the width of its column. -/
theorem map_length_pad (hfits : ∀ k cell, row[k]? = some cell → cell.length ≤ width k) :
    (List.zipWith Row.pad ((List.range row.length).map width) row).map List.length =
      (List.range row.length).map width := by
  apply List.ext_getElem?
  intro k
  rw [List.getElem?_map, List.getElem?_zipWith, List.getElem?_map]
  rcases Nat.lt_or_ge k row.length with hk | hk
  · have hcell := List.getElem?_eq_getElem hk
    rw [List.getElem?_range hk, hcell, Option.map_some, Option.map_some,
      length_pad (hfits k _ hcell)]
  · rw [List.getElem?_eq_none (by simpa using hk)]
    rfl

/-- What is added to the last piece is added to the joined text. -/
theorem intercalate_concat_append {sep s t : Text} (pieces : List Text) :
    sep.intercalate (pieces ++ [s ++ t]) = sep.intercalate (pieces ++ [s]) ++ t := by
  rcases List.eq_nil_or_concat pieces with rfl | ⟨front, piece, rfl⟩
  · simp
  · have hne : front.concat piece ≠ [] := by simp
    rw [intercalate_append hne (List.cons_ne_nil _ _), intercalate_append hne (List.cons_ne_nil _ _)]
    simp

/-- Only the padding of the last cell is cut off. -/
theorem line_append (width : Nat → Nat) (front : Row) {text : Text} {c : Char}
    (hc : isWhiteSpace c = false) :
    Row.line ((List.range (front.length + 1)).map width) (front ++ [text ++ [c]]) =
      " | ".toList.intercalate
        (List.zipWith Row.pad ((List.range front.length).map width) front ++ [text ++ [c]]) := by
  have hspaces : ∀ d ∈ List.replicate (width front.length - (text ++ [c]).length) ' ',
      isWhiteSpace d = true := by
    intro d hd
    rw [List.eq_of_mem_replicate hd]
    rfl
  rw [Row.line, List.range_succ, List.map_append, List.zipWith_append (by simp), List.map_singleton,
    List.zipWith_cons_cons, List.zipWith_nil_left, Row.pad, intercalate_concat_append,
    trimEnd_append hspaces, intercalate_concat_append, trimEnd_concat hc]

/-- A line shows each cell of its row where the column begins. -/
theorem showsRow_line {columns : Nat} (hrow : IsTableRow columns row)
    (hfits : ∀ k cell, row[k]? = some cell → cell.length ≤ width k) :
    ShowsRow width row (Row.line ((List.range columns).map width) row) := by
  obtain ⟨front, text, c, rfl, hc⟩ := hrow.ends
  have hfront : ∀ k cell, front[k]? = some cell → cell.length ≤ width k := by
    intro k cell hcell
    have hk := (List.getElem?_eq_some_iff.mp hcell).1
    exact hfits k cell (by rw [List.getElem?_append_left hk, hcell])
  have hcolumns : columns = front.length + 1 := by
    rw [← hrow.length, List.length_append, List.length_singleton]
  subst hcolumns
  rw [line_append width front hc]
  generalize hpieces : List.zipWith Row.pad ((List.range front.length).map width) front ++
    [text ++ [c]] = pieces
  have hlength : pieces.length = front.length + 1 := by simp [← hpieces]
  have hwidth {k : Nat} (hk : k ≤ front.length) :
      (pieces.take k).map List.length = (List.range k).map width := by
    rw [List.map_take, ← hpieces, List.map_append, map_length_pad hfront,
      List.take_append_of_le_length (by simpa using hk), ← List.map_take, List.take_range,
      Nat.min_eq_left hk]
  have hsep : " | ".toList.length = 3 := rfl
  constructor
  case separator =>
    intro k hk hlt
    rw [List.length_append, List.length_singleton] at hlt
    obtain ⟨before, hbefore, hcut⟩ := cut_intercalate hsep (hwidth (by omega)) hk (by omega)
    rw [hcut, List.drop_left' (by omega)]
    exact List.take_left' hsep
  case cell =>
    intro k cell hk hcell
    rw [List.length_append, List.length_singleton] at hk
    have hlt : k < front.length := by omega
    have hpiece : pieces[k]? = some (Row.pad (width k) cell) := by
      rw [List.getElem?_append_left hlt] at hcell
      rw [← hpieces, List.getElem?_append_left (by simpa using hlt), List.getElem?_zipWith,
        List.getElem?_map, List.getElem?_range hlt, hcell]
      rfl
    exact take_drop_columnStart hsep (hwidth (by omega)) hpiece
      (length_pad (hfits k cell hcell)) (by omega)
  case last =>
    have hpiece : pieces.drop front.length = [text ++ [c]] := by
      rw [← hpieces]
      exact List.drop_left' (by simp)
    rw [List.length_append, List.length_singleton, Nat.add_sub_cancel, List.getLast?_concat,
      drop_columnStart hsep (hwidth (by omega)) (by omega), hpiece, List.intercalate_singleton]

/-! ## The rule -/

/-- A rule runs under all columns, with a cross under each border between two of them. -/
structure IsRule (width : Nat → Nat) (columns : Nat) (rule : Text) : Prop where
  length : rule.length = columnStart width (columns - 1) + width (columns - 1)
  cross : ∀ i, rule[i]? = some '+' ↔ ∃ k, 0 < k ∧ k < columns ∧ i + 2 = columnStart width k
  dash : ∀ c ∈ rule, c = '+' ∨ c = '-'

/-- One column has a rule of dashes only. -/
theorem ruleLine_singleton (w : Nat) : ruleLine [w] = List.replicate w '-' := by
  rw [ruleLine, List.map_singleton, List.intercalate_singleton]

/-- One more column adds its border and its dashes. -/
theorem ruleLine_concat {widths : List Nat} (hwidths : widths ≠ []) (w : Nat) :
    ruleLine (widths ++ [w]) =
      ruleLine widths ++ '-' :: '+' :: '-' :: List.replicate w '-' := by
  have hsep : "-+-".toList = ['-', '+', '-'] := by decide +kernel
  have hne : (widths.map fun width => List.replicate width '-') ≠ [] := by simpa using hwidths
  rw [ruleLine, ruleLine, List.map_append, List.map_singleton,
    intercalate_append hne (List.cons_ne_nil _ _), List.intercalate_singleton, hsep]
  simp

/-- The only cross behind a rule that goes on is the one in the separator. -/
theorem getElem?_cross (s : Text) (w i : Nat) :
    (s ++ '-' :: '+' :: '-' :: List.replicate w '-')[i]? = some '+' ↔
      s[i]? = some '+' ∨ i = s.length + 1 := by
  rcases Nat.lt_or_ge i s.length with hi | hi
  · rw [List.getElem?_append_left hi, or_iff_left (by omega)]
  · obtain ⟨j, rfl⟩ := Nat.exists_eq_add_of_le hi
    rw [List.getElem?_append_right hi, Nat.add_sub_cancel_left, List.getElem?_eq_none hi]
    rcases j with _ | _ | _ | j
    · simp
    · simp
    · simp
    · simp [List.getElem?_replicate]

/-- One column has a rule without a cross. -/
theorem isRule_first (width : Nat → Nat) : IsRule width 1 (List.replicate (width 0) '-') where
  length := by simp [columnStart]
  cross := by
    intro i
    constructor
    · intro hcross
      have hmem := List.mem_of_getElem? hcross
      exact absurd (List.eq_of_mem_replicate hmem) (by decide)
    · rintro ⟨k, hk, hlt, -⟩
      omega
  dash := fun c hc => .inr (List.eq_of_mem_replicate hc)

/-- One more column adds a cross where the border before it is. -/
theorem IsRule.concat {n : Nat} {rule : Text} (h : IsRule width (n + 1) rule) :
    IsRule width (n + 2) (rule ++ '-' :: '+' :: '-' :: List.replicate (width (n + 1)) '-') := by
  have hlength : rule.length + 3 = columnStart width (n + 1) := by
    rw [h.length, columnStart_succ, Nat.add_sub_cancel, Nat.add_assoc]
  constructor
  case length =>
    simp only [List.length_append, List.length_cons, List.length_replicate]
    change _ = columnStart width (n + 1) + width (n + 1)
    omega
  case cross =>
    intro i
    rw [getElem?_cross, h.cross]
    constructor
    · rintro (⟨k, hk, hlt, hi⟩ | rfl)
      · exact ⟨k, hk, by omega, hi⟩
      · exact ⟨n + 1, by omega, by omega, by omega⟩
    · rintro ⟨k, hk, hlt, hi⟩
      rcases Nat.lt_succ_iff_lt_or_eq.mp hlt with hlt | rfl
      · exact .inl ⟨k, hk, hlt, hi⟩
      · exact .inr (by omega)
  case dash =>
    intro c hc
    simp only [List.mem_append, List.mem_cons] at hc
    rcases hc with hc | rfl | rfl | rfl | hc
    · exact h.dash c hc
    · exact .inr rfl
    · exact .inl rfl
    · exact .inr rfl
    · exact .inr (List.eq_of_mem_replicate hc)

/-- The rule has its crosses under the borders between columns. -/
theorem isRule_ruleLine (width : Nat → Nat) (n : Nat) :
    IsRule width (n + 1) (ruleLine ((List.range (n + 1)).map width)) := by
  induction n with
  | zero =>
    rw [List.range_one, List.map_singleton, ruleLine_singleton]
    exact isRule_first width
  | succ n ih =>
    have hne : (List.range (n + 1)).map width ≠ [] := by simp
    rw [List.range_succ, List.map_append, List.map_singleton, ruleLine_concat hne]
    exact ih.concat

/-! ## Lines of tables -/

/-- A line of a table holds no white space but plain spaces, so that nothing breaks it, and does
not end in any. -/
structure IsTableLine (line : Text) : Prop where
  plain : IsPlain line
  ends : ∀ c ∈ line.getLast?, isWhiteSpace c = false

/-- No line of a table is broken. -/
theorem IsTableLine.lineFeed_notMem {line : Text} (h : IsTableLine line) : '\n' ∉ line := by
  intro hmem
  exact absurd (h.plain _ hmem rfl) (by decide)

/-- The line of a row is unbroken and ends in its last cell. -/
theorem isTableLine_line {columns : Nat} (hrow : IsTableRow columns row) (widths : List Nat) :
    IsTableLine (Row.line widths row) where
  plain := by
    intro c hc hspace
    have hsep : IsPlain " | ".toList := by decide +kernel
    rcases mem_intercalate (mem_of_mem_trimEnd hc) with hc | ⟨piece, hpiece, hc⟩
    · exact hsep c hc hspace
    · rw [← List.map_uncurry_zip_eq_zipWith] at hpiece
      obtain ⟨⟨w, cell⟩, hmem, rfl⟩ := List.mem_map.mp hpiece
      rcases List.mem_append.mp hc with hc | hc
      · exact hrow.plain cell (List.of_mem_zip hmem).2 c hc hspace
      · exact List.eq_of_mem_replicate hc
  ends := fun c hc => eq_false_of_mem_getLast?_trimEnd hc

/-- A rule has no white space at all. -/
theorem IsRule.isTableLine {columns : Nat} {rule : Text} (h : IsRule width columns rule) :
    IsTableLine rule := by
  have hsolid {c : Char} (hc : c ∈ rule) : isWhiteSpace c = false := by
    rcases h.dash c hc with rfl | rfl <;> rfl
  constructor
  case plain =>
    intro c hc hspace
    rw [hsolid hc] at hspace
    contradiction
  case ends => exact fun c hc => hsolid (List.mem_of_getLast? hc)

/-- The lines of a table: one for the header, the rule, and one for each row, all set in the same
columns. -/
structure TableLines (header : Row) (rows : List Row) (top rule : Text) (body : List Text) :
    Prop where
  line : ∀ line ∈ top :: rule :: body, IsTableLine line
  top : ShowsRow (columnWidth (header :: rows)) header top
  rule : IsRule (columnWidth (header :: rows)) header.length rule
  body : List.Forall₂ (ShowsRow (columnWidth (header :: rows))) rows body

/-- A row of a table is not empty. -/
theorem IsTableRow.exists_columns {columns : Nat} (h : IsTableRow columns row) :
    ∃ n, columns = n + 1 := by
  obtain ⟨front, text, c, hrow, -⟩ := h.ends
  exact ⟨front.length, by rw [← h.length, hrow, List.length_append, List.length_singleton]⟩

/-- A table is the line of its header, the rule and the lines of its rows, all with the widths of
the longest cells. -/
theorem layOut_eq {columns : Nat} (hheader : IsTableRow columns header)
    (hrows : ∀ row ∈ rows, IsTableRow columns row) :
    layOut header rows =
      (header.line (columnWidths columns (header :: rows)) ::
        ruleLine (columnWidths columns (header :: rows)) ::
        rows.map (Row.line (columnWidths columns (header :: rows)))).flatMap (· ++ ['\n']) := by
  have hlength : ∀ row ∈ rows, row.length = header.length := by
    intro row hrow
    rw [(hrows row hrow).length, hheader.length]
  rw [layOut, foldl_widen hlength, hheader.length]

/-- The lines of a table are set in columns. -/
theorem tableLines_layOut {columns : Nat} (hheader : IsTableRow columns header)
    (hrows : ∀ row ∈ rows, IsTableRow columns row) :
    TableLines header rows (header.line (columnWidths columns (header :: rows)))
      (ruleLine (columnWidths columns (header :: rows)))
      (rows.map (Row.line (columnWidths columns (header :: rows)))) := by
  have hfits : ∀ row ∈ header :: rows, ∀ k cell, row[k]? = some cell →
      cell.length ≤ columnWidth (header :: rows) k :=
    fun row hrow k cell => length_le_columnWidth hrow
  have hrule : IsRule (columnWidth (header :: rows)) columns
      (ruleLine (columnWidths columns (header :: rows))) := by
    obtain ⟨n, rfl⟩ := hheader.exists_columns
    exact isRule_ruleLine _ n
  constructor
  case line =>
    intro line hline
    rcases List.mem_cons.mp hline with rfl | hline
    · exact isTableLine_line hheader _
    · rcases List.mem_cons.mp hline with rfl | hline
      · exact hrule.isTableLine
      · obtain ⟨row, hrow, rfl⟩ := List.mem_map.mp hline
        exact isTableLine_line (hrows row hrow) _
  case top => exact showsRow_line hheader (hfits header List.mem_cons_self)
  case rule => exact hheader.length ▸ hrule
  case body =>
    rw [List.forall₂_map_right_iff, List.forall₂_same]
    intro row hrow
    exact showsRow_line (hrows row hrow) (hfits row (List.mem_cons_of_mem _ hrow))

end TypedList
