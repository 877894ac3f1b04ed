import TypedList.Proofs.Columns
import TypedList.Proofs.Escapes

/-!
# Token tables

The token table is set in columns, and it tells tokens apart by everything that it shows of them.
The widths can be read off the rule; then each cell can be cut out of its line, and only spaces at
its end cannot be told from those that fill the column.  Of the cells only a lexeme can end in
spaces, and its shown form is read back character by character.

Main results:

- Theorem `ruleLine_inj`: the rule shows the widths of the columns.
- Theorem `layOut_inj`: a table determines the cells of its rows up to spaces at their ends.
- Theorems `printTable_of_fits` and `printTable_of_not_fits`: the token table is printed exactly if
  no cell of it is too wide for padding.
- Theorem `tokenTable_aligned_and_faithful`: the token table is set in columns and determines what
  it shows of its tokens.
-/

namespace TypedList

variable {k : Nat} {width : Nat → Nat} {a b t u line : Text} {x y header : Row}
  {rows rows' : List Row}

/-! ## What a table determines -/

/-- A text with a line feed behind each of its lines determines the lines. -/
theorem lines_inj {xs ys : List Text} (hx : ∀ line ∈ xs, '\n' ∉ line)
    (hy : ∀ line ∈ ys, '\n' ∉ line)
    (h : xs.flatMap (· ++ ['\n']) = ys.flatMap (· ++ ['\n'])) : xs = ys := by
  induction xs generalizing ys with
  | nil =>
    cases ys with
    | nil => rfl
    | cons line ys => simp at h
  | cons line xs ih =>
    cases ys with
    | nil => simp at h
    | cons line' ys =>
      rw [List.flatMap_cons, List.flatMap_cons, List.append_assoc, List.append_assoc] at h
      rcases append_cons_inj (hx line List.mem_cons_self) (hy line' List.mem_cons_self) h with
        ⟨rfl, hrest⟩
      rw [ih (fun l hl => hx l (List.mem_cons_of_mem _ hl))
        (fun l hl => hy l (List.mem_cons_of_mem _ hl)) hrest]

/-- The first dashes of a rule end at its first cross. -/
theorem ruleLine_cons (w w' : Nat) (ws : List Nat) :
    ruleLine (w :: w' :: ws) =
      List.replicate (w + 1) '-' ++ '+' :: '-' :: ruleLine (w' :: ws) := by
  have hsep : "-+-".toList = ['-', '+', '-'] := by decide +kernel
  rw [ruleLine, ruleLine, List.map_cons, List.map_cons, List.intercalate_cons_cons, hsep,
    List.replicate_succ']
  simp only [List.append_assoc, List.cons_append, List.nil_append]

/-- The rule shows the widths of the columns. -/
theorem ruleLine_inj {ws vs : List Nat} (hlength : ws.length = vs.length)
    (h : ruleLine ws = ruleLine vs) : ws = vs := by
  have hcross (w : Nat) : '+' ∉ List.replicate w '-' := by
    intro hmem
    exact absurd (List.eq_of_mem_replicate hmem) (by decide)
  induction ws generalizing vs with
  | nil => rw [List.length_nil] at hlength; exact (List.length_eq_zero_iff.mp hlength.symm).symm
  | cons w ws ih =>
    match vs, ws, hlength with
    | [v], [], _ =>
      rw [ruleLine_singleton, ruleLine_singleton, List.replicate_inj] at h
      rw [h.1]
    | v :: v' :: vs, w' :: ws, hlength =>
      rw [ruleLine_cons, ruleLine_cons] at h
      rcases append_cons_inj (hcross _) (hcross _) h with ⟨hfirst, hrest⟩
      rw [List.replicate_inj] at hfirst
      rw [ih (Nat.succ.inj hlength) (List.cons.inj hrest).2, Nat.succ.inj hfirst.1]

/-- Two cells that differ in no more than the spaces at their ends. -/
def SameButSpaces (a b : Text) : Prop :=
  ∃ m n, a ++ List.replicate m ' ' = b ++ List.replicate n ' '

/-- Without the spaces at their ends such cells are equal. -/
theorem SameButSpaces.trimEnd_eq (h : SameButSpaces a b) :
    trimEnd (· = ' ') a = trimEnd (· = ' ') b := by
  have hspaces (n : Nat) : ∀ c ∈ List.replicate n ' ', decide (c = ' ') = true := by
    intro c hc
    exact decide_eq_true (List.eq_of_mem_replicate hc)
  obtain ⟨m, n, h⟩ := h
  rw [← trimEnd_append (hspaces m), h, trimEnd_append (hspaces n)]

/-- The cells of two rows that one line shows differ in no more than the spaces at their ends. -/
theorem ShowsRow.sameButSpaces (hx : ShowsRow width x line) (hy : ShowsRow width y line)
    (hlength : x.length = y.length) (ha : x[k]? = some a) (hb : y[k]? = some b) :
    SameButSpaces a b := by
  rcases Nat.lt_or_ge (k + 1) x.length with hk | hk
  · exact ⟨_, _, (hx.cell k a hk ha).symm.trans (hy.cell k b (hlength ▸ hk) hb)⟩
  · have hlast : k = x.length - 1 := by
      have hlt := (List.getElem?_eq_some_iff.mp ha).1
      omega
    have hxa := hx.last
    have hyb := hy.last
    rw [List.getLast?_eq_getElem?, ← hlast, ha] at hxa
    rw [List.getLast?_eq_getElem?, ← hlength, ← hlast, hb, ← hxa] at hyb
    exact ⟨0, 0, by rw [Option.some.inj hyb]⟩

/-- Two rows whose cells differ in no more than the spaces at their ends. -/
def SameCells (x y : Row) : Prop :=
  ∀ (k : Nat) (a b : Text), x[k]? = some a → y[k]? = some b → SameButSpaces a b

/-- Two rows with the same line have the same cells but for the spaces at their ends. -/
theorem sameCells_of_line_eq {columns : Nat} (hx : IsTableRow columns x)
    (hy : IsTableRow columns y) (hfitx : ∀ k cell, x[k]? = some cell → cell.length ≤ width k)
    (hfity : ∀ k cell, y[k]? = some cell → cell.length ≤ width k)
    (h : Row.line ((List.range columns).map width) x =
      Row.line ((List.range columns).map width) y) : SameCells x y := by
  have hshown := showsRow_line hy hfity
  rw [← h] at hshown
  intro k a b ha hb
  exact (showsRow_line hx hfitx).sameButSpaces hshown (hx.length.trans hy.length.symm) ha hb

/-- A table determines the cells of its rows up to the spaces at their ends. -/
theorem layOut_inj {columns : Nat} (hheader : IsTableRow columns header)
    (hrows : ∀ row ∈ rows, IsTableRow columns row)
    (hrows' : ∀ row ∈ rows', IsTableRow columns row)
    (h : layOut header rows = layOut header rows') : List.Forall₂ SameCells rows rows' := by
  have hlines := (tableLines_layOut hheader hrows).line
  have hlines' := (tableLines_layOut hheader hrows').line
  rw [layOut_eq hheader hrows, layOut_eq hheader hrows'] at h
  have hsame := lines_inj (fun line hline => (hlines line hline).lineFeed_notMem)
    (fun line hline => (hlines' line hline).lineFeed_notMem) h
  simp only [List.cons.injEq] at hsame
  obtain ⟨-, hrule, hbody⟩ := hsame
  have hwidths := ruleLine_inj (by simp [columnWidths]) hrule
  have hwidth : ∀ k < columns, columnWidth (header :: rows) k = columnWidth (header :: rows') k :=
    fun k hk => List.map_inj_left.mp hwidths k (List.mem_range.mpr hk)
  have hpairs : List.Forall₂ (· = ·) (rows.map (Row.line (columnWidths columns (header :: rows))))
      (rows'.map (Row.line (columnWidths columns (header :: rows)))) := by
    rw [List.forall₂_eq_eq_eq, hbody, hwidths]
  rw [List.forall₂_map_left_iff, List.forall₂_map_right_iff, List.forall₂_iff_zip] at hpairs
  rw [List.forall₂_iff_zip]
  refine ⟨hpairs.1, ?_⟩
  intro x y hxy
  obtain ⟨hx, hy⟩ := List.of_mem_zip hxy
  refine sameCells_of_line_eq (hrows x hx) (hrows' y hy)
    (fun k cell => length_le_columnWidth (List.mem_cons_of_mem _ hx)) ?_ (hpairs.2 hxy)
  -- the second table has the same columns, but only as many as its rows have cells
  intro k cell hcell
  have hk := (List.getElem?_eq_some_iff.mp hcell).1
  rw [hwidth k ((hrows' y hy).length ▸ hk)]
  exact length_le_columnWidth (List.mem_cons_of_mem _ hy) hcell

/-! ## Rows of tokens -/

/-- What the table calls a token has plain spaces only, and none at its end. -/
theorem label_plain (token : Token) :
    IsPlain token.label ∧ trimEnd (· = ' ') token.label = token.label := by
  have hfault (fault : Fault) :
      IsPlain fault.message ∧ trimEnd (· = ' ') fault.message = fault.message := by
    cases fault <;> decide +kernel
  have hcode (code : Code) :
      IsPlain code.label ∧ trimEnd (· = ' ') code.label = code.label := by
    cases code <;> decide +kernel
  unfold Token.label
  split
  · exact hfault _
  · exact hcode _

/-- A number ends with a digit. -/
theorem exists_decimal_concat (n : Nat) : ∃ text c, decimal n = text ++ [c] ∧ c.isDigit = true := by
  rcases List.eq_nil_or_concat (decimal n) with hnil | ⟨text, c, hconcat⟩
  · exact absurd hnil Nat.toDigits_ne_nil
  · rw [List.concat_eq_append] at hconcat
    exact ⟨text, c, hconcat, isDigit_of_mem_decimal (n := n) (by simp [hconcat])⟩

/-- There are no spaces to cut off a number. -/
theorem trimEnd_decimal (n : Nat) : trimEnd (· = ' ') (decimal n) = decimal n := by
  obtain ⟨text, c, hdecimal, hc⟩ := exists_decimal_concat n
  rw [hdecimal]
  refine trimEnd_concat ?_
  rw [decide_eq_false_iff_not]
  rintro rfl
  contradiction

/-- The header is a row of six columns. -/
theorem isTableRow_header : IsTableRow 6 tableHeader where
  length := rfl
  plain := by decide +kernel
  ends := ⟨tableHeader.take 5, "En".toList, 'd', by decide +kernel, rfl⟩

/-- So is the row of every token, however its lexeme ends. -/
theorem isTableRow_row (token : Token) : IsTableRow 6 token.row where
  length := rfl
  plain := by
    have hdecimal (n : Nat) : IsPlain (decimal n) := by
      intro c hc hspace
      rw [isWhiteSpace_of_isDigit (isDigit_of_mem_decimal hc)] at hspace
      contradiction
    intro cell hcell
    simp only [Token.row, List.mem_cons, List.not_mem_nil, or_false] at hcell
    rcases hcell with rfl | rfl | rfl | rfl | rfl | rfl
    · exact hdecimal _
    · exact (label_plain token).1
    · exact fun c hc => eq_space_of_mem_shownText hc
    · exact hdecimal _
    · exact hdecimal _
    · exact hdecimal _
  ends := by
    obtain ⟨text, c, hend, hc⟩ := exists_decimal_concat token.span.endColumn
    exact ⟨token.row.take 5, text, c, by rw [← hend]; rfl, isWhiteSpace_of_isDigit hc⟩

/-- Two tokens that the token table shows alike: they differ in no more than spaces at the end of
their lexemes. -/
structure Token.ShownAlike (x y : Token) : Prop where
  code : x.code = y.code
  label : x.label = y.label
  lexeme : trimEnd (· = ' ') x.lexeme = trimEnd (· = ' ') y.lexeme
  line : x.span.line = y.span.line
  startColumn : x.span.startColumn = y.span.startColumn
  endColumn : x.span.endColumn = y.span.endColumn

/-- A shown text shows the spaces behind it as what they are. -/
theorem SameButSpaces.of_shownText (h : SameButSpaces (shownText t) (shownText u)) :
    SameButSpaces t u := by
  obtain ⟨m, n, h⟩ := h
  have ht := (showsText_shownText t).append (showsText_replicate_space m)
  have hu := (showsText_shownText u).append (showsText_replicate_space n)
  exact ⟨m, n, (h ▸ ht).eq hu⟩

/-- Numbers are told apart by their cells. -/
theorem SameButSpaces.decimal_eq {m n : Nat} (h : SameButSpaces (decimal m) (decimal n)) :
    m = n := by
  have htrim := h.trimEnd_eq
  rw [trimEnd_decimal, trimEnd_decimal] at htrim
  exact decimal_injective htrim

/-- Tokens with the same cells are shown alike. -/
theorem shownAlike_of_sameCells {x y : Token} (h : SameCells x.row y.row) :
    Token.ShownAlike x y where
  code := Code.number_injective (h 0 _ _ rfl rfl).decimal_eq
  label := by
    have hlabel := (h 1 _ _ rfl rfl).trimEnd_eq
    rwa [(label_plain x).2, (label_plain y).2] at hlabel
  lexeme := (h 2 _ _ rfl rfl).of_shownText.trimEnd_eq
  line := (h 3 _ _ rfl rfl).decimal_eq
  startColumn := (h 4 _ _ rfl rfl).decimal_eq
  endColumn := (h 5 _ _ rfl rfl).decimal_eq

/-- All rows of a token table have six columns. -/
theorem isTableRow_of_mem {tokens : List Token} :
    ∀ row ∈ tokens.map Token.row, IsTableRow 6 row := by
  intro row hrow
  obtain ⟨token, -, rfl⟩ := List.mem_map.mp hrow
  exact isTableRow_row token

/-! ## What can be printed -/

/-- A pass succeeds where each of its steps does. -/
theorem mapM_eq_ok {ε α β : Type} {f : α → Except ε β} {g : α → β} {xs : List α}
    (h : ∀ x ∈ xs, f x = .ok (g x)) : xs.mapM f = .ok (xs.map g) := by
  induction xs with
  | nil => rfl
  | cons x xs ih =>
    obtain ⟨hx, hxs⟩ := List.forall_mem_cons.mp h
    rw [List.mapM_cons, hx, ih hxs]
    rfl

/-- A pass fails if a step does and no step fails in another way. -/
theorem mapM_eq_error {ε α β : Type} {f : α → Except ε β} {failure : ε} {xs : List α} {x : α}
    (h : ∀ x ∈ xs, (∃ y, f x = .ok y) ∨ f x = .error failure) (hmem : x ∈ xs)
    (hx : f x = .error failure) : xs.mapM f = .error failure := by
  induction xs with
  | nil => exact nomatch hmem
  | cons first xs ih =>
    obtain ⟨hfirst, hxs⟩ := List.forall_mem_cons.mp h
    rw [List.mapM_cons]
    rcases hfirst with ⟨y, hy⟩ | herror
    · rcases List.mem_cons.mp hmem with rfl | hmem
      · exact nomatch hy.symm.trans hx
      · rw [hy, ih hxs hmem]
        rfl
    · rw [herror]
      rfl

namespace Row

variable {widths : List Nat} {row : Row}

/-- A cell is padded or is in a column that is too wide. -/
theorem padding_cases (width : Nat) (cell : Text) :
    (∃ padded, padding width cell = .ok padded) ∨
      padding width cell = .error .columnTooWide := by
  rw [padding]
  split
  · exact .inl ⟨_, rfl⟩
  · exact .inr rfl

/-- The line of a row is printed if all of its columns can be padded. -/
theorem print_of_le (h : ∀ width ∈ widths, width ≤ widestPadding) :
    row.print widths = .ok (row.line widths) := by
  have hcells : ((widths.zip row).mapM fun column => padding column.1 column.2) =
      .ok ((widths.zip row).map (Function.uncurry pad)) := by
    apply mapM_eq_ok
    intro column hmem
    exact if_pos (h column.1 (List.of_mem_zip hmem).1)
  rw [print, hcells, List.map_uncurry_zip_eq_zipWith]
  rfl

/-- A column that is too wide for padding ends the printing of a row. -/
theorem print_of_lt (hlength : row.length = widths.length) {width : Nat} (hmem : width ∈ widths)
    (hwide : widestPadding < width) : row.print widths = .error .columnTooWide := by
  rw [← List.map_fst_zip hlength.ge] at hmem
  obtain ⟨column, hcolumn, rfl⟩ := List.mem_map.mp hmem
  have hcells : ((widths.zip row).mapM fun column => padding column.1 column.2) =
      .error .columnTooWide :=
    mapM_eq_error (fun column _ => padding_cases column.1 column.2) hcolumn
      (if_neg (Nat.not_le_of_lt hwide))
  rw [print, hcells]
  rfl

end Row

/-- Every cell of the token table can be padded. -/
def FitsTable (tokens : List Token) : Prop :=
  ∀ token ∈ tokens, ∀ cell ∈ token.row, cell.length ≤ widestPadding

instance (tokens : List Token) : Decidable (FitsTable tokens) :=
  inferInstanceAs (Decidable (∀ token ∈ tokens, ∀ cell ∈ token.row, _))

/-- No column is wider than a bound exactly if no cell is. -/
theorem columnWidths_le_iff {columns bound : Nat} {rows : List Row}
    (hrows : ∀ row ∈ rows, row.length = columns) :
    (∀ width ∈ columnWidths columns rows, width ≤ bound) ↔
      ∀ row ∈ rows, ∀ cell ∈ row, cell.length ≤ bound := by
  constructor
  · intro h row hrow cell hcell
    obtain ⟨k, hk, rfl⟩ := List.mem_iff_getElem.mp hcell
    have hwidth : columnWidth rows k ∈ columnWidths columns rows :=
      List.mem_map_of_mem (List.mem_range.mpr (hrows row hrow ▸ hk))
    exact (length_le_columnWidth hrow (List.getElem?_eq_getElem hk)).trans (h _ hwidth)
  · intro h width hwidth
    obtain ⟨k, -, rfl⟩ := List.mem_map.mp hwidth
    rw [columnWidth]
    cases hmax : (rows.map fun row => (row[k]?.getD []).length).max? with
    | none => exact Nat.zero_le bound
    | some longest =>
      obtain ⟨row, hrow, rfl⟩ := List.mem_map.mp (List.max?_mem hmax)
      rw [Option.getD_some]
      cases hcell : row[k]? with
      | none => exact Nat.zero_le bound
      | some cell => exact h row hrow cell (List.mem_of_getElem? hcell)

/-- The header can always be padded. -/
theorem header_le : ∀ cell ∈ tableHeader, cell.length ≤ widestPadding := by decide

/-- Every row has a cell for each column of the header. -/
theorem length_of_mem_rows {tokens : List Token} :
    ∀ row ∈ tokens.map Token.row, row.length = tableHeader.length :=
  fun row hrow => (isTableRow_of_mem row hrow).length

/-- The columns of the token table can be padded exactly if its cells can. -/
theorem widths_le_iff (tokens : List Token) :
    (∀ width ∈ (tokens.map Token.row).foldl Row.widen (tableHeader.map List.length),
      width ≤ widestPadding) ↔ FitsTable tokens := by
  have hrows : ∀ row ∈ tableHeader :: tokens.map Token.row, row.length = tableHeader.length :=
    List.forall_mem_cons.mpr ⟨rfl, length_of_mem_rows⟩
  rw [foldl_widen length_of_mem_rows, columnWidths_le_iff hrows, List.forall_mem_cons,
    List.forall_mem_map, and_iff_right header_le]
  rfl

/-- The token table is printed if all of its cells can be padded. -/
theorem printTable_of_fits {tokens : List Token} (h : FitsTable tokens) :
    printTable tokens = .ok (tokenTable tokens) := by
  have hwidths := (widths_le_iff tokens).mpr h
  rw [printTable]
  simp only [Row.print_of_le hwidths]
  rw [mapM_eq_ok fun row _ => Row.print_of_le hwidths]
  rfl

/-- A cell that is too wide ends the printing with the header. -/
theorem printTable_of_not_fits {tokens : List Token} (h : ¬ FitsTable tokens) :
    printTable tokens = .error .columnTooWide := by
  rw [← widths_le_iff] at h
  push Not at h
  obtain ⟨width, hmem, hwide⟩ := h
  have hlength : tableHeader.length =
      ((tokens.map Token.row).foldl Row.widen (tableHeader.map List.length)).length := by
    rw [foldl_widen length_of_mem_rows, columnWidths, List.length_map, List.length_range]
  rw [printTable]
  simp only [Row.print_of_lt hlength hmem hwide]
  rfl

/-! ## The token table -/

/-- The token table has a line for its header, one for its rule and one for each token, and they
are set in columns.  Two lists of tokens with the same table are alike in all that it shows of
them.  The table is what is printed wherever its cells can be padded. -/
theorem tokenTable_aligned_and_faithful :
    (∀ tokens, ∃ top rule body,
      tokenTable tokens = (top :: rule :: body).flatMap (· ++ ['\n']) ∧
      (top :: rule :: body).length = 2 + tokens.length ∧
      TableLines tableHeader (tokens.map Token.row) top rule body) ∧
    (∀ xs ys, tokenTable xs = tokenTable ys → List.Forall₂ Token.ShownAlike xs ys) ∧
    ∀ tokens, FitsTable tokens → printTable tokens = .ok (tokenTable tokens) := by
  refine ⟨?_, ?_, fun tokens => printTable_of_fits⟩
  · intro tokens
    refine ⟨_, _, _, layOut_eq isTableRow_header isTableRow_of_mem, ?_,
      tableLines_layOut isTableRow_header isTableRow_of_mem⟩
    simp only [List.length_cons, List.length_map]
    omega
  · intro xs ys h
    have hcells := layOut_inj isTableRow_header isTableRow_of_mem isTableRow_of_mem h
    rw [List.forall₂_map_left_iff, List.forall₂_map_right_iff] at hcells
    exact hcells.imp fun x y => shownAlike_of_sameCells

/-- Spaces at the end of a lexeme look like those that fill its column. -/
example : tokenTable [.sound .identifier "a".toList ⟨1, 1, 1⟩] =
    tokenTable [.sound .identifier "a ".toList ⟨1, 1, 1⟩] := by
  decide +kernel

end TypedList
