import Mathlib.Order.Bounds.Basic
import TypedList.Proofs.Order
import TypedList.Proofs.Runs

/-!
# Where a check goes on

The search for a synchronization character stays in its text, never goes back, passes over no
character that it looks for, and ends at one of these or at the end of the text.  So it ends at the
first place where the check may go on, and what it finds is ordered as these places are.

Main results:

- Theorems `le_syncPosition` and `syncPosition_le_length`: the search goes forward, to the end of
  the text at the furthest.
- Theorems `notMem_of_lt_syncPosition` and `mem_of_syncPosition_lt`: it passes over no
  synchronization character, and ends before the end of the text only at one.
- Theorem `Cursor.InText.synchronize`: a cursor in a text goes on where this search ends.
- Theorem `syncPosition_le_of_subset`: with more places to go on at, the search ends no later.
- Theorem `syncPosition_append`: behind a text in which it finds nothing, the search goes on in the
  next one.
- Theorem `syncPosition_earliest`: the search from any position ends at the first place where the
  check may go on, with what follows from this for repeated, later and wider searches.
-/

namespace TypedList

/-! ## Cursors in a text -/

namespace Cursor

/-- The cursor stands in a text, at its end at the furthest. -/
structure InText (t : Text) (c : Cursor) : Prop where
  offset_le : c.offset ≤ t.length
  rest_eq : c.rest = t.drop c.offset

variable {t : Text} {c d : Cursor}

/-- The cursor at the start stands in its text. -/
theorem inText_start (t : Text) : (start t).InText t :=
  ⟨Nat.zero_le _, rfl⟩

/-- A cursor ahead of one in a text stands in the same text. -/
theorem InText.ahead (hc : c.InText t) (h : c.Ahead d) : d.InText t := by
  obtain ⟨passed, hrest, hoffset⟩ := h
  have hdrop : t.drop c.offset = passed ++ d.rest := by rw [← hc.rest_eq, hrest]
  constructor
  · have hlength := congrArg List.length hdrop
    rw [List.length_drop, List.length_append] at hlength
    have hle := hc.offset_le
    omega
  · rw [hoffset, ← List.drop_drop, hdrop, List.drop_left]

/-- Where nothing is left, the text ends. -/
theorem InText.offset_eq_length (hc : c.InText t) (hrest : c.rest = []) : c.offset = t.length := by
  have hdrop : t.drop c.offset = [] := by rw [← hc.rest_eq, hrest]
  exact Nat.le_antisymm hc.offset_le (List.drop_eq_nil_iff.mp hdrop)

/-- A cursor in a text goes on where the search from its position ends. -/
theorem InText.synchronize (hc : c.InText t) (chars : SyncChars) :
    (c.synchronize chars).offset = syncPosition t c.offset chars := by
  obtain ⟨offset, rest⟩ := c
  obtain rfl : rest = t.drop offset := hc.rest_eq
  rw [syncPosition, ofPosition, Nat.min_eq_left hc.offset_le]

end Cursor

/-! ## The search for a synchronization character -/

variable {t : Text} {position k : Nat} {chars : SyncChars}

/-- The text from the position on, up to where the search ends and from there on.  Behind the end
of the text both parts are empty, and the search ends at the end. -/
theorem exists_drop_eq (t : Text) (position : Nat) (chars : SyncChars) : ∃ passed left : Text,
    t.drop position = passed ++ left ∧ (∀ c ∈ passed, c ∉ chars) ∧ Stops (· ∉ chars) left ∧
      syncPosition t position chars = min position t.length + passed.length := by
  refine ⟨(t.drop position).takeWhile (· ∉ chars), (t.drop position).dropWhile (· ∉ chars),
    List.takeWhile_append_dropWhile.symm, ?_, stops_dropWhile _ _, rfl⟩
  intro c hc
  simpa using List.mem_takeWhile_imp hc

/-- The search never goes back. -/
theorem le_syncPosition (h : position ≤ t.length) : position ≤ syncPosition t position chars := by
  obtain ⟨passed, left, -, -, -, hsync⟩ := exists_drop_eq t position chars
  omega

/-- The search ends in the text. -/
theorem syncPosition_le_length : syncPosition t position chars ≤ t.length := by
  obtain ⟨passed, left, hdrop, -, -, hsync⟩ := exists_drop_eq t position chars
  have hlength := congrArg List.length hdrop
  rw [List.length_drop, List.length_append] at hlength
  omega

/-- The search passes over no character that it looks for. -/
theorem notMem_of_lt_syncPosition (hle : position ≤ k)
    (hlt : k < syncPosition t position chars) : ∀ c ∈ t[k]?, c ∉ chars := by
  obtain ⟨passed, left, hdrop, hpassed, -, hsync⟩ := exists_drop_eq t position chars
  obtain ⟨j, rfl⟩ := Nat.exists_eq_add_of_le hle
  intro c hc
  rw [← List.getElem?_drop, hdrop, List.getElem?_append_left (by omega)] at hc
  exact hpassed c (List.mem_of_getElem? hc)

/-- Where the search ends before the end of the text, it has found what it looks for. -/
theorem mem_of_syncPosition_lt (hlt : syncPosition t position chars < t.length) :
    ∃ c ∈ chars, t[syncPosition t position chars]? = some c := by
  obtain ⟨passed, left, hdrop, -, hstops, hsync⟩ := exists_drop_eq t position chars
  have hlength := congrArg List.length hdrop
  rw [List.length_drop, List.length_append] at hlength
  rcases left with - | ⟨c, left⟩
  · rw [List.length_nil] at hlength
    omega
  · refine ⟨c, by simpa using hstops, ?_⟩
    rw [hsync, Nat.min_eq_left (by omega), ← List.getElem?_drop, hdrop,
      List.getElem?_append_right le_rfl, Nat.sub_self]
    rfl

/-! ## The places where a check may go on -/

/-- The places of a text, from a position on, that hold a synchronization character. -/
def syncPlaces (t : Text) (position : Nat) (chars : SyncChars) : Set Nat :=
  {k | position ≤ k ∧ ∃ h : k < t.length, t[k] ∈ chars}

/-- The search passes over no place where the check may go on. -/
theorem syncPosition_le_of_mem (h : k ∈ syncPlaces t position chars) :
    syncPosition t position chars ≤ k := by
  obtain ⟨hle, hlt, hmem⟩ := h
  by_contra hpassed
  exact notMem_of_lt_syncPosition hle (by omega) t[k] (List.getElem?_eq_getElem hlt) hmem

/-- Where the search ends before the end of the text, the check may go on. -/
theorem syncPosition_mem_syncPlaces (hlt : syncPosition t position chars < t.length) :
    syncPosition t position chars ∈ syncPlaces t position chars := by
  -- From behind the end of the text the search would have ended at the end.
  have hposition : position ≤ t.length := by
    obtain ⟨passed, left, -, -, -, hsync⟩ := exists_drop_eq t position chars
    omega
  obtain ⟨c, hc, hget⟩ := mem_of_syncPosition_lt hlt
  obtain ⟨h, rfl⟩ := List.getElem?_eq_some_iff.mp hget
  exact ⟨le_syncPosition hposition, h, hc⟩

/-- The search ends at the first place where the check may go on, or at the end of the text if
there is none. -/
theorem isLeast_syncPosition_or (t : Text) (position : Nat) (chars : SyncChars) :
    IsLeast (syncPlaces t position chars) (syncPosition t position chars) ∨
      syncPlaces t position chars = ∅ ∧ syncPosition t position chars = t.length := by
  have hle : syncPosition t position chars ≤ t.length := syncPosition_le_length
  rcases hle.lt_or_eq with hlt | hend
  · exact .inl ⟨syncPosition_mem_syncPlaces hlt, fun k hk => syncPosition_le_of_mem hk⟩
  · refine .inr ⟨Set.eq_empty_of_forall_notMem ?_, hend⟩
    intro k hk
    have hbound := syncPosition_le_of_mem hk
    obtain ⟨-, hlt, -⟩ := hk
    omega

/-- With more places to go on at, the search ends no later. -/
theorem syncPosition_le_of_subset {position' : Nat} {chars' : SyncChars}
    (h : syncPlaces t position' chars' ⊆ syncPlaces t position chars) :
    syncPosition t position chars ≤ syncPosition t position' chars' := by
  have hle : syncPosition t position' chars' ≤ t.length := syncPosition_le_length
  rcases hle.lt_or_eq with hlt | hend
  · exact syncPosition_le_of_mem (h (syncPosition_mem_syncPlaces hlt))
  · exact syncPosition_le_length.trans_eq hend.symm

/-- A search from where a search has ended stays there. -/
theorem syncPosition_syncPosition (t : Text) (position : Nat) (chars : SyncChars) :
    syncPosition t (syncPosition t position chars) chars = syncPosition t position chars := by
  have hplaces : syncPlaces t position chars ⊆
      syncPlaces t (syncPosition t position chars) chars := by
    intro k hk
    exact ⟨syncPosition_le_of_mem hk, hk.2⟩
  exact le_antisymm (syncPosition_le_of_subset hplaces) (le_syncPosition syncPosition_le_length)

/-- From further right there are no more places. -/
theorem syncPlaces_subset_of_le {later : Nat} (h : position ≤ later) :
    syncPlaces t later chars ⊆ syncPlaces t position chars := by
  rintro k ⟨hk, hmem⟩
  exact ⟨h.trans hk, hmem⟩

/-- More characters make no fewer places. -/
theorem syncPlaces_subset_of_subset {more : SyncChars} (h : chars ⊆ more) :
    syncPlaces t position chars ⊆ syncPlaces t position more := by
  rintro k ⟨hk, hlt, hmem⟩
  exact ⟨hk, hlt, h hmem⟩

/-! ## Two texts one behind the other -/

/-- The search passes over what does not let the check go on. -/
theorem syncPosition_eq_add (h : position ≤ t.length) : syncPosition t position chars =
    position + ((t.drop position).takeWhile (· ∉ chars)).length := by
  rw [syncPosition, Cursor.ofPosition, Nat.min_eq_left h]
  rfl

/-- From a position in the first of two texts, the search ends where it does in that text alone.
If it finds nothing there, it ends where the search of the second text does. -/
theorem syncPosition_append (h : position ≤ t.length) (u : Text) :
    syncPosition (t ++ u) position chars =
      if syncPosition t position chars < t.length then syncPosition t position chars
      else t.length + syncPosition u 0 chars := by
  have hboth : position ≤ (t ++ u).length := by
    rw [List.length_append]
    omega
  have hleft : (t.drop position).length = t.length - position := List.length_drop
  have hle : syncPosition t position chars ≤ t.length := syncPosition_le_length
  rw [syncPosition_eq_add hboth, List.drop_append_of_le_length h, List.takeWhile_append,
    syncPosition_eq_add (Nat.zero_le u.length), List.drop_zero]
  rw [syncPosition_eq_add h] at hle ⊢
  -- The rest of the first text is passed over as a whole exactly if nothing is found in it.
  split
  · rw [if_neg (by omega), List.length_append]
    omega
  · rw [if_pos (by omega)]

/-! ## The search as a whole -/

/-- From every position, also behind the end of the text, the search ends at the first place where
the check may go on, or at the end of the text if there is none.  So it stays where it has ended, a
later start does not make it end earlier, and more characters to look for do not make it end later.
Behind a text in which it finds nothing, it goes on in the next one. -/
theorem syncPosition_earliest (t : Text) (position : Nat) (chars : SyncChars) :
    (IsLeast (syncPlaces t position chars) (syncPosition t position chars) ∨
      syncPlaces t position chars = ∅ ∧ syncPosition t position chars = t.length) ∧
    syncPosition t (syncPosition t position chars) chars = syncPosition t position chars ∧
    (∀ later, position ≤ later →
      syncPosition t position chars ≤ syncPosition t later chars) ∧
    (∀ more : SyncChars, chars ⊆ more →
      syncPosition t position more ≤ syncPosition t position chars) ∧
    (position ≤ t.length → ∀ u : Text, syncPosition (t ++ u) position chars =
      if syncPosition t position chars < t.length then syncPosition t position chars
      else t.length + syncPosition u 0 chars) := by
  refine ⟨isLeast_syncPosition_or t position chars, syncPosition_syncPosition t position chars,
    ?_, ?_, ?_⟩
  · intro later hlater
    exact syncPosition_le_of_subset (syncPlaces_subset_of_le hlater)
  · intro more hmore
    exact syncPosition_le_of_subset (syncPlaces_subset_of_subset hmore)
  · intro hposition u
    exact syncPosition_append hposition u

/-- A text without a closing bracket, in front of one that has a closing bracket. -/
theorem syncPosition_earliest_next_text :
    let t := "1,-".toList
    let closing := GrammarPoint.openList.syncChars
    let element := GrammarPoint.element.syncChars
    1 ≤ 7 ∧ syncPosition t 1 closing ≤ syncPosition t 7 closing ∧
      closing ⊆ element ∧ syncPosition t 1 element ≤ syncPosition t 1 closing ∧
      1 ≤ t.length ∧ syncPosition (t ++ "a];".toList) 1 closing = 4 := by
  intro t closing element
  obtain ⟨-, -, hlater, hmore, happend⟩ := syncPosition_earliest t 1 closing
  have hmember : closing ⊆ element := by decide
  exact ⟨by decide, hlater 7 (by decide), hmember, hmore element hmember, by decide,
    (happend (by decide) _).trans (by decide)⟩

end TypedList
