import ComponentServer.Proofs.Text.LineIndex

/-!
# Offsets and positions

Walking a text gives the position of every boundary, and the walk to a position gives that boundary
back. The proof splits what stands in front of the boundary behind its last newline: the newlines
lead to the line, the rest leads along it.
-/

namespace ComponentServer.Text

theorem positionAt_append (before after : Text) :
    positionAt (before ++ after) (size before) = reach before := by
  rw [positionAt_eq_reach, takeBytes_append_size]

theorem StandsAt.positionAt_eq {text part : Text} {start : Nat} (h : StandsAt text start part) :
    ∃ before after, text = before ++ part ++ after ∧ size before = start ∧
      positionAt text start = reach before := by
  obtain ⟨before, after, rfl, rfl⟩ := h
  exact ⟨before, after, rfl, rfl, by rw [List.append_assoc, positionAt_append]⟩

/-! ### The walk back -/

theorem offsetInLine_append {part : Text} (hpart : '\n' ∉ part) (after : Text) :
    offsetInLine (part ++ after) (width part) = size part := by
  induction part with
  | nil => cases after <;> rfl
  | cons c rest ih =>
    simp only [List.mem_cons, not_or] at hpart
    have hpos := units16_pos c
    rw [List.cons_append, offsetInLine_cons (by rw [width_cons]; omega),
      if_neg (Ne.symm hpart.1), width_cons, Nat.add_sub_cancel_left, ih hpart.2, size_cons]

theorem offsetAt?_reach (before after : Text) :
    offsetAt? (before ++ after) (reach before) = some (size before) := by
  obtain ⟨lines, last, rfl, hlast, hlines⟩ := exists_lastLine before
  rw [reach_lines_append hlast hlines, offsetAt?_eq, List.append_assoc,
    lineStart?_lines_append hlines, Option.map_some, dropBytes_append_size,
    offsetInLine_append hlast, size_append]

theorem isBoundary_offsetInLine (text : Text) (column : Nat) :
    IsBoundary text (offsetInLine text column) := by
  induction text generalizing column with
  | nil => exact ⟨[], [], rfl, by cases column <;> rfl⟩
  | cons c rest ih =>
    by_cases hcolumn : column = 0
    · subst hcolumn
      exact isBoundary_zero _
    · rw [offsetInLine_cons hcolumn]
      split
      · exact isBoundary_zero _
      · obtain ⟨before, after, hrest, hsize⟩ := ih (column - units16 c)
        exact ⟨c :: before, after, by rw [hrest]; rfl, by rw [size_cons, hsize]⟩

theorem isBoundary_lineStart? {text : Text} {line start : Nat}
    (h : lineStart? text line = some start) : IsBoundary text start := by
  induction text generalizing line start with
  | nil =>
    cases line with
    | zero =>
      rw [lineStart?_zero, Option.some.injEq] at h
      exact h ▸ isBoundary_zero _
    | succ line =>
      rw [lineStart?_nil_succ] at h
      cases h
  | cons c rest ih =>
    cases line with
    | zero =>
      rw [lineStart?_zero, Option.some.injEq] at h
      exact h ▸ isBoundary_zero _
    | succ line =>
      rw [lineStart?_cons_succ] at h
      obtain ⟨inner, hinner, rfl⟩ := Option.map_eq_some_iff.mp h
      obtain ⟨before, after, hrest, hsize⟩ := ih hinner
      exact ⟨c :: before, after, by rw [hrest]; rfl, by rw [size_cons, hsize]⟩

/-- Whatever position is asked for, the offset that answers is a boundary. -/
theorem isBoundary_offsetAt? {text : Text} {position : Position} {offset : Nat}
    (h : offsetAt? text position = some offset) : IsBoundary text offset := by
  rw [offsetAt?_eq] at h
  obtain ⟨start, hstart, rfl⟩ := Option.map_eq_some_iff.mp h
  obtain ⟨before, after, rfl, rfl⟩ := isBoundary_lineStart? hstart
  rw [dropBytes_append_size]
  obtain ⟨inner, outer, hafter, hsize⟩ := isBoundary_offsetInLine after position.column
  rw [← hsize]
  exact ⟨before ++ inner, outer, by rw [hafter, List.append_assoc], size_append before inner⟩

/-! ### Texts whose positions fit a word -/

/-- Fewer than 2^32 lines, each of fewer than 2^32 columns. -/
def Addressable (text : Text) : Prop :=
  lineCount text < 2 ^ 32 ∧ ∀ line ∈ splitAt '\n' text, width line < 2 ^ 32

theorem addressable_iff {text : Text} :
    Addressable text ↔
      text.count '\n' + 1 < 2 ^ 32 ∧ ∀ line ∈ splitAt '\n' text, width line < 2 ^ 32 := by
  rw [Addressable, lineCount_eq]

instance (text : Text) : Decidable (Addressable text) := decidable_of_iff _ addressable_iff.symm

theorem splitAt_ne_nil (mark : Char) (text : Text) : splitAt mark text ≠ [] := by
  cases text with
  | nil => simp [splitAt]
  | cons c rest =>
    simp only [splitAt]
    split
    · simp
    · split <;> simp

theorem splitAt_append_mark (mark : Char) (front after : Text) :
    splitAt mark (front ++ mark :: after) = splitAt mark front ++ splitAt mark after := by
  induction front with
  | nil => simp [splitAt]
  | cons c rest ih =>
    by_cases hc : c = mark
    · simp [splitAt, hc, ih]
    · obtain ⟨line, others, hsplit⟩ := List.exists_cons_of_ne_nil (splitAt_ne_nil mark rest)
      simp [splitAt, hc, ih, hsplit]

theorem splitAt_append_of_notMem {mark : Char} {part : Text} (hpart : mark ∉ part)
    (after : Text) :
    ∃ line others, splitAt mark after = line :: others ∧
      splitAt mark (part ++ after) = (part ++ line) :: others := by
  obtain ⟨line, others, hsplit⟩ := List.exists_cons_of_ne_nil (splitAt_ne_nil mark after)
  refine ⟨line, others, hsplit, ?_⟩
  induction part with
  | nil => simpa using hsplit
  | cons c rest ih =>
    simp only [List.mem_cons, not_or] at hpart
    simp [splitAt, Ne.symm hpart.1, ih hpart.2]

theorem Addressable.reach_lt {before after : Text} (h : Addressable (before ++ after)) :
    (reach before).line < 2 ^ 32 ∧ (reach before).column < 2 ^ 32 := by
  obtain ⟨hcount, hwidth⟩ := addressable_iff.mp h
  obtain ⟨lines, last, rfl, hlast, hlines⟩ := exists_lastLine before
  rw [reach_lines_append hlast hlines]
  constructor
  · simp only [List.count_append] at hcount ⊢
    omega
  · obtain ⟨line, others, hsplit, hjoined⟩ := splitAt_append_of_notMem hlast after
    have hmem : last ++ line ∈ splitAt '\n' (lines ++ last ++ after) := by
      rcases hlines with rfl | ⟨front, rfl⟩
      · simp [hjoined]
      · have : front ++ ['\n'] ++ last ++ after = front ++ '\n' :: (last ++ after) := by simp
        rw [this, splitAt_append_mark, hjoined]
        simp
    have hlt := hwidth _ hmem
    rw [width_append] at hlt
    exact Nat.lt_of_le_of_lt (Nat.le_add_right _ _) hlt

end ComponentServer.Text
