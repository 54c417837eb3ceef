import ComponentServer.Proofs.Text.Place

/-!
# The order of positions

A later position never has an earlier offset. Along one line this needs no more than that a column
passes over the characters in front of it, although columns inside a surrogate pair and behind the
end of the line share an offset. From one line to the next, the newline in between makes it strict.
-/

namespace ComponentServer

namespace Position

theorem before_eq_false {left right : Position} : right.before left = false ↔
    left.line < right.line ∨ left.line = right.line ∧ left.column ≤ right.column := by
  simp only [before, Bool.or_eq_false_iff, Bool.and_eq_false_iff, decide_eq_false_iff_not,
    beq_eq_false_iff_ne]
  omega

theorem before_eq_false_trans {first second third : Position} (h : second.before first = false)
    (h' : third.before second = false) : third.before first = false := by
  rw [before_eq_false] at *
  omega

end Position

namespace Text

theorem offsetInLine_mono (text : Text) {column column' : Nat} (h : column ≤ column') :
    offsetInLine text column ≤ offsetInLine text column' := by
  induction text generalizing column column' with
  | nil => cases column <;> cases column' <;> exact Nat.le_refl _
  | cons c rest ih =>
    by_cases hzero : column = 0
    · rw [hzero, offsetInLine_zero]
      exact Nat.zero_le _
    · have hzero' : column' ≠ 0 := by omega
      rw [offsetInLine_cons hzero, offsetInLine_cons hzero']
      split
      · exact Nat.le_refl _
      · have hle : column - units16 c ≤ column' - units16 c := by omega
        exact Nat.add_le_add_left (ih hle) _

theorem offsetInLine_cons_le (c : Char) (rest : Text) (column : Nat) :
    offsetInLine (c :: rest) column ≤ c.utf8Size + offsetInLine rest (column - units16 c) := by
  by_cases hzero : column = 0
  · rw [hzero, offsetInLine_zero]
    exact Nat.zero_le _
  · rw [offsetInLine_cons hzero]
    split
    · exact Nat.zero_le _
    · exact Nat.le_refl _

/-- A later line starts behind its newline, a character further along. -/
theorem lineStart?_cons_eq_some {c : Char} {rest : Text} {line start : Nat} :
    lineStart? (c :: rest) (line + 1) = some start ↔
      ∃ inner, lineStart? rest (if c = '\n' then line else line + 1) = some inner ∧
        c.utf8Size + inner = start := by
  rw [lineStart?_cons_succ]
  exact Option.map_eq_some_iff

/-- No column of a line reaches the start of a later line. -/
theorem offsetInLine_lt_lineStart? {text : Text} {line line' start start' : Nat}
    (hline : line < line') (hstart : lineStart? text line = some start)
    (hstart' : lineStart? text line' = some start') (column : Nat) :
    start + offsetInLine (dropBytes start text) column < start' := by
  induction text generalizing line line' start start' column with
  | nil =>
    obtain ⟨line', rfl⟩ := Nat.exists_eq_succ_of_ne_zero (Nat.ne_of_gt (Nat.zero_lt_of_lt hline))
    rw [lineStart?_nil_succ] at hstart'
    cases hstart'
  | cons c rest ih =>
    obtain ⟨line', rfl⟩ := Nat.exists_eq_succ_of_ne_zero (Nat.ne_of_gt (Nat.zero_lt_of_lt hline))
    obtain ⟨inner', hinner', rfl⟩ := lineStart?_cons_eq_some.mp hstart'
    have hpos := c.utf8Size_pos
    cases line with
    | zero =>
      rw [lineStart?_zero, Option.some.injEq] at hstart
      subst hstart
      rw [dropBytes_zero, Nat.zero_add]
      by_cases hc : c = '\n'
      · have hnone : offsetInLine (c :: rest) column = 0 := by
          by_cases hzero : column = 0
          · rw [hzero, offsetInLine_zero]
          · rw [offsetInLine_cons hzero, if_pos hc]
        omega
      · rw [if_neg hc] at hinner'
        have hrest := ih (Nat.succ_pos _) (lineStart?_zero rest) hinner' (column - units16 c)
        rw [dropBytes_zero, Nat.zero_add] at hrest
        have hle := offsetInLine_cons_le c rest column
        omega
    | succ line =>
      obtain ⟨inner, hinner, rfl⟩ := lineStart?_cons_eq_some.mp hstart
      have hdrop : dropBytes (c.utf8Size + inner) (c :: rest) = dropBytes inner rest := by
        rw [dropBytes_cons (by omega), Nat.add_sub_cancel_left]
      have hrest : inner + offsetInLine (dropBytes inner rest) column < inner' := by
        apply ih _ hinner hinner'
        split <;> omega
      rw [hdrop]
      omega

theorem offsetAt?_mono {text : Text} {earlier later : Position} {offset offset' : Nat}
    (h : later.before earlier = false) (hoffset : offsetAt? text earlier = some offset)
    (hoffset' : offsetAt? text later = some offset') : offset ≤ offset' := by
  rw [offsetAt?_eq] at hoffset hoffset'
  obtain ⟨start, hstart, rfl⟩ := Option.map_eq_some_iff.mp hoffset
  obtain ⟨start', hstart', rfl⟩ := Option.map_eq_some_iff.mp hoffset'
  rcases Position.before_eq_false.mp h with hline | ⟨hline, hcolumn⟩
  · have hlt := offsetInLine_lt_lineStart? hline hstart hstart' earlier.column
    omega
  · rw [hline, hstart', Option.some.injEq] at hstart
    subst hstart
    exact Nat.add_le_add_left (offsetInLine_mono _ hcolumn) _

end Text

end ComponentServer
