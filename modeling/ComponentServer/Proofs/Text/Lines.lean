import ComponentServer.Proofs.Text.Order

/-!
# Offsets and positions in step

A line is cut out of the text by the newlines around it, and the column of a boundary on it is the
width of what stands between. Along the boundaries of a text offsets and positions grow together and
lead to each other. Any other position leads to the next boundary of its line, or to the end of the
line in front of the newline. An offset inside a character is no boundary, and it is counted behind
that character, not at it.
-/

namespace ComponentServer.Text

/-! ### Lines -/

/-- The line of the number stands there, its newline not included. -/
def IsLine (text : Text) (number : Nat) (span : Span) : Prop :=
  ∃ before line after, CutsLine text number before line after ∧
    span = ⟨size before, size before + size line⟩

theorem offsetAt?_eq_none_iff {text : Text} {position : Position} :
    offsetAt? text position = none ↔ lineCount text ≤ position.line := by
  rw [offsetAt?_eq, Option.map_eq_none_iff, lineStart?_eq_none_iff]

/-! ### Along a line -/

/-- The walk along a line passes over just the characters that the column needs. -/
theorem exists_offsetInLine {line after : Text} (hline : '\n' ∉ line)
    (hafter : after = [] ∨ ∃ rest, after = '\n' :: rest) (column : Nat) :
    ∃ part rest, line = part ++ rest ∧ offsetInLine (line ++ after) column = size part ∧
      (∀ front, front <+: part → front ≠ part → width front < column) ∧
      (rest ≠ [] → column ≤ width part) := by
  induction line generalizing column with
  | nil =>
    refine ⟨[], [], rfl, ?_, ?_, by simp⟩
    · rcases hafter with rfl | ⟨rest, rfl⟩
      · cases column <;> rfl
      · cases column <;> rfl
    · intro front hfront hne
      exact absurd (List.prefix_nil.mp hfront) hne
  | cons c line ih =>
    simp only [List.mem_cons, not_or] at hline
    by_cases hcolumn : column = 0
    · refine ⟨[], c :: line, rfl, by rw [hcolumn, offsetInLine_zero, size_nil], ?_, ?_⟩
      · intro front hfront hne
        exact absurd (List.prefix_nil.mp hfront) hne
      · exact fun _ => by rw [hcolumn]; exact Nat.zero_le _
    · obtain ⟨part, rest, rfl, hoffset, hbefore, hreached⟩ := ih hline.2 (column - units16 c)
      refine ⟨c :: part, rest, rfl, ?_, ?_, ?_⟩
      · rw [List.cons_append, offsetInLine_cons hcolumn, if_neg (Ne.symm hline.1), hoffset,
          size_cons]
      · intro front hfront hne
        rcases List.prefix_cons_iff.mp hfront with rfl | ⟨inner, rfl, hinner⟩
        · rw [width_nil]
          omega
        · have hlt := hbefore inner hinner (fun heq => hne (by rw [heq]))
          rw [width_cons]
          omega
      · intro hne
        have hle := hreached hne
        rw [width_cons]
        omega

namespace CutsLine

variable {text before line after : Text} {number : Nat}

/-- The boundaries of a line are the ends of the beginnings of that line. -/
theorem exists_prefix (h : CutsLine text number before line after) {place : Nat}
    (hplace : IsBoundary text place) (hstart : size before ≤ place)
    (hstop : place ≤ size before + size line) :
    ∃ front, front <+: line ∧ place = size before + size front ∧
      text.slice ⟨size before, place⟩ = front := by
  obtain ⟨left, right, htext, rfl⟩ := hplace
  have hcut := h.text_eq
  rw [List.append_assoc] at hcut
  obtain ⟨front, rfl, hfollowing⟩ :=
    exists_between_of_size_le (hcut.symm.trans htext) (by simpa using hstart)
  rw [size_append] at hstop ⊢
  obtain ⟨back, rfl, -⟩ := exists_between_of_size_le hfollowing.symm (by omega)
  have hstands : StandsAt text (size before) front :=
    ⟨before, back ++ after, by simpa using h.text_eq, rfl⟩
  exact ⟨front, List.prefix_append _ _, rfl, hstands.slice_eq⟩

theorem positionAt_eq (h : CutsLine text number before line after) {front : Text}
    (hfront : front <+: line) :
    positionAt text (size before + size front) = ⟨number, width front⟩ := by
  obtain ⟨back, rfl⟩ := hfront
  have hinside : '\n' ∉ front := fun hmem => h.inside (List.mem_append_left _ hmem)
  have hcut : text = before ++ front ++ (back ++ after) := by simpa using h.text_eq
  rw [hcut, ← size_append, positionAt_append, reach_lines_append hinside h.whole, h.number_eq]

end CutsLine

/-! ### Both ways -/

/-- The boundaries of a line with at least `column` units of the line in front of them. -/
def placesFrom (text : Text) (line : Span) (column : Nat) : Set Nat :=
  {place | IsBoundary text place ∧ line.start ≤ place ∧ place ≤ line.stop ∧
    column ≤ width (text.slice ⟨line.start, place⟩)}

/-- How the offsets and the positions of a text go together. -/
structure PositionsInStep (text : Text) : Prop where
  increasing : ∀ left right, IsBoundary text left → IsBoundary text right → left < right →
    (positionAt text left).before (positionAt text right) = true
  returns : ∀ offset, IsBoundary text offset →
    offsetAt? text (positionAt text offset) = some offset
  /-- A boundary on a line has the number of the line and the width of what the line has in front of
  it. -/
  counted : ∀ number line place, IsLine text number line → IsBoundary text place →
    line.start ≤ place → place ≤ line.stop →
    positionAt text place = ⟨number, width (text.slice ⟨line.start, place⟩)⟩
  missing : ∀ position, offsetAt? text position = none ↔ lineCount text ≤ position.line
  /-- A position leads to the first boundary of its line that is not in front of its column, or to
  the end of the line when there is none. -/
  nearest : ∀ position, position.line < lineCount text →
    ∃ line offset, IsLine text position.line line ∧ offsetAt? text position = some offset ∧
      (IsLeast (placesFrom text line position.column) offset ∨
        placesFrom text line position.column = ∅ ∧ offset = line.stop)

/-- The boundaries of a line are the ends of its beginnings, so those from a column on are the ends
of the beginnings that are wide enough. -/
theorem CutsLine.mem_placesFrom_iff {text before line after : Text} {number column place : Nat}
    (h : CutsLine text number before line after) :
    place ∈ placesFrom text ⟨size before, size before + size line⟩ column ↔
      ∃ front, front <+: line ∧ place = size before + size front ∧ column ≤ width front := by
  constructor
  · rintro ⟨hboundary, hstart, hstop, hcolumn⟩
    obtain ⟨front, hfront, rfl, hslice⟩ := h.exists_prefix hboundary hstart hstop
    rw [hslice] at hcolumn
    exact ⟨front, hfront, rfl, hcolumn⟩
  · rintro ⟨front, ⟨back, rfl⟩, rfl, hcolumn⟩
    have hstands : StandsAt text (size before) front :=
      ⟨before, back ++ after, by simpa using h.text_eq, rfl⟩
    refine ⟨hstands.isBoundary_stop, Nat.le_add_right _ _, ?_, ?_⟩
    · rw [size_append]
      exact Nat.add_le_add_left (Nat.le_add_right _ _) _
    · rw [hstands.slice_eq]
      exact hcolumn

theorem CutsLine.nearest {text before line after : Text} {position : Position}
    (h : CutsLine text position.line before line after) :
    ∃ offset, offsetAt? text position = some offset ∧
      (IsLeast (placesFrom text ⟨size before, size before + size line⟩ position.column) offset ∨
        placesFrom text ⟨size before, size before + size line⟩ position.column = ∅ ∧
          offset = size before + size line) := by
  obtain ⟨part, rest, hline, hoffset, hbefore, hreached⟩ :=
    exists_offsetInLine h.inside h.ended position.column
  have hpart : part <+: line := hline ▸ List.prefix_append part rest
  refine ⟨size before + size part, ?_, ?_⟩
  · have hdrop : dropBytes (size before) text = line ++ after := by
      rw [h.text_eq, List.append_assoc, dropBytes_append_size]
    rw [offsetAt?_eq, h.lineStart?_eq, Option.map_some, hdrop, hoffset]
  by_cases hcolumn : position.column ≤ width part
  · refine Or.inl ⟨h.mem_placesFrom_iff.mpr ⟨part, hpart, rfl, hcolumn⟩, ?_⟩
    intro place hplace
    obtain ⟨front, hfront, rfl, hwide⟩ := h.mem_placesFrom_iff.mp hplace
    -- Beginnings of the line that end in front of the part are too narrow.
    rcases List.prefix_or_prefix_of_prefix hfront hpart with hshort | ⟨more, rfl⟩
    · by_cases heq : front = part
      · rw [heq]
      · have hlt := hbefore front hshort heq
        omega
    · rw [size_append]
      omega
  · -- The part is the whole line, which is not wide enough.
    have hrest : rest = [] := by
      by_contra hne
      exact hcolumn (hreached hne)
    rw [hrest, List.append_nil] at hline
    refine Or.inr ⟨Set.eq_empty_iff_forall_notMem.mpr ?_, by rw [hline]⟩
    intro place hplace
    obtain ⟨front, ⟨more, hmore⟩, -, hwide⟩ := h.mem_placesFrom_iff.mp hplace
    rw [← hline, ← hmore, width_append] at hcolumn
    omega

/-- **Offsets and positions are in step**, in every text. -/
theorem positionsInStep (text : Text) : PositionsInStep text := by
  have hreturns : ∀ offset, IsBoundary text offset →
      offsetAt? text (positionAt text offset) = some offset := by
    rintro offset ⟨before, after, rfl, rfl⟩
    rw [positionAt_append, offsetAt?_reach]
  exact {
    increasing := by
      intro left right hleft hright hlt
      by_contra hbefore
      have hle := offsetAt?_mono (Bool.eq_false_of_not_eq_true hbefore)
        (hreturns right hright) (hreturns left hleft)
      omega
    returns := hreturns
    counted := by
      rintro number span place ⟨before, line, after, hcut, rfl⟩ hplace hstart hstop
      obtain ⟨front, hfront, rfl, hslice⟩ := hcut.exists_prefix hplace hstart hstop
      rw [hcut.positionAt_eq hfront, hslice]
    missing := fun _ => offsetAt?_eq_none_iff
    nearest := by
      intro position hposition
      obtain ⟨before, line, after, hcut⟩ := exists_cutsLine hposition
      obtain ⟨offset, hoffset, hnearest⟩ := hcut.nearest
      exact ⟨_, offset, ⟨before, line, after, hcut, rfl⟩, hoffset, hnearest⟩ }

/-! ### Offsets inside a character -/

/-- The offset lies inside the character `c`, which stands behind `before`. -/
structure InsideChar (text : Text) (offset : Nat) (before : Text) (c : Char) : Prop where
  text_eq : ∃ after, text = before ++ c :: after
  start_lt : size before < offset
  lt_stop : offset < size before + c.utf8Size

/-- An offset is a boundary, lies behind the text or lies inside a character. -/
theorem boundary_cases (text : Text) (offset : Nat) :
    IsBoundary text offset ∨ size text < offset ∨ ∃ before c, InsideChar text offset before c := by
  induction text generalizing offset with
  | nil =>
    cases offset with
    | zero => exact Or.inl (isBoundary_zero [])
    | succ offset => exact Or.inr (Or.inl (Nat.succ_pos _))
  | cons c rest ih =>
    by_cases hzero : offset = 0
    · exact Or.inl (hzero ▸ isBoundary_zero _)
    · by_cases hinside : offset < c.utf8Size
      · refine Or.inr (Or.inr ⟨[], c, ⟨rest, rfl⟩, Nat.pos_of_ne_zero hzero, ?_⟩)
        rwa [size_nil, Nat.zero_add]
      · rcases ih (offset - c.utf8Size) with ⟨before, after, rfl, hsize⟩ | hbehind |
          ⟨before, d, ⟨after, rfl⟩, hstart, hstop⟩
        · exact Or.inl ⟨c :: before, after, rfl, by rw [size_cons]; omega⟩
        · exact Or.inr (Or.inl (by rw [size_cons]; omega))
        · refine Or.inr (Or.inr ⟨c :: before, d, ⟨after, rfl⟩, ?_, ?_⟩)
          · rw [size_cons]
            omega
          · rw [size_cons]
            omega

theorem positionAt_of_size_le {text : Text} {offset : Nat} (h : size text ≤ offset) :
    positionAt text offset = reach text := by
  rw [positionAt_eq_reach, takeBytes_of_size_le h]

/-- From behind its first byte up to its end, a character counts whole. -/
theorem positionAt_append_cons {before : Text} {c : Char} {offset : Nat}
    (hstart : size before < offset) (hstop : offset ≤ size before + c.utf8Size) (after : Text) :
    positionAt (before ++ c :: after) offset = (reach before).after c := by
  have hpart : takeBytes (offset - size before) (c :: after) = [c] := by
    rw [takeBytes_cons (by omega), Nat.sub_eq_zero_of_le (by omega), takeBytes_zero]
  rw [positionAt_eq_reach, takeBytes_append_of_le (Nat.le_of_lt hstart), hpart, reach,
    List.foldl_append]
  rfl

namespace InsideChar

variable {text before : Text} {offset : Nat} {c : Char}

theorem floorBoundary_eq (h : InsideChar text offset before c) :
    floorBoundary text offset = size before := by
  obtain ⟨⟨after, rfl⟩, hstart, hstop⟩ := h
  exact floorBoundary_append_cons before (Nat.le_of_lt hstart) hstop after

theorem positionAt_eq_stop (h : InsideChar text offset before c) :
    positionAt text offset = positionAt text (size before + c.utf8Size) := by
  obtain ⟨⟨after, rfl⟩, hstart, hstop⟩ := h
  rw [positionAt_append_cons hstart (Nat.le_of_lt hstop),
    positionAt_append_cons (by omega) (Nat.le_refl _)]

theorem positionAt_eq (h : InsideChar text offset before c) :
    positionAt text offset =
      ⟨(positionAt text (size before)).line,
        (positionAt text (size before)).column + units16 c⟩ := by
  obtain ⟨⟨after, rfl⟩, hstart, hstop⟩ := h
  -- A newline is one byte long and has no inside.
  have hc : c ≠ '\n' := by
    rintro rfl
    have hone : '\n'.utf8Size = 1 := rfl
    omega
  rw [positionAt_append_cons hstart (Nat.le_of_lt hstop), positionAt_append, Position.after,
    if_neg hc]

end InsideChar

/-- An offset has the position of the boundary at or before it just where it lies inside no
character. Inside a character it has the position behind the character, as many columns further as
the character is wide. -/
theorem positionAt_floorBoundary_iff (text : Text) (offset : Nat) :
    (positionAt text offset = positionAt text (floorBoundary text offset) ↔
      ¬ ∃ before c, InsideChar text offset before c) ∧
    ∀ before c, InsideChar text offset before c →
      floorBoundary text offset = size before ∧
      positionAt text offset = positionAt text (size before + c.utf8Size) ∧
      positionAt text offset =
        ⟨(positionAt text (size before)).line,
          (positionAt text (size before)).column + units16 c⟩ := by
  refine ⟨⟨?_, ?_⟩, ?_⟩
  · rintro heq ⟨before, c, hinside⟩
    rw [hinside.floorBoundary_eq, hinside.positionAt_eq] at heq
    have hcolumn := congrArg Position.column heq
    have hpos := units16_pos c
    simp only at hcolumn
    omega
  · intro hinside
    rcases boundary_cases text offset with hboundary | hbehind | hchar
    · rw [floorBoundary_of_isBoundary hboundary]
    · have hfloor : floorBoundary text offset = size text := by
        obtain ⟨⟨hboundary, -⟩, hgreatest⟩ := isGreatest_floorBoundary text offset
        exact Nat.le_antisymm hboundary.le_size
          (hgreatest ⟨isBoundary_end text, Nat.le_of_lt hbehind⟩)
      rw [hfloor, positionAt_of_size_le (Nat.le_of_lt hbehind),
        positionAt_of_size_le (Nat.le_refl _)]
    · exact absurd hchar hinside
  · intro before c hinside
    exact ⟨hinside.floorBoundary_eq, hinside.positionAt_eq_stop, hinside.positionAt_eq⟩

/-- The second byte of a character has the column behind it, not that of the character. -/
theorem positionAt_secondByte :
    InsideChar ['é'] 1 [] 'é' ∧ positionAt ['é'] (floorBoundary ['é'] 1) = ⟨0, 0⟩ ∧
      positionAt ['é'] 1 = ⟨0, 1⟩ := by
  rw [positionAt_eq_reach, positionAt_eq_reach]
  exact ⟨⟨⟨[], rfl⟩, by decide, by decide⟩, by decide, by decide⟩

end ComponentServer.Text
