import Mathlib
import ComponentServer.Text.Utf8

/-!
# Stretches of a text

Every offset of the program is the size of what stands in front of it. A text is cut into the same
characters however it is cut, so the size of the front half fixes both halves; that is what ties
offsets, slices and bytes together here.
-/

namespace ComponentServer.Text

@[simp]
theorem size_nil : size [] = 0 := rfl

@[simp]
theorem size_cons (c : Char) (text : Text) : size (c :: text) = c.utf8Size + size text := rfl

@[simp]
theorem size_append (left right : Text) : size (left ++ right) = size left + size right := by
  induction left with
  | nil => simp
  | cons c rest ih => simp [ih, Nat.add_assoc]

@[simp]
theorem width_nil : width [] = 0 := rfl

@[simp]
theorem width_cons (c : Char) (text : Text) : width (c :: text) = units16 c + width text := rfl

@[simp]
theorem width_append (left right : Text) : width (left ++ right) = width left + width right := by
  induction left with
  | nil => simp
  | cons c rest ih => simp [ih, Nat.add_assoc]

theorem units16_pos (c : Char) : 0 < units16 c := by
  unfold units16
  split <;> omega

@[simp]
theorem size_eq_zero_iff {text : Text} : size text = 0 ↔ text = [] := by
  cases text with
  | nil => simp
  | cons c rest =>
    have hpos := c.utf8Size_pos
    simp only [size_cons, reduceCtorEq, iff_false]
    omega

theorem size_pos_iff {text : Text} : 0 < size text ↔ text ≠ [] := by
  rw [Nat.pos_iff_ne_zero, ne_eq, size_eq_zero_iff]

/-- Two cuts of one text whose front halves have the same size are the same cut. -/
theorem append_inj_of_size {before before' after after' : Text}
    (h : before ++ after = before' ++ after') (hsize : size before = size before') :
    before = before' ∧ after = after' := by
  induction before generalizing before' with
  | nil =>
    have hnil : before' = [] := size_eq_zero_iff.mp hsize.symm
    subst hnil
    exact ⟨rfl, h⟩
  | cons c rest ih =>
    cases before' with
    | nil => exact absurd (size_eq_zero_iff.mp hsize) (by simp)
    | cons d rest' =>
      simp only [List.cons_append, List.cons.injEq] at h
      obtain ⟨rfl, htail⟩ := h
      have hrest : size rest = size rest' := by simpa using hsize
      obtain ⟨rfl, hafter⟩ := ih htail hrest
      exact ⟨rfl, hafter⟩

/-- Of two cuts of one text, the one with the smaller front half cuts the other's front half. -/
theorem exists_between_of_size_le {before before' after after' : Text}
    (h : before ++ after = before' ++ after') (hsize : size before ≤ size before') :
    ∃ part, before' = before ++ part ∧ after = part ++ after' := by
  rcases List.append_eq_append_iff.mp h with ⟨part, hfront, hback⟩ | ⟨part, hfront, hback⟩
  · exact ⟨part, hfront, hback⟩
  · have hnil : part = [] := by
      rw [hfront, size_append] at hsize
      exact size_eq_zero_iff.mp (by omega)
    subst hnil
    exact ⟨[], by simpa using hfront.symm, by simpa using hback.symm⟩

/-! ### Cutting by bytes -/

@[simp]
theorem dropBytes_zero (text : Text) : dropBytes 0 text = text := by
  cases text <;> rfl

@[simp]
theorem takeBytes_zero (text : Text) : takeBytes 0 text = [] := by
  cases text <;> rfl

theorem dropBytes_cons {count : Nat} (hcount : count ≠ 0) (c : Char) (rest : Text) :
    dropBytes count (c :: rest) = dropBytes (count - c.utf8Size) rest := by
  obtain ⟨count, rfl⟩ := Nat.exists_eq_succ_of_ne_zero hcount
  rfl

theorem takeBytes_cons {count : Nat} (hcount : count ≠ 0) (c : Char) (rest : Text) :
    takeBytes count (c :: rest) = c :: takeBytes (count - c.utf8Size) rest := by
  obtain ⟨count, rfl⟩ := Nat.exists_eq_succ_of_ne_zero hcount
  rfl

@[simp]
theorem dropBytes_append_size (before after : Text) :
    dropBytes (size before) (before ++ after) = after := by
  induction before with
  | nil => simp
  | cons c rest ih =>
    have hpos := c.utf8Size_pos
    rw [List.cons_append, dropBytes_cons (by rw [size_cons]; omega), size_cons,
      Nat.add_sub_cancel_left]
    exact ih

theorem takeBytes_append_of_le {before : Text} {count : Nat} (h : size before ≤ count)
    (after : Text) :
    takeBytes count (before ++ after) = before ++ takeBytes (count - size before) after := by
  induction before generalizing count with
  | nil => simp
  | cons c rest ih =>
    have hpos := c.utf8Size_pos
    rw [size_cons] at h ⊢
    rw [List.cons_append, takeBytes_cons (by omega), ih (by omega), Nat.sub_sub, List.cons_append]

@[simp]
theorem takeBytes_append_size (before after : Text) :
    takeBytes (size before) (before ++ after) = before := by
  rw [takeBytes_append_of_le (Nat.le_refl _), Nat.sub_self, takeBytes_zero, List.append_nil]

theorem takeBytes_append_dropBytes (count : Nat) (text : Text) :
    takeBytes count text ++ dropBytes count text = text := by
  induction text generalizing count with
  | nil => cases count <;> rfl
  | cons c rest ih =>
    by_cases hcount : count = 0
    · simp [hcount]
    · rw [takeBytes_cons hcount, dropBytes_cons hcount, List.cons_append, ih]

/-- The offset falls between two characters of the text, or at one of its ends. -/
def IsBoundary (text : Text) (offset : Nat) : Prop :=
  ∃ before after, text = before ++ after ∧ size before = offset

theorem isBoundary_iff {text : Text} {offset : Nat} :
    IsBoundary text offset ↔ size (takeBytes offset text) = offset := by
  constructor
  · rintro ⟨before, after, rfl, rfl⟩
    rw [takeBytes_append_size]
  · intro hsize
    exact ⟨takeBytes offset text, dropBytes offset text,
      (takeBytes_append_dropBytes offset text).symm, hsize⟩

instance (text : Text) (offset : Nat) : Decidable (IsBoundary text offset) :=
  decidable_of_iff _ isBoundary_iff.symm

theorem isBoundary_zero (text : Text) : IsBoundary text 0 := ⟨[], text, rfl, rfl⟩

theorem isBoundary_end (text : Text) : IsBoundary text (size text) := ⟨text, [], by simp, rfl⟩

theorem IsBoundary.le_size {text : Text} {offset : Nat} (h : IsBoundary text offset) :
    offset ≤ size text := by
  obtain ⟨before, after, rfl, rfl⟩ := h
  simp

theorem IsBoundary.append {text : Text} {offset : Nat} (h : IsBoundary text offset)
    (more : Text) : IsBoundary (text ++ more) offset := by
  obtain ⟨before, after, rfl, rfl⟩ := h
  exact ⟨before, after ++ more, by simp, rfl⟩

/-! ### Rounding down to a boundary -/

theorem isBoundary_floorBoundary (text : Text) (offset : Nat) :
    IsBoundary text (floorBoundary text offset) := by
  induction text generalizing offset with
  | nil => exact isBoundary_zero []
  | cons c rest ih =>
    simp only [floorBoundary]
    split
    · exact isBoundary_zero _
    · obtain ⟨before, after, hrest, hsize⟩ := ih (offset - c.utf8Size)
      exact ⟨c :: before, after, by rw [hrest]; rfl, by rw [size_cons, hsize]⟩

theorem floorBoundary_of_isBoundary {text : Text} {offset : Nat} (h : IsBoundary text offset) :
    floorBoundary text offset = offset := by
  obtain ⟨before, after, rfl, rfl⟩ := h
  induction before with
  | nil => cases after <;> simp [floorBoundary, Char.utf8Size_pos]
  | cons c rest ih =>
    rw [List.cons_append, floorBoundary, if_neg (by rw [size_cons]; omega), size_cons,
      Nat.add_sub_cancel_left, ih]

/-- An offset inside a character is rounded down to the start of that character. -/
theorem floorBoundary_append_cons (before : Text) {c : Char} {offset : Nat}
    (hstart : size before ≤ offset) (hstop : offset < size before + c.utf8Size) (after : Text) :
    floorBoundary (before ++ c :: after) offset = size before := by
  induction before generalizing offset with
  | nil =>
    rw [size_nil, Nat.zero_add] at hstop
    rw [List.nil_append, floorBoundary, if_pos hstop, size_nil]
  | cons d rest ih =>
    rw [size_cons] at hstart hstop ⊢
    rw [List.cons_append, floorBoundary, if_neg (by omega), ih (by omega) (by omega)]

theorem onBoundary_iff {text : Text} {offset : Nat} :
    onBoundary text offset = true ↔ IsBoundary text offset := by
  rw [onBoundary, beq_iff_eq]
  constructor
  · intro hfloor
    exact hfloor ▸ isBoundary_floorBoundary text offset
  · exact floorBoundary_of_isBoundary

theorem get?_eq_some_iff {text part : Text} {span : Span} :
    get? text span = some part ↔
      (span.start ≤ span.stop ∧ IsBoundary text span.start ∧ IsBoundary text span.stop) ∧
        slice text span = part := by
  simp only [get?, Option.ite_none_right_eq_some, Bool.and_eq_true, decide_eq_true_eq,
    onBoundary_iff, Option.some.injEq, and_assoc]

theorem isGreatest_floorBoundary (text : Text) (start : Nat) :
    IsGreatest {offset | IsBoundary text offset ∧ offset ≤ start} (floorBoundary text start) := by
  induction text generalizing start with
  | nil =>
    refine ⟨⟨isBoundary_zero [], Nat.zero_le _⟩, ?_⟩
    rintro offset ⟨hboundary, -⟩
    exact hboundary.le_size
  | cons c rest ih =>
    rw [floorBoundary]
    split
    next hlt =>
      refine ⟨⟨isBoundary_zero _, Nat.zero_le _⟩, ?_⟩
      rintro offset ⟨⟨before, after, hsplit, hsize⟩, hle⟩
      cases before with
      | nil => exact Nat.le_of_eq hsize.symm
      | cons d before =>
        -- The first character would already be behind `start`.
        cases hsplit
        rw [size_cons] at hsize
        omega
    next hge =>
      obtain ⟨⟨hboundary, hle⟩, hgreatest⟩ := ih (start - c.utf8Size)
      obtain ⟨before, after, hrest, hsize⟩ := hboundary
      refine ⟨⟨⟨c :: before, after, by rw [hrest]; rfl, by rw [size_cons, hsize]⟩, by omega⟩, ?_⟩
      rintro offset ⟨⟨before', after', hsplit, hsize'⟩, hle'⟩
      cases before' with
      | nil =>
        rw [size_nil] at hsize'
        omega
      | cons d before' =>
        cases hsplit
        rw [size_cons] at hsize'
        have hbound := hgreatest ⟨⟨before', after', rfl, rfl⟩, by omega⟩
        omega

/-! ### Parts of a text -/

/-- The text `part` stands in `text` from byte `start` on. -/
def StandsAt (text : Text) (start : Nat) (part : Text) : Prop :=
  ∃ before after, text = before ++ part ++ after ∧ size before = start

namespace StandsAt

variable {text part : Text} {start : Nat}

theorem isBoundary_start (h : StandsAt text start part) : IsBoundary text start := by
  obtain ⟨before, after, rfl, rfl⟩ := h
  exact ⟨before, part ++ after, by simp, rfl⟩

theorem isBoundary_stop (h : StandsAt text start part) : IsBoundary text (start + size part) := by
  obtain ⟨before, after, rfl, rfl⟩ := h
  exact ⟨before ++ part, after, rfl, size_append before part⟩

theorem stop_le (h : StandsAt text start part) : start + size part ≤ size text :=
  h.isBoundary_stop.le_size

theorem append_right (h : StandsAt text start part) (more : Text) :
    StandsAt (text ++ more) start part := by
  obtain ⟨before, after, rfl, rfl⟩ := h
  exact ⟨before, after ++ more, by simp, rfl⟩

theorem left {front back : Text} (h : StandsAt text start (front ++ back)) :
    StandsAt text start front := by
  obtain ⟨before, after, rfl, rfl⟩ := h
  exact ⟨before, back ++ after, by simp, rfl⟩

theorem right {front back : Text} (h : StandsAt text start (front ++ back)) :
    StandsAt text (start + size front) back := by
  obtain ⟨before, after, rfl, rfl⟩ := h
  exact ⟨before ++ front, after, by simp, size_append before front⟩

theorem join {front back : Text} (hfront : StandsAt text start front)
    (hback : StandsAt text (start + size front) back) : StandsAt text start (front ++ back) := by
  obtain ⟨before, after, rfl, rfl⟩ := hfront
  obtain ⟨before', after', heq, hsize⟩ := hback
  have hcut : (before ++ front) ++ after = before' ++ (back ++ after') := by simpa using heq
  obtain ⟨rfl, rfl⟩ := append_inj_of_size hcut (by rw [size_append]; exact hsize.symm)
  exact ⟨before, after', by simp, rfl⟩

theorem slice_eq (h : StandsAt text start part) :
    text.slice ⟨start, start + size part⟩ = part := by
  obtain ⟨before, after, rfl, rfl⟩ := h
  simp [slice, Span.length]

theorem dropBytes_eq (h : StandsAt text start part) :
    ∃ after, dropBytes start text = part ++ after := by
  obtain ⟨before, after, rfl, rfl⟩ := h
  exact ⟨after, by rw [List.append_assoc, dropBytes_append_size]⟩

end StandsAt

theorem standsAt_append (before part after : Text) :
    StandsAt (before ++ part ++ after) (size before) part := ⟨before, after, rfl, rfl⟩

theorem standsAt_slice {text : Text} {span : Span} (hstart : IsBoundary text span.start)
    (hstop : IsBoundary text span.stop) (hle : span.start ≤ span.stop) :
    StandsAt text span.start (text.slice span) ∧
      span.start + size (text.slice span) = span.stop := by
  obtain ⟨before, after, htext, hbefore⟩ := hstart
  obtain ⟨before', after', htext', hbefore'⟩ := hstop
  obtain ⟨part, rfl, rfl⟩ := exists_between_of_size_le (htext.symm.trans htext')
    (by rw [hbefore, hbefore']; exact hle)
  have hstands : StandsAt text span.start part :=
    ⟨before, after', by simpa using htext', hbefore⟩
  have hstop : span.start + size part = span.stop := by
    rw [← hbefore, ← hbefore', size_append]
  have hslice : text.slice span = part := by
    have := hstands.slice_eq
    rwa [hstop] at this
  rw [hslice]
  exact ⟨hstands, hstop⟩

/-! ### Bytes -/

@[simp]
theorem utf8_append (left right : Text) : utf8 (left ++ right) = utf8 left ++ utf8 right := by
  simp [utf8]

@[simp]
theorem length_utf8 (text : Text) : (utf8 text).length = size text := by
  induction text with
  | nil => rfl
  | cons c rest ih =>
    simp only [utf8, List.flatMap_cons, List.length_append, size_cons,
      String.length_utf8EncodeChar] at ih ⊢
    rw [ih]

theorem le_toNat_of_mem_utf8EncodeChar {c : Char} (hc : 128 ≤ c.toNat) :
    ∀ byte ∈ String.utf8EncodeChar c, 128 ≤ byte.toNat := by
  have hwide : ¬ c.val.toNat ≤ 127 := Nat.not_le.mpr hc
  simp only [String.utf8EncodeChar, if_neg hwide]
  split <;> (try split) <;> simp <;> omega

theorem toNat_ofUInt8 (byte : UInt8) : (Char.ofUInt8 byte).toNat = byte.toNat :=
  UInt8.toNat_toUInt32 byte

theorem utf8EncodeChar_of_lt {c : Char} (hc : c.toNat < 128) :
    String.utf8EncodeChar c = [c.val.toUInt8] ∧ c.utf8Size = 1 ∧ Char.ofUInt8 c.val.toUInt8 = c := by
  have hsize : c.utf8Size = 1 := by
    rw [Char.utf8Size_eq_one_iff, UInt32.le_iff_toNat_le]
    exact Nat.le_of_lt_succ hc
  refine ⟨String.utf8EncodeChar_eq_singleton hsize, hsize, ?_⟩
  apply Char.toNat_inj.mp
  rw [toNat_ofUInt8, UInt32.toNat_toUInt8]
  exact Nat.mod_eq_of_lt (Nat.lt_trans hc (by decide))

theorem StandsAt.utf8_getElem? {text part : Text} {start : Nat} (h : StandsAt text start part)
    {offset : Nat} (hoffset : offset < size part) :
    (utf8 text)[start + offset]? = (utf8 part)[offset]? := by
  obtain ⟨before, after, rfl, rfl⟩ := h
  rw [utf8_append, utf8_append, List.getElem?_append_left (by simp; omega),
    List.getElem?_append_right (by simp), length_utf8, Nat.add_sub_cancel_left]

end ComponentServer.Text
