import ComponentServer.Markup.Reader
import ComponentServer.Proofs.Text.Cut
import ComponentServer.Proofs.Text.Stretch

/-!
# Reading at an offset of the document

The reader moves an offset along the bytes of the whole document. Wherever it stands between two
characters, what it reads is what the text behind it gives on its own: every search, every peek and
every slice leads as far as the list reader takes the rest, and the offsets that are recorded are
those of its tokens. The bytes of a character that is not ASCII are passed over one by one, and none
of them stops a search.
-/

namespace ComponentServer.Markup

open Text

/-! ### Characters that are not ASCII -/

/-- The test does not tell characters apart that are not ASCII. -/
def Uniform (test : Char → Bool) : Prop :=
  ∀ c d : Char, 128 ≤ c.toNat → 128 ≤ d.toNat → test c = test d

theorem ne_of_le_toNat {c d : Char} (hc : 128 ≤ c.toNat) (hd : d.toNat < 128) : c ≠ d := by
  rintro rfl
  omega

theorem isAlpha_eq_false {c : Char} (hc : 128 ≤ c.toNat) : c.isAlpha = false := by
  have hval : 128 ≤ c.val.toNat := hc
  simp [Char.isAlpha, Char.isUpper, Char.isLower, UInt32.le_iff_toNat_le]
  omega

theorem isTagBlank_eq_false {c : Char} (hc : 128 ≤ c.toNat) : isTagBlank c = false := by
  simp only [isTagBlank, Bool.or_eq_false_iff, beq_eq_false_iff_ne]
  refine ⟨⟨⟨⟨?_, ?_⟩, ?_⟩, ?_⟩, ?_⟩ <;> exact ne_of_le_toNat hc (by decide)

def GroupState.Proper : GroupState → Prop
  | .code => True
  | .quoted quote => isQuote quote = true
  | .escaped quote => isQuote quote = true

def GroupState.Closes (depth : Nat) (c : Char) (state : GroupState) : Prop :=
  state = .code ∧ c = '\x7d' ∧ depth ≤ 1

instance (depth : Nat) (c : Char) (state : GroupState) : Decidable (state.Closes depth c) :=
  inferInstanceAs (Decidable (_ ∧ _))

def GroupState.after (depth : Nat) (c : Char) : GroupState → GroupState × Nat
  | .code =>
    (if isQuote c then .quoted c else .code,
      if c = '\x7b' then depth + 1 else if c = '\x7d' then depth - 1 else depth)
  | .quoted quote =>
    (if c = quote then .code else if c = '\\' then .escaped quote else .quoted quote, depth)
  | .escaped quote => (.quoted quote, depth)

theorem GroupState.Proper.after {state : GroupState} (h : state.Proper) (depth : Nat) (c : Char) :
    (state.after depth c).1.Proper := by
  cases state with
  | code =>
    simp only [GroupState.after]
    split
    next hquote => exact hquote
    next => trivial
  | quoted quote =>
    simp only [GroupState.after]
    split
    next => trivial
    next => split <;> exact h
  | escaped quote => exact h

theorem splitGroup_cons (state : GroupState) (depth : Nat) (c : Char) (rest : Text) :
    (splitGroup state depth (c :: rest)).1 =
      if state.Closes depth c then [c]
      else c :: (splitGroup (state.after depth c).1 (state.after depth c).2 rest).1 := by
  cases state with
  | code =>
    simp only [splitGroup, GroupState.Closes, GroupState.after, true_and]
    split <;> rfl
  | quoted quote => simp [splitGroup, GroupState.Closes, GroupState.after]
  | escaped quote => simp [splitGroup, GroupState.Closes, GroupState.after]

theorem toNat_lt_of_isQuote {c : Char} (h : isQuote c = true) : c.toNat < 128 := by
  simp only [isQuote, Bool.or_eq_true, beq_iff_eq] at h
  rcases h with (rfl | rfl) | rfl <;> decide

theorem isQuote_eq_false {c : Char} (hc : 128 ≤ c.toNat) : isQuote c = false := by
  by_contra hquote
  have hlt := toNat_lt_of_isQuote (Bool.eq_true_of_not_eq_false hquote)
  omega

theorem fst_splitThrough (mark : Char) (text : Text) :
    (splitThrough mark text).1 =
      match cut? [mark] text with
      | some halves => halves.1 ++ [mark]
      | none => text := by
  induction text with
  | nil => rfl
  | cons c rest ih =>
    rw [splitThrough, cut?, cutWhere?]
    by_cases hc : c = mark
    · simp [hc]
    · rw [cut?] at ih
      have hstart : [mark].isPrefixOf (c :: rest) = false := by
        simp [List.isPrefixOf, Ne.symm hc]
      rw [if_neg hc, hstart]
      simp only [ih, Bool.false_eq_true, if_false]
      cases cutWhere? ([mark].isPrefixOf ·) rest <;> rfl

namespace Input

variable {input : Input} {offset : Nat} {rest part more : Text} {c : Char} {test : Char → Bool}

/-- What stands in the document from the offset on. -/
def LeftAt (input : Input) (offset : Nat) (rest : Text) : Prop :=
  ∃ before, input.text = before ++ rest ∧ size before = offset

namespace LeftAt

theorem behind (h : input.LeftAt offset (part ++ more)) :
    input.LeftAt (offset + size part) more := by
  obtain ⟨before, htext, rfl⟩ := h
  exact ⟨before ++ part, by rw [htext, List.append_assoc], size_append before part⟩

theorem behind_cons (h : input.LeftAt offset (c :: rest)) :
    input.LeftAt (offset + c.utf8Size) rest := by
  have hbehind := @behind input offset [c] rest h
  simpa using hbehind

theorem dropBytes_eq (h : input.LeftAt offset rest) : input.text.dropBytes offset = rest := by
  obtain ⟨before, htext, rfl⟩ := h
  rw [htext, dropBytes_append_size]

theorem slice_eq (h : input.LeftAt offset (part ++ more)) :
    input.slice offset (offset + size part) = part := by
  obtain ⟨before, htext, hsize⟩ := h
  have hstands : StandsAt input.text offset part := ⟨before, more, by simpa using htext, hsize⟩
  exact hstands.slice_eq

theorem getElem?_eq (h : input.LeftAt offset rest) (inner : Nat) :
    input.bytes[offset + inner]? = (utf8 rest)[inner]? := by
  obtain ⟨before, htext, rfl⟩ := h
  rw [input.bytes_eq, htext, utf8_append, List.getElem?_toArray,
    List.getElem?_append_right (by simp), length_utf8, Nat.add_sub_cancel_left]

theorem length_eq (h : input.LeftAt offset rest) : input.length = offset + size rest := by
  obtain ⟨before, htext, rfl⟩ := h
  rw [length, input.bytes_eq, List.size_toArray, length_utf8, htext, size_append]

theorem peek?_nil (h : input.LeftAt offset []) : input.peek? offset = none := by
  rw [peek?, ← Nat.add_zero offset, h.getElem?_eq]
  rfl

theorem peek?_cons (h : input.LeftAt offset (c :: rest)) (hc : c.toNat < 128) :
    input.peek? offset = some c := by
  obtain ⟨hbytes, -, hchar⟩ := utf8EncodeChar_of_lt hc
  rw [peek?, ← Nat.add_zero offset, h.getElem?_eq, utf8, List.flatMap_cons, hbytes]
  exact congrArg some hchar

/-- Inside a character that is not ASCII there is no ASCII byte. -/
theorem exists_peek? (h : input.LeftAt offset (c :: rest)) (hc : 128 ≤ c.toNat) {inner : Nat}
    (hinner : inner < c.utf8Size) :
    ∃ d, input.peek? (offset + inner) = some d ∧ 128 ≤ d.toNat := by
  have hlength : inner < (String.utf8EncodeChar c).length := by
    rwa [String.length_utf8EncodeChar]
  refine ⟨Char.ofUInt8 (String.utf8EncodeChar c)[inner], ?_, ?_⟩
  · rw [peek?, h.getElem?_eq, utf8, List.flatMap_cons, List.getElem?_append_left hlength,
      List.getElem?_eq_getElem hlength, Option.map_some]
  · rw [toNat_ofUInt8]
    exact le_toNat_of_mem_utf8EncodeChar hc _ (List.getElem_mem hlength)

theorem exists_peek?_start (h : input.LeftAt offset (c :: rest)) (hc : 128 ≤ c.toNat) :
    ∃ d, input.peek? offset = some d ∧ 128 ≤ d.toNat :=
  h.exists_peek? hc c.utf8Size_pos

theorem peek?_eq_some_iff (h : input.LeftAt offset rest) (hc : c.toNat < 128) :
    input.peek? offset = some c ↔ ∃ more, rest = c :: more := by
  constructor
  · intro hpeek
    cases rest with
    | nil => simp [h.peek?_nil] at hpeek
    | cons d rest =>
      rcases Nat.lt_or_ge d.toNat 128 with hd | hd
      · rw [h.peek?_cons hd, Option.some.injEq] at hpeek
        exact ⟨rest, by rw [hpeek]⟩
      · obtain ⟨byte, hbyte, hwide⟩ := h.exists_peek?_start hd
        rw [hbyte, Option.some.injEq] at hpeek
        exact absurd hpeek (ne_of_le_toNat hwide hc)
  · rintro ⟨more, rfl⟩
    exact h.peek?_cons hc

theorem isAlphaAt_eq (h : input.LeftAt offset rest) :
    input.isAlphaAt offset = rest.head?.any Char.isAlpha := by
  cases rest with
  | nil => rw [isAlphaAt, h.peek?_nil]; rfl
  | cons c rest =>
    rcases Nat.lt_or_ge c.toNat 128 with hc | hc
    · rw [isAlphaAt, h.peek?_cons hc]
      rfl
    · obtain ⟨byte, hbyte, hwide⟩ := h.exists_peek?_start hc
      simp [isAlphaAt, hbyte, isAlpha_eq_false hwide, isAlpha_eq_false hc]

/-- What does not change behind a byte that is not ASCII does not change behind the whole
character. -/
theorem pass {α : Type} {f : Nat → α} (h : input.LeftAt offset (c :: rest)) (hc : 128 ≤ c.toNat)
    (hf : ∀ place d, input.peek? place = some d → 128 ≤ d.toNat → f place = f (place + 1))
    {inner : Nat} (hinner : inner ≤ c.utf8Size) :
    f (offset + inner) = f (offset + c.utf8Size) := by
  induction hinner using Nat.decreasingInduction with
  | self => rfl
  | of_succ inner hlt ih =>
    obtain ⟨d, hpeek, hd⟩ := h.exists_peek? hc hlt
    rw [hf _ d hpeek hd, Nat.add_assoc]
    exact ih

end LeftAt

/-! ### Searches -/

namespace LeftAt

theorem skip_eq (h : input.LeftAt offset rest) (htest : Uniform test) :
    input.skip test offset = offset + size (rest.takeWhile test) := by
  induction rest generalizing offset with
  | nil => rw [skip_of_peek?_eq_none h.peek?_nil, List.takeWhile_nil, size_nil, Nat.add_zero]
  | cons c rest ih =>
    by_cases hpass : test c = true
    · have hover : input.skip test offset = input.skip test (offset + c.utf8Size) := by
        rcases Nat.lt_or_ge c.toNat 128 with hc | hc
        · rw [skip_of_peek? (h.peek?_cons hc), if_pos hpass, (utf8EncodeChar_of_lt hc).2.1]
        · refine h.pass (f := input.skip test) hc ?_ (Nat.zero_le _)
          intro place d hpeek hd
          rw [skip_of_peek? hpeek, if_pos ((htest d c hd hc).trans hpass)]
      rw [hover, ih h.behind_cons, List.takeWhile_cons_of_pos hpass, size_cons, Nat.add_assoc]
    · have hstop : input.skip test offset = offset := by
        rcases Nat.lt_or_ge c.toNat 128 with hc | hc
        · rw [skip_of_peek? (h.peek?_cons hc), if_neg hpass]
        · obtain ⟨d, hpeek, hd⟩ := h.exists_peek?_start hc
          rw [skip_of_peek? hpeek, if_neg (by rwa [htest d c hd hc])]
      rw [hstop, List.takeWhile_cons_of_neg hpass, size_nil, Nat.add_zero]

theorem find?_eq (h : input.LeftAt offset rest) (needle : Text) :
    input.find? needle offset = (cut? needle rest).map fun halves => offset + size halves.1 := by
  rw [find?, h.dropBytes_eq]

theorem findIgnoringCase?_eq (h : input.LeftAt offset rest) (needle : Text) :
    input.findIgnoringCase? needle offset =
      (cutIgnoringCase? needle rest).map fun halves => offset + size halves.1 := by
  rw [findIgnoringCase?, h.dropBytes_eq]

theorem startsWith_eq (h : input.LeftAt offset rest) (needle : Text) :
    input.startsWith needle offset = needle.isPrefixOf rest := by
  rw [startsWith, h.dropBytes_eq]

theorem through_eq {mark : Char} (h : input.LeftAt offset rest) (hmark : mark.toNat < 128) :
    input.through mark offset = offset + size (splitThrough mark rest).1 := by
  obtain ⟨-, hsize, -⟩ := utf8EncodeChar_of_lt hmark
  rw [through, h.find?_eq, fst_splitThrough]
  cases cut? [mark] rest with
  | none => exact h.length_eq
  | some halves =>
    rw [size_append, size_cons, size_nil, hsize]
    rfl

end LeftAt

/-- The end of a braced group, from within it. -/
def resume (input : Input) (depth offset : Nat) : GroupState → Nat
  | .code => input.groupEnd depth offset
  | .quoted quote => input.groupEnd depth (input.closingQuote quote offset + 1)
  | .escaped quote => input.groupEnd depth (input.closingQuote quote (offset + 1) + 1)

theorem LeftAt.resume_nil (h : input.LeftAt offset []) (depth : Nat) (state : GroupState) :
    input.resume depth offset state = offset := by
  have hlength : input.length = offset := by simpa using h.length_eq
  have hnone : ∀ place, offset ≤ place → input.peek? place = none := by
    intro place hplace
    rw [peek?, Array.getElem?_eq_none (by rwa [← hlength] at hplace), Option.map_none]
  cases state with
  | code => rw [resume, groupEnd_of_peek?_eq_none (hnone _ (Nat.le_refl _)), hlength]
  | quoted quote =>
    rw [resume, closingQuote_of_peek?_eq_none (hnone _ (Nat.le_refl _)),
      groupEnd_of_peek?_eq_none (hnone _ (Nat.le_succ _)), hlength]
  | escaped quote =>
    rw [resume, closingQuote_of_peek?_eq_none (hnone _ (Nat.le_succ _)),
      groupEnd_of_peek?_eq_none (hnone _ (Nat.le_add_right _ 2)), hlength]

theorem LeftAt.resume_ascii (h : input.LeftAt offset (c :: rest)) (hc : c.toNat < 128)
    (depth : Nat) (state : GroupState) :
    input.resume depth offset state =
      if state.Closes depth c then offset + 1
      else input.resume (state.after depth c).2 (offset + 1) (state.after depth c).1 := by
  have hpeek := h.peek?_cons hc
  cases state with
  | code =>
    rw [resume, groupEnd_of_peek? hpeek]
    by_cases hopen : c = '\x7b'
    · subst hopen
      rfl
    · by_cases hclose : c = '\x7d'
      · subst hclose
        by_cases hdepth : depth ≤ 1
        · have hlast : depth - 1 = 0 := by omega
          simp [GroupState.Closes, hlast, hdepth]
        · have hmore : depth - 1 ≠ 0 := by omega
          simp [GroupState.Closes, GroupState.after, isQuote, resume, hdepth, hmore]
      · by_cases hquote : isQuote c = true
        · simp [GroupState.Closes, GroupState.after, resume, hopen, hclose, hquote]
        · simp [GroupState.Closes, GroupState.after, resume, hopen, hclose, hquote]
  | quoted quote =>
    rw [resume, closingQuote_of_peek? hpeek]
    by_cases hquote : c = quote
    · simp [GroupState.Closes, GroupState.after, resume, hquote]
    · by_cases hescape : c = '\\'
      · subst hescape
        simp [GroupState.Closes, GroupState.after, resume, hquote]
      · simp [GroupState.Closes, GroupState.after, resume, hquote, hescape]
  | escaped quote => simp [GroupState.Closes, GroupState.after, resume]

theorem LeftAt.resume_wide (h : input.LeftAt offset (c :: rest)) (hc : 128 ≤ c.toNat)
    (depth : Nat) {state : GroupState} (hstate : state.Proper) :
    input.resume depth offset state =
      input.resume (state.after depth c).2 (offset + c.utf8Size) (state.after depth c).1 := by
  have hopen (d : Char) (hd : 128 ≤ d.toNat) : d ≠ '\x7b' := ne_of_le_toNat hd (by decide)
  have hclose (d : Char) (hd : 128 ≤ d.toNat) : d ≠ '\x7d' := ne_of_le_toNat hd (by decide)
  have hescape (d : Char) (hd : 128 ≤ d.toNat) : d ≠ '\\' := ne_of_le_toNat hd (by decide)
  have hpassQuoted {quote : Char} (hquote : isQuote quote = true) (place : Nat) (d : Char)
      (hpeek : input.peek? place = some d) (hd : 128 ≤ d.toNat) :
      input.resume depth place (.quoted quote) =
        input.resume depth (place + 1) (.quoted quote) := by
    rw [resume, closingQuote_of_peek? hpeek,
      if_neg (ne_of_le_toNat hd (toNat_lt_of_isQuote hquote)), if_neg (hescape d hd), resume]
  cases state with
  | code =>
    have hcode : (GroupState.code.after depth c) = (.code, depth) := by
      simp [GroupState.after, isQuote_eq_false hc, hopen c hc, hclose c hc]
    rw [hcode]
    refine h.pass (f := fun place => input.resume depth place .code) hc ?_ (Nat.zero_le _)
    intro place d hpeek hd
    rw [resume, groupEnd_of_peek? hpeek, if_neg (hopen d hd), if_neg (hclose d hd),
      isQuote_eq_false hd, resume]
    rfl
  | quoted quote =>
    have hquoted : ((GroupState.quoted quote).after depth c) = (.quoted quote, depth) := by
      simp [GroupState.after, ne_of_le_toNat hc (toNat_lt_of_isQuote hstate), hescape c hc]
    rw [hquoted]
    exact h.pass hc (hpassQuoted hstate) (Nat.zero_le _)
  | escaped quote =>
    -- The backslash hid the first byte, and the others are passed over as in a literal.
    exact h.pass hc (hpassQuoted hstate) c.utf8Size_pos

/-- The bytes of one character lead from state to state as the character does. -/
theorem LeftAt.resume_eq (h : input.LeftAt offset rest) {depth : Nat} {state : GroupState}
    (hstate : state.Proper) :
    input.resume depth offset state = offset + size (splitGroup state depth rest).1 := by
  induction rest generalizing offset depth state with
  | nil =>
    rw [h.resume_nil]
    cases state <;> rfl
  | cons c rest ih =>
    have hbehind : input.resume (state.after depth c).2 _ (state.after depth c).1 = _ :=
      ih h.behind_cons (hstate.after depth c)
    rw [splitGroup_cons]
    rcases Nat.lt_or_ge c.toNat 128 with hc | hc
    · obtain ⟨-, hsize, -⟩ := utf8EncodeChar_of_lt hc
      rw [hsize] at hbehind
      rw [h.resume_ascii hc]
      split
      · rw [size_cons, hsize, size_nil]
      · rw [hbehind, size_cons, hsize, Nat.add_assoc]
    · have hopen : ¬ state.Closes depth c := fun hcloses =>
        ne_of_le_toNat hc (by decide) hcloses.2.1
      rw [h.resume_wide hc depth hstate, hbehind, if_neg hopen, size_cons, Nat.add_assoc]

/-! ### Attributes -/

theorem uniform_isTagBlank : Uniform isTagBlank := by
  intro c d hc hd
  rw [isTagBlank_eq_false hc, isTagBlank_eq_false hd]

theorem uniform_inValue : Uniform fun c => !(isTagBlank c || c == '>') := by
  intro c d hc hd
  have hne (c : Char) (hc : 128 ≤ c.toNat) : c ≠ '>' := ne_of_le_toNat hc (by decide)
  simp [isTagBlank_eq_false hc, isTagBlank_eq_false hd, hne c hc, hne d hd]

theorem tagBodyInName_eq_true {c : Char} (hc : 128 ≤ c.toNat) : TagBody.inName c = true := by
  simp only [TagBody.inName, isTagBlank_eq_false hc, Bool.false_or, Bool.not_eq_true',
    Bool.or_eq_false_iff, beq_eq_false_iff_ne]
  refine ⟨⟨⟨⟨⟨?_, ?_⟩, ?_⟩, ?_⟩, ?_⟩, ?_⟩ <;> exact ne_of_le_toNat hc (by decide)

theorem uniform_tagBodyInName : Uniform TagBody.inName := by
  intro c d hc hd
  rw [tagBodyInName_eq_true hc, tagBodyInName_eq_true hd]

theorem LeftAt.groupEnd_eq (h : input.LeftAt offset ('\x7b' :: rest)) :
    input.groupEnd 0 offset = offset + size ('\x7b' :: (splitGroup .code 1 rest).1) := by
  have hinner : input.resume 1 (offset + 1) .code = _ := h.behind_cons.resume_eq trivial
  rw [groupEnd_of_peek? (h.peek?_cons (by decide)), if_pos rfl, size_cons, ← Nat.add_assoc]
  exact hinner

theorem LeftAt.valueEnd_eq (h : input.LeftAt offset rest) :
    input.valueEnd offset = offset + size (splitValue rest).1 := by
  cases rest with
  | nil => simp [valueEnd, h.peek?_nil, splitValue]
  | cons c rest =>
    rcases Nat.lt_or_ge c.toNat 128 with hc | hc
    · obtain ⟨-, hsize, -⟩ := utf8EncodeChar_of_lt hc
      have hbehind := h.behind_cons
      rw [hsize] at hbehind
      simp only [valueEnd, h.peek?_cons hc, splitValue]
      by_cases hquote : isQuote c = true
      · rw [if_pos hquote, if_pos hquote, hbehind.through_eq hc, size_cons, hsize, Nat.add_assoc]
      · rw [if_neg hquote, if_neg hquote]
        by_cases hbrace : c = '\x7b'
        · subst hbrace
          rw [if_pos rfl, if_pos rfl, h.groupEnd_eq]
        · rw [if_neg hbrace, if_neg hbrace, h.skip_eq uniform_inValue]
    · obtain ⟨d, hpeek, hd⟩ := h.exists_peek?_start hc
      have hbrace (d : Char) (hd : 128 ≤ d.toNat) : d ≠ '\x7b' := ne_of_le_toNat hd (by decide)
      simp only [valueEnd, hpeek, splitValue, isQuote_eq_false hc, isQuote_eq_false hd,
        if_neg (hbrace c hc), if_neg (hbrace d hd), h.skip_eq uniform_inValue, Bool.false_eq_true,
        if_false]

theorem LeftAt.behind_takeWhile (h : input.LeftAt offset rest) (test : Char → Bool) :
    input.LeftAt (offset + size (rest.takeWhile test)) (rest.dropWhile test) := by
  apply behind
  rwa [List.takeWhile_append_dropWhile]

theorem LeftAt.slice_takeWhile (h : input.LeftAt offset rest) (test : Char → Bool) :
    input.slice offset (offset + size (rest.takeWhile test)) = rest.takeWhile test := by
  rw [← List.takeWhile_append_dropWhile (p := test) (l := rest)] at h
  exact h.slice_eq

theorem LeftAt.slice_splitValue (h : input.LeftAt offset rest) :
    input.slice offset (offset + size (splitValue rest).1) = (splitValue rest).1 := by
  rw [← splitValue_append rest] at h
  exact h.slice_eq

theorem LeftAt.isBoundary (h : input.LeftAt offset rest) : IsBoundary input.text offset := by
  obtain ⟨before, htext, hsize⟩ := h
  exact ⟨before, rest, htext, hsize⟩

/-- Names and values end between characters, so that rounding their ends down changes nothing. -/
theorem LeftAt.floorBoundary_skip (h : input.LeftAt offset rest) (htest : Uniform test) :
    input.text.floorBoundary (input.skip test offset) = input.skip test offset := by
  rw [h.skip_eq htest]
  exact floorBoundary_of_isBoundary (h.behind_takeWhile test).isBoundary

theorem LeftAt.floorBoundary_valueEnd (h : input.LeftAt offset rest) :
    input.text.floorBoundary (input.valueEnd offset) = input.valueEnd offset := by
  have hbehind : input.LeftAt (offset + size (splitValue rest).1) (splitValue rest).2 := by
    rw [← splitValue_append rest] at h
    exact h.behind
  rw [h.valueEnd_eq]
  exact floorBoundary_of_isBoundary hbehind.isBoundary

theorem LeftAt.assignment_eq (h : input.LeftAt offset rest) :
    input.assignment offset =
      ((Assignment.read rest).value, offset + size (Assignment.read rest).text) := by
  have hsign := h.behind_takeWhile isTagBlank
  have hassigned := hsign.peek?_eq_some_iff (c := '=') (by decide)
  simp only [assignment, h.skip_eq uniform_isTagBlank, Assignment.read]
  split
  next hpeek =>
    obtain ⟨assigned, hdrop⟩ := hassigned.mp hpeek
    rw [hdrop] at hsign ⊢
    have hstart := hsign.behind_cons.behind_takeWhile isTagBlank
    have hskip := hsign.behind_cons.skip_eq uniform_isTagBlank
    have hequals : '='.utf8Size = 1 := rfl
    rw [hequals] at hskip hstart
    rw [hskip, hstart.valueEnd_eq, hstart.slice_splitValue]
    simp only [size_append, size_cons, hequals, Nat.add_assoc]
  next hpeek =>
    split
    next assigned hdrop => exact absurd (hassigned.mpr ⟨assigned, hdrop⟩) hpeek
    next => simp

/-- The rest of a tag that is read at the offset. -/
def Tail.ofBody (offset : Nat) (body : TagBody) : Tail :=
  ⟨body.attributes, body.ending, offset + size body.text⟩

theorem Tail.ofBody_prepend (offset : Nat) (text : Text) (body : TagBody) :
    ofBody offset (body.prepend text) = ofBody (offset + size text) body := by
  simp [ofBody, TagBody.prepend, Nat.add_assoc]

theorem LeftAt.skip_start (h : input.LeftAt offset (c :: rest)) (htest : Uniform test)
    (hstop : test c = false) : input.skip test offset = offset := by
  rw [h.skip_eq htest, List.takeWhile_cons_of_neg (by simp [hstop]), size_nil, Nat.add_zero]

/-- A name of an attribute starts with a byte that can start nothing else. -/
theorem LeftAt.exists_peek?_name (h : input.LeftAt offset (c :: rest))
    (hname : TagBody.inName c = true) (hbrace : c ≠ '\x7b') :
    ∃ d, input.peek? offset = some d ∧ d ≠ '>' ∧ d ≠ '/' ∧ d ≠ '<' ∧ d ≠ '\x7b' := by
  have hnot (d : Char) (hd : TagBody.inName d = true) : d ≠ '>' ∧ d ≠ '/' ∧ d ≠ '<' := by
    refine ⟨?_, ?_, ?_⟩ <;> rintro rfl <;> exact absurd hd (by decide)
  rcases Nat.lt_or_ge c.toNat 128 with hc | hc
  · obtain ⟨hbracket, hslash, hless⟩ := hnot c hname
    exact ⟨c, h.peek?_cons hc, hbracket, hslash, hless, hbrace⟩
  · obtain ⟨d, hpeek, hd⟩ := h.exists_peek?_start hc
    obtain ⟨hbracket, hslash, hless⟩ := hnot d (tagBodyInName_eq_true hd)
    exact ⟨d, hpeek, hbracket, hslash, hless, ne_of_le_toNat hd (by decide)⟩

theorem LeftAt.tagTail_name (h : input.LeftAt offset (c :: rest))
    (hname : TagBody.inName c = true) (hbrace : c ≠ '\x7b') (found : List Attribute) :
    let name := c :: rest.takeWhile TagBody.inName
    let value := Assignment.read (rest.dropWhile TagBody.inName)
    input.tagTail found offset =
      input.tagTail (setAttribute found ⟨name, value.value⟩) (offset + size (name ++ value.text)) ∧
    input.LeftAt (offset + size (name ++ value.text)) value.rest := by
  intro name value
  have hwhole : (c :: rest).takeWhile TagBody.inName = name := List.takeWhile_cons_of_pos hname
  have hbehind : input.LeftAt (offset + size name) (rest.dropWhile TagBody.inName) := by
    have htake := h.behind_takeWhile TagBody.inName
    rwa [hwhole, List.dropWhile_cons_of_pos hname] at htake
  have hblank : isTagBlank c = false := by
    by_contra hblank
    simp [TagBody.inName, hblank] at hname
  have hhere := h.skip_start uniform_isTagBlank hblank
  have hnameEnd : input.skip TagBody.inName offset = offset + size name := by
    rw [h.skip_eq uniform_tagBodyInName, hwhole]
  have hnonempty : offset + size name ≠ offset := by
    have hpos := c.utf8Size_pos
    rw [size_cons]
    omega
  have hslice : input.slice offset (offset + size name) = name := by
    have htake := h.slice_takeWhile TagBody.inName
    rwa [hwhole] at htake
  obtain ⟨d, hpeek, hbracket, hslash, hless, hbrace'⟩ := h.exists_peek?_name hname hbrace
  constructor
  · rw [tagTail_of_peek? (by rwa [hhere])]
    simp only [hhere, hnameEnd, hslice, hbehind.assignment_eq, if_neg hbracket, if_neg hslash,
      if_neg hless, if_neg hbrace', if_neg hnonempty, size_append, Nat.add_assoc, value]
  · rw [size_append, ← Nat.add_assoc]
    apply behind
    rwa [Assignment.text_append_rest]

/-- A character that starts nothing is passed over. -/
theorem LeftAt.tagTail_pass (h : input.LeftAt offset (c :: rest))
    (hbracket : c ≠ '>') (hslash : c = '/' → ∀ more, rest ≠ '>' :: more) (hless : c ≠ '<')
    (hbrace : c ≠ '\x7b') (hname : TagBody.inName c = false) (found : List Attribute) :
    input.tagTail found offset = input.tagTail found (offset + c.utf8Size) := by
  have hc : c.toNat < 128 := by
    by_contra hwide
    rw [tagBodyInName_eq_true (Nat.le_of_not_lt hwide)] at hname
    cases hname
  have hpeek := h.peek?_cons hc
  obtain ⟨-, hsize, -⟩ := utf8EncodeChar_of_lt hc
  have hbehind := h.behind_cons
  rw [hsize] at hbehind ⊢
  by_cases hblank : isTagBlank c = true
  · apply tagTail_congr
    rw [skip_of_peek? hpeek, if_pos hblank]
  · have hhere := h.skip_start uniform_isTagBlank (Bool.eq_false_of_not_eq_true hblank)
    rw [tagTail_of_peek? (by rwa [hhere])]
    simp only [hhere, if_neg hbracket, if_neg hless, if_neg hbrace,
      h.skip_start uniform_tagBodyInName hname, if_true]
    by_cases hc : c = '/'
    · have hnext : input.peek? (offset + 1) ≠ some '>' := by
        intro hnext
        obtain ⟨more, hmore⟩ := (hbehind.peek?_eq_some_iff (by decide)).mp hnext
        exact hslash hc more hmore
      rw [if_pos hc, if_neg hnext]
    · rw [if_neg hc]

/-- The attributes are those of the text behind the offset. -/
theorem LeftAt.tagTail_eq (h : input.LeftAt offset rest) (found : List Attribute) :
    input.tagTail found offset = .ofBody offset (TagBody.read found rest) := by
  fun_induction TagBody.read found rest generalizing offset
  case case1 found =>
    have hhere : input.skip isTagBlank offset = offset := skip_of_peek?_eq_none h.peek?_nil _
    rw [tagTail_of_peek?_eq_none (by rw [hhere, h.peek?_nil]), hhere]
    rfl
  case case2 found rest =>
    have hhere := h.skip_start uniform_isTagBlank (by decide)
    rw [tagTail_of_peek? (by rw [hhere, h.peek?_cons (by decide)]), hhere]
    rfl
  case case3 found rest =>
    have hhere := h.skip_start uniform_isTagBlank (by decide)
    have hnext : input.peek? (offset + 1) = some '>' := h.behind_cons.peek?_cons (by decide)
    rw [tagTail_of_peek? (by rw [hhere, h.peek?_cons (by decide)])]
    simp only [hhere, hnext]
    rfl
  case case4 found rest =>
    have hhere := h.skip_start uniform_isTagBlank (by decide)
    rw [tagTail_of_peek? (by rw [hhere, h.peek?_cons (by decide)]), hhere]
    rfl
  case case5 found rest group _ _ _ ih =>
    have hhere := h.skip_start uniform_isTagBlank (by decide)
    have hsplit : '\x7b' :: rest = ('\x7b' :: group.1) ++ group.2 := by
      simp [group, splitGroup_append]
    have hslice : input.slice offset (offset + size ('\x7b' :: group.1)) = '\x7b' :: group.1 := by
      rw [hsplit] at h
      exact h.slice_eq
    have hbehind : input.LeftAt (offset + size ('\x7b' :: group.1)) group.2 := by
      rw [hsplit] at h
      exact h.behind
    rw [tagTail_of_peek? (by rw [hhere, h.peek?_cons (by decide)]), Tail.ofBody_prepend,
      ← ih hbehind]
    simp only [hhere, h.groupEnd_eq]
    rw [hslice]
    rfl
  case case6 found c rest _ _ _ hbrace hname name value ih =>
    obtain ⟨hread, hbehind⟩ := h.tagTail_name hname hbrace found
    rw [Tail.ofBody_prepend, hread]
    exact ih hbehind
  case case7 found c rest hbracket hslash hless hbrace hname ih =>
    rw [Tail.ofBody_prepend, h.tagTail_pass hbracket (fun hc more hmore => hslash more hc hmore)
      hless hbrace (Bool.eq_false_of_not_eq_true hname)]
    exact ih h.behind_cons

end Input

/-- A tag that is not terminated has used up the input. -/
theorem TagBody.rest_eq_nil (attributes : List Attribute) (input : Text)
    (h : (read attributes input).ending = .inputEnd) : (read attributes input).rest = [] := by
  fun_induction read attributes input with
  | case1 => rfl
  | case2 => cases h
  | case3 => cases h
  | case4 => cases h
  | case5 attributes rest group _ _ _ ih => exact ih h
  | case6 attributes c rest _ _ _ hbrace hname name assignment ih => exact ih h
  | case7 attributes c rest _ _ _ hbrace hname ih => exact ih h

theorem isVoidTag_eq_false_of_isRawTag {name : Text} (h : isRawTag name = true) :
    isVoidTag name = false := by
  simp only [isRawTag, equalsIgnoringCase, Bool.or_eq_true, beq_iff_eq] at h
  rw [isVoidTag]
  rcases h with h | h <;> rw [h] <;> decide

theorem lower_lower (text : Text) : lower (lower text) = lower text := by
  rw [lower, lower, List.map_map]
  apply List.map_congr_left
  intro c _
  exact Char.toLower_toLower_eq_toLower c

theorem cutIgnoringCase?_lower (needle text : Text) :
    cutIgnoringCase? (lower needle) text = cutIgnoringCase? needle text := by
  have hlower : startsIgnoringCase (lower needle) = startsIgnoringCase needle := by
    funext part
    rw [Bool.eq_iff_iff, startsIgnoringCase_iff, startsIgnoringCase_iff, lower_lower]
  rw [cutIgnoringCase?, cutIgnoringCase?, hlower]

/-! ### Tokens -/

namespace Reader

variable {input : Input} {offset : Nat} {rest body : Text} {c : Char}

/-- The reader behind a token that it took in at an offset. -/
def behind (builder : Builder) (offset : Nat) (token : Token) : Reader :=
  ⟨offset + size token.source, builder.add offset token⟩

theorem readText_eq (h : input.LeftAt offset (c :: rest)) (builder : Builder) :
    readText input ⟨offset, builder⟩ = behind builder offset (Token.readText c rest).1 := by
  have hless (d : Char) (hd : 128 ≤ d.toNat) : (d != '<') = true :=
    bne_iff_ne.mpr (ne_of_le_toNat hd (by decide))
  have htest : Uniform (· != '<') := fun c d hc hd => (hless c hc).trans (hless d hd).symm
  have hstop : input.skip (· != '<') (offset + 1) =
      offset + size (c :: rest.takeWhile (· != '<')) := by
    have hbehind := h.behind_cons.skip_eq htest
    rw [size_cons, ← Nat.add_assoc, ← hbehind]
    rcases Nat.lt_or_ge c.toNat 128 with hc | hc
    · rw [(utf8EncodeChar_of_lt hc).2.1]
    · refine h.pass (f := input.skip (· != '<')) hc ?_ c.utf8Size_pos
      intro place d hpeek hd
      rw [Input.skip_of_peek? hpeek, if_pos (hless d hd)]
  have hslice : input.slice offset (offset + size (c :: rest.takeWhile (· != '<'))) =
      c :: rest.takeWhile (· != '<') := by
    have hsplit : c :: rest = (c :: rest.takeWhile (· != '<')) ++ rest.dropWhile (· != '<') := by
      rw [List.cons_append, List.takeWhile_append_dropWhile]
    rw [hsplit] at h
    exact h.slice_eq
  simp only [readText, hstop, hslice]
  rfl

theorem readComment_eq (h : input.LeftAt offset (['<', '!', '-', '-'] ++ body))
    (builder : Builder) :
    readComment input ⟨offset, builder⟩ = behind builder offset (Token.readComment body).1 := by
  have hbody : input.LeftAt (offset + 4) body := h.behind
  simp only [readComment, hbody.find?_eq, Token.readComment]
  cases hcut : cut? ['-', '-', '>'] body with
  | none =>
    have hlength : input.length = offset + size (['<', '!', '-', '-'] ++ body) := h.length_eq
    simp only [Option.map_none, hlength]
    rfl
  | some halves =>
    obtain ⟨inner, following⟩ := halves
    obtain rfl := cutWhere?_append hcut
    rw [cut?, cutWhere?_append_eq_some_iff, List.isPrefixOf_iff_prefix] at hcut
    obtain ⟨⟨more, rfl⟩, -⟩ := hcut
    have hsize : offset + 4 + size inner + 3 =
        offset + size (['<', '!', '-', '-'] ++ inner ++ ['-', '-', '>']) := by
      rw [size_append, size_append, ← Nat.add_assoc, ← Nat.add_assoc]
      rfl
    simp only [Option.map_some, hsize]
    rfl

theorem readDeclaration_eq (h : input.LeftAt offset (['<', '!'] ++ body)) (builder : Builder) :
    readDeclaration input ⟨offset, builder⟩ =
      behind builder offset (Token.readDeclaration body).1 := by
  have hthrough : (splitThrough '>' (['<', '!'] ++ body)).1 =
      ['<', '!'] ++ (splitThrough '>' body).1 := by
    simp [splitThrough]
  simp only [readDeclaration, h.through_eq (by decide : '>'.toNat < 128), hthrough]
  rfl

theorem inName_eq_true {c : Char} (hc : 128 ≤ c.toNat) : StartTag.inName c = true := by
  simp only [StartTag.inName, isTagBlank_eq_false hc, Bool.false_or, Bool.not_eq_true',
    Bool.or_eq_false_iff, beq_eq_false_iff_ne]
  refine ⟨⟨?_, ?_⟩, ?_⟩ <;> exact ne_of_le_toNat hc (by decide)

theorem uniform_inName : Uniform StartTag.inName :=
  fun _ _ hc hd => (inName_eq_true hc).trans (inName_eq_true hd).symm

theorem readEndTag_eq (h : input.LeftAt offset (['<', '/'] ++ body)) (builder : Builder) :
    readEndTag input ⟨offset, builder⟩ = behind builder offset (Token.readEndTag body).1 := by
  have hbody : input.LeftAt (offset + 2) body := h.behind
  have hbehind := hbody.behind_takeWhile StartTag.inName
  have hstop : offset + 2 + size (body.takeWhile StartTag.inName) +
      size (splitThrough '>' (body.dropWhile StartTag.inName)).1 =
        offset + size (['<', '/'] ++ body.takeWhile StartTag.inName ++
          (splitThrough '>' (body.dropWhile StartTag.inName)).1) := by
    rw [size_append, size_append, ← Nat.add_assoc, ← Nat.add_assoc]
    rfl
  simp only [readEndTag, hbody.skip_eq uniform_inName, hbody.slice_takeWhile,
    hbehind.through_eq (by decide : '>'.toNat < 128), hstop]
  rfl

theorem ite_lt_size (inner : Nat) (content : Text) :
    (if inner < inner + size content then [Node.text ⟨inner, inner + size content⟩] else []) =
      if content.isEmpty then [] else [Node.text ⟨inner, inner + size content⟩] := by
  cases content with
  | nil => simp
  | cons c content =>
    have hlt : inner < inner + size (c :: content) :=
      Nat.lt_add_of_pos_right (size_pos_iff.mpr (List.cons_ne_nil _ _))
    rw [if_pos hlt]
    rfl

/-- The element with the plain content that was found, with or without a closing tag. -/
theorem readRaw_eq {tag : StartTag} {head : Element}
    (h : input.LeftAt (offset + size tag.text) rest) (builder : Builder)
    (hhead : head = ⟨tag.name, tag.attributes, ⟨offset, offset + size tag.text⟩,
      some (offset + size tag.text), none, true, false⟩) :
    readRaw input ⟨offset, builder⟩ head (offset + size tag.text) =
      behind builder offset (Token.readRaw tag rest).1 := by
  subst hhead
  have hneedle : ['<', '/'] ++ lower tag.name = lower (['<', '/'] ++ tag.name) := rfl
  simp only [readRaw, hneedle, h.findIgnoringCase?_eq, cutIgnoringCase?_lower, Token.readRaw]
  cases hcut : cutIgnoringCase? (['<', '/'] ++ tag.name) rest with
  | none =>
    have hstop : input.length = offset + size (tag.text ++ rest ++ []) := by
      rw [h.length_eq, List.append_nil, size_append, Nat.add_assoc]
    simp only [Option.map_none, Option.getD_none, Option.isSome_none, h.length_eq, ite_lt_size]
    rw [h.length_eq] at hstop
    simp [behind, Token.source, Builder.add, Builder.rawElement, hstop]
  | some halves =>
    obtain ⟨content, following⟩ := halves
    obtain rfl := cutWhere?_append hcut
    have hbehind : input.LeftAt (offset + size tag.text + size content) following := h.behind
    simp only [Option.map_some, Option.getD_some, Option.isSome_some, ite_lt_size,
      hbehind.through_eq (by decide : '>'.toNat < 128)]
    simp [behind, Token.source, Builder.add, Builder.rawElement, Nat.add_assoc]

/-- The attributes and the end of an opening tag, read behind its name. -/
theorem tagTail_name_eq (h : input.LeftAt offset ('<' :: body)) :
    input.tagTail [] (offset + 1 + size (body.takeWhile StartTag.inName)) =
      ⟨(StartTag.read body).1.attributes, (StartTag.read body).1.ending,
        offset + size (StartTag.read body).1.text⟩ := by
  have hbody : input.LeftAt (offset + 1) body := h.behind_cons
  have hstop : offset + 1 + size (body.takeWhile StartTag.inName) +
      size (TagBody.read [] (body.dropWhile StartTag.inName)).text =
        offset + size (StartTag.read body).1.text := by
    simp only [StartTag.read, List.cons_append, size_cons, size_append, ← Nat.add_assoc]
    rfl
  rw [(hbody.behind_takeWhile StartTag.inName).tagTail_eq, ← hstop]
  rfl

theorem readStartTag_eq (h : input.LeftAt offset ('<' :: body)) (builder : Builder) :
    readStartTag input ⟨offset, builder⟩ = behind builder offset (Token.readStartTag body).1 := by
  have hbody : input.LeftAt (offset + 1) body := h.behind_cons
  have hleft : input.LeftAt (offset + size (StartTag.read body).1.text) (StartTag.read body).2 := by
    rw [← StartTag.text_append_rest] at h
    exact h.behind
  have hname : body.takeWhile StartTag.inName = (StartTag.read body).1.name := rfl
  have hend (hending : (StartTag.read body).1.ending = .inputEnd) :
      input.length = offset + size (StartTag.read body).1.text := by
    have hnil : (StartTag.read body).2 = [] := TagBody.rest_eq_nil _ _ hending
    rw [hleft.length_eq, hnil, size_nil, Nat.add_zero]
  simp only [readStartTag, hbody.skip_eq uniform_inName, hbody.slice_takeWhile, tagTail_name_eq h,
    Token.readStartTag]
  rw [hname]
  generalize StartTag.read body = read at *
  obtain ⟨tag, rest⟩ := read
  simp only at *
  by_cases hending : tag.ending = .inputEnd
  · simp [hending, hend hending, behind, Token.source, Builder.add, Builder.leaf,
      StartTag.opensRaw, StartTag.terminated, StartTag.selfClosing]
  have hterminated : tag.terminated = true := by simp [StartTag.terminated, hending]
  by_cases hslash : tag.ending = .slash
  · simp [hslash, hterminated, behind, Token.source, Builder.add, Builder.leaf,
      StartTag.opensRaw, StartTag.selfClosing]
  by_cases hraw : isRawTag tag.name = true
  · have hopens : tag.opensRaw = true := by
      simp [StartTag.opensRaw, StartTag.selfClosing, hraw, hterminated, hslash]
    simp only [hending, isVoidTag_eq_false_of_isRawTag hraw, hraw, hopens, if_true, if_false,
      Bool.or_false, beq_eq_false_iff_ne.mpr hslash, Bool.false_eq_true]
    exact readRaw_eq hleft builder rfl
  · have hopens : tag.opensRaw = false := by simp [StartTag.opensRaw, hraw]
    by_cases hvoid : isVoidTag tag.name = true <;>
      simp [hending, hslash, hvoid, hraw, hopens, hterminated, behind, Token.source, Builder.add,
        Builder.leaf, StartTag.selfClosing]

theorem step_of_mark (h : input.LeftAt offset ('<' :: rest)) (builder : Builder) :
    let reader : Reader := ⟨offset, builder⟩
    reader.step input =
      if ['!', '-', '-'].isPrefixOf rest then reader.readComment input
      else if ['/'].isPrefixOf rest && (rest.drop 1).head?.any Char.isAlpha then
        reader.readEndTag input
      else if ['!'].isPrefixOf rest then reader.readDeclaration input
      else if rest.head?.any Char.isAlpha then reader.readStartTag input
      else reader.readText input := by
  have hnext : input.LeftAt (offset + 1) rest := h.behind_cons
  have hend : (['/'].isPrefixOf rest && input.isAlphaAt (offset + 2)) =
      (['/'].isPrefixOf rest && (rest.drop 1).head?.any Char.isAlpha) := by
    cases hslash : ['/'].isPrefixOf rest with
    | false => rfl
    | true =>
      obtain ⟨more, rfl⟩ := List.isPrefixOf_iff_prefix.mp hslash
      have hname : input.LeftAt (offset + 2) more := hnext.behind_cons
      rw [hname.isAlphaAt_eq]
      rfl
  simp only [step, h.peek?_cons (by decide : '<'.toNat < 128), if_true, h.startsWith_eq,
    hnext.isAlphaAt_eq, List.isPrefixOf_cons_cons_self, hend]

/-- A step takes in the token that stands at the reader's offset. -/
theorem step_eq (h : input.LeftAt offset (c :: rest)) (builder : Builder) :
    step input ⟨offset, builder⟩ = behind builder offset (Token.readNext c rest).1 := by
  have htext := readText_eq h builder
  fun_cases Token.readNext c rest
  case case1 hc body =>
    subst hc
    simp only [step_of_mark h, List.isPrefixOf, BEq.rfl, Bool.and_true, if_true]
    exact readComment_eq h builder
  case case2 hc body hopen =>
    subst hc
    have hcomment : ['!', '-', '-'].isPrefixOf ('!' :: body) = false := by
      rw [Bool.eq_false_iff, ne_eq, List.isPrefixOf_iff_prefix]
      rintro ⟨more, hmore⟩
      exact hopen more (List.cons.inj hmore).2.symm
    simp only [step_of_mark h, hcomment]
    exact readDeclaration_eq h builder
  case case3 hc a body ha =>
    subst hc
    simp only [step_of_mark h, List.isPrefixOf, List.drop, List.head?, Option.any, ha]
    exact readEndTag_eq h builder
  case case4 hc a body ha =>
    subst hc
    simp only [step_of_mark h, List.isPrefixOf, List.drop, List.head?, Option.any, ha]
    exact htext
  case case5 hc a body _ hmark hslash ha =>
    subst hc
    have hend : a ≠ '/' := by rintro rfl; exact absurd ha (by decide)
    simp only [step_of_mark h, List.isPrefixOf, List.drop, List.head?, Option.any, ha,
      beq_false_of_ne (Ne.symm hmark), beq_false_of_ne (Ne.symm hend)]
    exact readStartTag_eq h builder
  case case6 hc a body _ hmark hslash ha =>
    subst hc
    have hend : (['/'].isPrefixOf (a :: body) && ((a :: body).drop 1).head?.any Char.isAlpha) =
        false := by
      cases body with
      | nil => simp
      | cons b body =>
        have hne : a ≠ '/' := fun heq => hslash b body heq rfl
        simp [List.isPrefixOf, Ne.symm hne]
    rw [step_of_mark h, hend]
    simp only [List.isPrefixOf, List.head?, Option.any, ha, beq_false_of_ne (Ne.symm hmark)]
    exact htext
  case case7 hc =>
    subst hc
    rw [step_of_mark h]
    exact htext
  case case8 hc =>
    have hpeek : input.peek? offset ≠ some '<' := by
      intro hpeek
      obtain ⟨more, hmore⟩ := (h.peek?_eq_some_iff (by decide)).mp hpeek
      exact hc (List.cons.inj hmore).1
    rw [step, if_neg hpeek, htext]

/-- Running on takes in all tokens of the text that is left. -/
theorem run_eq (h : input.LeftAt offset rest) (builder : Builder) :
    run input ⟨offset, builder⟩ =
      ⟨offset + size rest, builder.addAll offset (Token.scan rest)⟩ := by
  fun_induction Token.scan rest generalizing offset builder
  case case1 =>
    have hlength : input.length = offset := by simpa using h.length_eq
    rw [run, if_neg (by simp [hlength])]
    rfl
  case case2 c rest next ih =>
    have hsplit : next.1.source ++ next.2 = c :: rest := Token.readNext_append c rest
    have hlt : offset < input.length := by
      rw [h.length_eq]
      exact Nat.lt_add_of_pos_right (size_pos_iff.mpr (List.cons_ne_nil _ _))
    rw [← hsplit] at h
    rw [run, if_pos hlt, step_eq (hsplit ▸ h), behind, ih h.behind, ← hsplit, size_append,
      Nat.add_assoc]
    rfl

end Reader

/-- The tree of a document is that of the text behind its start, moved to where that text stands. -/
theorem Tree.parse_eq_ofMarkup (text : Text) (start : Nat) :
    parse text start =
      ofMarkup (text.floorBoundary start) (text.dropBytes (text.floorBoundary start)) := by
  have hleft : (Input.of text).LeftAt (text.floorBoundary start)
      (text.dropBytes (text.floorBoundary start)) := by
    obtain ⟨before, after, htext, hsize⟩ := isBoundary_floorBoundary text start
    refine ⟨before, ?_, hsize⟩
    rw [← hsize, htext, dropBytes_append_size]
    rfl
  simp only [parse, Reader.run_eq hleft, hleft.length_eq]
  rfl

end ComponentServer.Markup
