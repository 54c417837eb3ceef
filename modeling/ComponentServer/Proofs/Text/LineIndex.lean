import ComponentServer.Proofs.Text.Stretch
import ComponentServer.Text.LineIndex

/-!
# The line index looks up what a walk finds

The table of line starts is in ascending order, so halving finds the one line that starts at or in
front of an offset and ends behind it. Cut around that line, the text shows what was counted: the
newlines in front of the line, and the width of what stands on it. So a position is reached by
walking over the characters in front of an offset, and an offset by walking along the line of a
position.
-/

namespace ComponentServer

/-! ### Searching a table -/

/-- What a search says about the place it found, or about the place between two items. -/
def SearchedAt (table : Array Nat) (value : Nat) : Except Nat Nat → Prop
  | .ok place => table[place]? = some value
  | .error place => place ≤ table.size ∧
      (∀ before item, before < place → table[before]? = some item → item < value) ∧
      ∀ behind item, place ≤ behind → table[behind]? = some item → value < item

def Ascending (table : Array Nat) : Prop :=
  ∀ (first second item item' : Nat), first < second → table[first]? = some item →
    table[second]? = some item' → item < item'

theorem searchedAt_binarySearch {table : Array Nat} {value low high : Nat}
    {hhigh : high ≤ table.size} (hascending : Ascending table) (hle : low ≤ high)
    (hbefore : ∀ before item, before < low → table[before]? = some item → item < value)
    (hbehind : ∀ behind item, high ≤ behind → table[behind]? = some item → value < item) :
    SearchedAt table value (binarySearch table value low high hhigh) := by
  fun_induction binarySearch table value low high hhigh
  case case1 low high hhigh hlt middle hmiddle heq =>
    exact (Array.getElem?_eq_getElem hmiddle).trans (congrArg some heq)
  case case2 low high hhigh hlt middle hmiddle hne hless ih =>
    have hmiddleLe : middle + 1 ≤ high := by omega
    refine ih hmiddleLe ?_ hbehind
    intro before item hlt' hitem
    rcases Nat.lt_or_eq_of_le (Nat.le_of_lt_succ hlt') with hlt' | rfl
    · exact Nat.lt_trans
        (hascending _ _ _ _ hlt' hitem (Array.getElem?_eq_getElem hmiddle)) hless
    · rw [Array.getElem?_eq_getElem hmiddle, Option.some.injEq] at hitem
      exact hitem ▸ hless
  case case3 low high hhigh hlt middle hmiddle hne hless ih =>
    have hgreater : value < table[middle] := by omega
    refine ih (by omega) hbefore ?_
    intro behind item hle' hitem
    rcases Nat.lt_or_eq_of_le hle' with hlt' | rfl
    · exact Nat.lt_trans hgreater
        (hascending _ _ _ _ hlt' (Array.getElem?_eq_getElem hmiddle) hitem)
    · rw [Array.getElem?_eq_getElem hmiddle, Option.some.injEq] at hitem
      exact hitem ▸ hgreater
  case case4 low high hhigh hlt =>
    have heq : low = high := by omega
    exact ⟨by omega, hbefore, fun behind item hle' => hbehind behind item (heq ▸ hle')⟩

/-! ### The table of line starts -/

theorem lt_of_mem_newlineStops {place : Nat} {bytes : List UInt8} :
    ∀ stop ∈ newlineStops place bytes, place < stop := by
  induction bytes generalizing place with
  | nil => simp [newlineStops]
  | cons byte rest ih =>
    intro stop hmem
    rw [newlineStops] at hmem
    split at hmem
    · rcases List.mem_cons.mp hmem with rfl | hmem
      · exact Nat.lt_succ_self _
      · exact Nat.lt_of_succ_lt (ih stop hmem)
    · exact Nat.lt_of_succ_lt (ih stop hmem)

theorem pairwise_newlineStops (place : Nat) (bytes : List UInt8) :
    (newlineStops place bytes).Pairwise (· < ·) := by
  induction bytes generalizing place with
  | nil => exact List.Pairwise.nil
  | cons byte rest ih =>
    rw [newlineStops]
    split
    · exact List.pairwise_cons.mpr ⟨lt_of_mem_newlineStops, ih _⟩
    · exact ih _

theorem newlineStops_add (place amount : Nat) (bytes : List UInt8) :
    newlineStops (amount + place) bytes = (newlineStops place bytes).map (amount + ·) := by
  induction bytes generalizing place with
  | nil => rfl
  | cons byte rest ih =>
    rw [newlineStops, newlineStops, Nat.add_assoc, ih]
    split <;> rfl

theorem newlineStops_append_of_wide {place : Nat} {bytes : List UInt8}
    (h : ∀ byte ∈ bytes, 128 ≤ byte.toNat) (more : List UInt8) :
    newlineStops place (bytes ++ more) = newlineStops (place + bytes.length) more := by
  induction bytes generalizing place with
  | nil => rfl
  | cons byte rest ih =>
    have hne : byte ≠ 10 := by
      rintro rfl
      exact absurd (h 10 List.mem_cons_self) (by decide)
    rw [List.cons_append, newlineStops, if_neg hne,
      ih fun other hother => h other (List.mem_cons_of_mem _ hother), List.length_cons,
      Nat.add_assoc, Nat.add_comm 1]

namespace Text

/-- Only the newline itself is written with the byte of a newline. -/
theorem newlineStops_utf8_cons (place : Nat) (c : Char) (rest : Text) :
    newlineStops place (utf8 (c :: rest)) =
      (if c = '\n' then [place + 1] else []) ++ newlineStops (place + c.utf8Size) (utf8 rest) := by
  rw [utf8, List.flatMap_cons]
  rcases Nat.lt_or_ge c.toNat 128 with hc | hc
  · obtain ⟨hbytes, hsize, hchar⟩ := utf8EncodeChar_of_lt hc
    have hnewline : c.val.toUInt8 = 10 ↔ c = '\n' := by
      constructor
      · intro hbyte
        rw [← hchar, hbyte]
        rfl
      · rintro rfl
        rfl
    rw [hbytes, hsize, List.singleton_append, newlineStops]
    by_cases hmark : c = '\n'
    · rw [if_pos (hnewline.mpr hmark), if_pos hmark]
      rfl
    · rw [if_neg fun hbyte => hmark (hnewline.mp hbyte), if_neg hmark]
      rfl
  · have hmark : c ≠ '\n' := by
      rintro rfl
      exact absurd hc (by decide)
    rw [newlineStops_append_of_wide (le_toNat_of_mem_utf8EncodeChar hc),
      String.length_utf8EncodeChar, if_neg hmark]
    rfl

theorem lineStart?_eq_getElem? (text : Text) (line : Nat) :
    lineStart? text line = (0 :: newlineStops 0 (utf8 text))[line]? :=
  List.getElem?_toArray

@[simp]
theorem lineStart?_zero (text : Text) : lineStart? text 0 = some 0 := by
  rw [lineStart?_eq_getElem?]
  rfl

@[simp]
theorem lineStart?_nil_succ (line : Nat) : lineStart? [] (line + 1) = none := by
  rw [lineStart?_eq_getElem?]
  rfl

theorem lineStart?_cons_succ (c : Char) (rest : Text) (line : Nat) :
    lineStart? (c :: rest) (line + 1) =
      (lineStart? rest (if c = '\n' then line else line + 1)).map (c.utf8Size + ·) := by
  have hshift : newlineStops c.utf8Size (utf8 rest) =
      (newlineStops 0 (utf8 rest)).map (c.utf8Size + ·) := newlineStops_add 0 c.utf8Size _
  rw [lineStart?_eq_getElem?, lineStart?_eq_getElem?, List.getElem?_cons_succ,
    newlineStops_utf8_cons, Nat.zero_add c.utf8Size, hshift]
  by_cases hc : c = '\n'
  · subst hc
    rw [if_pos rfl, if_pos rfl, ← List.getElem?_map]
    rfl
  · rw [if_neg hc, if_neg hc, List.getElem?_cons_succ, List.nil_append, List.getElem?_map]

theorem lineStart?_eq_none_iff {text : Text} {line : Nat} :
    lineStart? text line = none ↔ lineCount text ≤ line :=
  Array.getElem?_eq_none_iff

theorem lineCount_eq (text : Text) : lineCount text = text.count '\n' + 1 := by
  have hlength : ∀ place, (newlineStops place (utf8 text)).length = text.count '\n' := by
    induction text with
    | nil => exact fun _ => rfl
    | cons c rest ih =>
      intro place
      rw [newlineStops_utf8_cons, List.length_append, ih]
      by_cases hc : c = '\n'
      · rw [if_pos hc, hc, List.count_cons_self, List.length_singleton, Nat.add_comm]
      · rw [if_neg hc, List.count_cons_of_ne hc, List.length_nil, Nat.zero_add]
  have hsize : lineCount text = (newlineStops 0 (utf8 text)).length + 1 := rfl
  rw [hsize, hlength]

theorem ascending_starts (text : Text) : Ascending (LineIndex.of text).starts := by
  have hpairwise : (0 :: newlineStops 0 (utf8 text)).Pairwise (· < ·) :=
    List.pairwise_cons.mpr ⟨lt_of_mem_newlineStops, pairwise_newlineStops 0 _⟩
  intro first second item item' hlt hitem hitem'
  obtain ⟨hfirst, rfl⟩ := Array.getElem?_eq_some_iff.mp hitem
  obtain ⟨hsecond, rfl⟩ := Array.getElem?_eq_some_iff.mp hitem'
  exact List.pairwise_iff_getElem.mp hpairwise first second hfirst hsecond hlt

/-- The line of an offset starts at it or in front of it, and the next one behind it. -/
theorem exists_lineStart?_lineOf (text : Text) (offset : Nat) :
    ∃ start, lineStart? text ((LineIndex.of text).lineOf offset) = some start ∧ start ≤ offset ∧
      ∀ next, lineStart? text ((LineIndex.of text).lineOf offset + 1) = some next →
        offset < next := by
  have hascending := ascending_starts text
  have hsearched := @searchedAt_binarySearch _ offset 0 _ (Nat.le_refl _) hascending
    (Nat.zero_le _) (fun _ _ h => absurd h (Nat.not_lt_zero _))
    (fun behind item hle hitem => by
      obtain ⟨hlt, -⟩ := Array.getElem?_eq_some_iff.mp hitem
      exact absurd hlt (Nat.not_lt.mpr hle))
  rw [LineIndex.lineOf]
  cases hsearch : binarySearch (LineIndex.of text).starts offset 0
      (LineIndex.of text).starts.size (Nat.le_refl _) with
  | ok line =>
    rw [hsearch] at hsearched
    exact ⟨offset, hsearched, Nat.le_refl _, fun next hnext =>
      hascending _ _ _ _ (Nat.lt_succ_self line) hsearched hnext⟩
  | error line =>
    rw [hsearch] at hsearched
    obtain ⟨hle, hbefore, hbehind⟩ := hsearched
    have hline : line ≠ 0 := by
      rintro rfl
      exact absurd (hbehind 0 0 (Nat.le_refl _) (lineStart?_zero text)) (Nat.not_lt_zero _)
    obtain ⟨line, rfl⟩ := Nat.exists_eq_succ_of_ne_zero hline
    have hstart := Array.getElem?_eq_getElem (Nat.lt_of_succ_le hle)
    exact ⟨_, hstart, Nat.le_of_lt (hbefore line _ (Nat.lt_succ_self line) hstart),
      fun next hnext => hbehind _ next (Nat.le_refl _) hnext⟩

/-! ### Lines -/

def reach (text : Text) : Position := text.foldl Position.after .zero

theorem foldl_after_line (position : Position) (text : Text) :
    (text.foldl Position.after position).line = position.line + text.count '\n' := by
  induction text generalizing position with
  | nil => simp
  | cons c rest ih =>
    rw [List.foldl_cons, ih]
    by_cases hc : c = '\n'
    · simp [hc, Position.after]
      omega
    · simp [hc, Position.after]

theorem foldl_after_of_notMem (position : Position) {text : Text} (h : '\n' ∉ text) :
    text.foldl Position.after position = ⟨position.line, position.column + width text⟩ := by
  induction text generalizing position with
  | nil => simp
  | cons c rest ih =>
    simp only [List.mem_cons, not_or] at h
    rw [List.foldl_cons, ih _ h.2]
    simp [Position.after, Ne.symm h.1, Nat.add_assoc]

/-- Every text is some whole lines and a last line. -/
theorem exists_lastLine (text : Text) :
    ∃ lines last, text = lines ++ last ∧ '\n' ∉ last ∧
      (lines = [] ∨ ∃ front, lines = front ++ ['\n']) := by
  induction text with
  | nil => exact ⟨[], [], rfl, by simp, Or.inl rfl⟩
  | cons c rest ih =>
    obtain ⟨lines, last, rfl, hlast, rfl | ⟨front, rfl⟩⟩ := ih
    · by_cases hc : c = '\n'
      · exact ⟨[c], last, rfl, hlast, Or.inr ⟨[], by rw [hc]; rfl⟩⟩
      · exact ⟨[], c :: last, rfl, by simp [hlast, Ne.symm hc], Or.inl rfl⟩
    · exact ⟨c :: (front ++ ['\n']), last, rfl, hlast, Or.inr ⟨c :: front, rfl⟩⟩

theorem reach_lines_append {lines last : Text} (hlast : '\n' ∉ last)
    (hlines : lines = [] ∨ ∃ front, lines = front ++ ['\n']) :
    reach (lines ++ last) = ⟨lines.count '\n', width last⟩ := by
  have hline := foldl_after_line .zero lines
  rw [reach, List.foldl_append, foldl_after_of_notMem _ hlast]
  rcases hlines with rfl | ⟨front, rfl⟩
  · simp [Position.zero]
  · rw [hline, List.foldl_append]
    simp [Position.zero, Position.after]

theorem lineStart?_append (front after : Text) :
    lineStart? (front ++ '\n' :: after) (front.count '\n' + 1) = some (size front + 1) := by
  induction front with
  | nil =>
    rw [List.nil_append, List.count_nil, lineStart?_cons_succ, if_pos rfl, lineStart?_zero]
    rfl
  | cons c rest ih =>
    have hline : (if c = '\n' then (c :: rest).count '\n' else (c :: rest).count '\n' + 1) =
        rest.count '\n' + 1 := by
      by_cases hc : c = '\n' <;> simp [hc]
    rw [List.cons_append, lineStart?_cons_succ, hline, ih, Option.map_some, size_cons,
      Nat.add_assoc]

theorem lineStart?_lines_append {lines : Text}
    (hlines : lines = [] ∨ ∃ front, lines = front ++ ['\n']) (after : Text) :
    lineStart? (lines ++ after) (lines.count '\n') = some (size lines) := by
  rcases hlines with rfl | ⟨front, rfl⟩
  · exact lineStart?_zero after
  · have hnewline : size ['\n'] = 1 := rfl
    simpa only [List.append_assoc, List.singleton_append, List.count_append,
      List.count_singleton_self, size_append, hnewline] using lineStart?_append front after

/-- A text cut around a line: whole lines in front of it, the line without its newline, and what
follows. -/
structure CutsLine (text : Text) (number : Nat) (before line after : Text) : Prop where
  text_eq : text = before ++ line ++ after
  number_eq : before.count '\n' = number
  whole : before = [] ∨ ∃ front, before = front ++ ['\n']
  inside : '\n' ∉ line
  ended : after = [] ∨ ∃ rest, after = '\n' :: rest

theorem exists_cutsLine {text : Text} {number : Nat} (h : number < lineCount text) :
    ∃ before line after, CutsLine text number before line after := by
  induction text generalizing number with
  | nil =>
    obtain rfl : number = 0 := by simpa [lineCount_eq] using h
    exact ⟨[], [], [], rfl, rfl, Or.inl rfl, by simp, Or.inl rfl⟩
  | cons c rest ih =>
    by_cases hc : c = '\n'
    · subst hc
      cases number with
      | zero => exact ⟨[], [], '\n' :: rest, rfl, rfl, Or.inl rfl, by simp, Or.inr ⟨rest, rfl⟩⟩
      | succ number =>
        have hrest : number < lineCount rest := by simpa [lineCount_eq] using h
        obtain ⟨before, line, after, rfl, rfl, hwhole, hinside, hended⟩ := ih hrest
        refine ⟨'\n' :: before, line, after, rfl, by simp, Or.inr ?_, hinside, hended⟩
        rcases hwhole with rfl | ⟨front, rfl⟩
        · exact ⟨[], rfl⟩
        · exact ⟨'\n' :: front, rfl⟩
    · have hrest : number < lineCount rest := by simpa [lineCount_eq, hc] using h
      obtain ⟨before, line, after, rfl, rfl, rfl | ⟨front, rfl⟩, hinside, hended⟩ := ih hrest
      · exact ⟨[], c :: line, after, rfl, rfl, Or.inl rfl, by simp [hinside, Ne.symm hc], hended⟩
      · exact ⟨c :: (front ++ ['\n']), line, after, rfl, by simp [hc],
          Or.inr ⟨c :: front, rfl⟩, hinside, hended⟩

namespace CutsLine

variable {text before line after : Text} {number : Nat}

theorem lineStart?_eq (h : CutsLine text number before line after) :
    lineStart? text number = some (size before) := by
  rw [h.text_eq, ← h.number_eq, List.append_assoc]
  exact lineStart?_lines_append h.whole _

theorem lineStart?_succ (h : CutsLine text number before line ('\n' :: after)) :
    lineStart? text (number + 1) = some (size before + size line + 1) := by
  have hwhole : before ++ line ++ ['\n'] = [] ∨
      ∃ front, before ++ line ++ ['\n'] = front ++ ['\n'] := Or.inr ⟨_, rfl⟩
  have hcount : (before ++ line ++ ['\n']).count '\n' = number + 1 := by
    simp [h.number_eq, List.count_eq_zero_of_not_mem h.inside]
  have hstart := lineStart?_lines_append hwhole after
  rw [hcount, List.append_assoc, List.singleton_append, ← h.text_eq, size_append,
    size_append] at hstart
  exact hstart

theorem lineStart?_succ_eq_none (h : CutsLine text number before line []) :
    lineStart? text (number + 1) = none := by
  rw [lineStart?_eq_none_iff, lineCount_eq, h.text_eq, List.append_nil, List.count_append,
    h.number_eq, List.count_eq_zero_of_not_mem h.inside]

end CutsLine

/-! ### From offsets to positions and back -/

theorem takeBytes_append_of_size_le {front : Text} {count : Nat} (h : count ≤ size front)
    (after : Text) : takeBytes count (front ++ after) = takeBytes count front := by
  induction front generalizing count with
  | nil =>
    obtain rfl : count = 0 := Nat.le_zero.mp h
    rw [takeBytes_zero, takeBytes_zero]
  | cons c rest ih =>
    by_cases hcount : count = 0
    · rw [hcount, takeBytes_zero, takeBytes_zero]
    · rw [size_cons] at h
      rw [List.cons_append, takeBytes_cons hcount, takeBytes_cons hcount, ih (by omega)]

theorem takeBytes_of_size_le {text : Text} {count : Nat} (h : size text ≤ count) :
    takeBytes count text = text := by
  have htake := takeBytes_append_of_le h []
  rw [List.append_nil] at htake
  rw [htake]
  cases count - size text <;> simp [takeBytes]

theorem columnAt_eq_width (offset place : Nat) (text : Text) :
    LineIndex.columnAt offset place text = width (takeBytes (offset - place) text) := by
  induction text generalizing place with
  | nil => cases offset - place <;> rfl
  | cons c rest ih =>
    rw [LineIndex.columnAt]
    split
    next hle => rw [Nat.sub_eq_zero_of_le hle, takeBytes_zero, width_nil]
    next hlt => rw [ih, takeBytes_cons (by omega), width_cons, Nat.sub_sub]

namespace CutsLine

variable {text before line after : Text} {number offset : Nat}

/-- From an offset on the line, only the line itself is left to go. -/
theorem reach_takeBytes (h : CutsLine text number before line after)
    (hstart : size before ≤ offset) (hstop : offset - size before ≤ size line) :
    reach (takeBytes offset text) = ⟨number, width (takeBytes (offset - size before) line)⟩ := by
  have hinside : '\n' ∉ takeBytes (offset - size before) line := by
    intro hmem
    apply h.inside
    rw [← takeBytes_append_dropBytes (offset - size before) line]
    exact List.mem_append_left _ hmem
  rw [h.text_eq, List.append_assoc, takeBytes_append_of_le hstart,
    takeBytes_append_of_size_le hstop, reach_lines_append hinside h.whole, h.number_eq]

end CutsLine

/-- The position of an offset is reached over the characters that start before it. -/
theorem positionAt_eq_reach (text : Text) (offset : Nat) :
    positionAt text offset = reach (takeBytes offset text) := by
  have htake : takeBytes offset text = takeBytes (min offset (size text)) text := by
    rcases Nat.le_total offset (size text) with hle | hle
    · rw [Nat.min_eq_left hle]
    · rw [Nat.min_eq_right hle, takeBytes_of_size_le hle, takeBytes_of_size_le (Nat.le_refl _)]
  have hend : min offset (size text) ≤ size text := Nat.min_le_right _ _
  obtain ⟨start, hstart, hle, hnext⟩ := exists_lineStart?_lineOf text (min offset (size text))
  have hposition : positionAt text offset =
      ⟨(LineIndex.of text).lineOf (min offset (size text)),
        LineIndex.columnAt (min offset (size text))
          ((lineStart? text ((LineIndex.of text).lineOf (min offset (size text)))).getD 0)
          (slice text
            ⟨(lineStart? text ((LineIndex.of text).lineOf (min offset (size text)))).getD 0,
              (lineStart? text ((LineIndex.of text).lineOf (min offset (size text)) + 1)).getD
                (size text)⟩)⟩ := rfl
  rw [hposition, htake]
  generalize (LineIndex.of text).lineOf (min offset (size text)) = number at *
  generalize min offset (size text) = place at *
  have hnumber : number < lineCount text := by
    by_contra hge
    rw [lineStart?_eq_none_iff.mpr (Nat.not_lt.mp hge)] at hstart
    cases hstart
  obtain ⟨before, line, after, hcut⟩ := exists_cutsLine hnumber
  rw [hcut.lineStart?_eq, Option.some.injEq] at hstart
  subst hstart
  rw [hcut.lineStart?_eq, Option.getD_some, columnAt_eq_width]
  rcases hcut.ended with rfl | ⟨rest, rfl⟩
  · have hsize : size text = size before + size line := by
      rw [hcut.text_eq, List.append_nil, size_append]
    have hstands : StandsAt text (size before) line :=
      ⟨before, [], by simpa using hcut.text_eq, rfl⟩
    rw [hcut.lineStart?_succ_eq_none, Option.getD_none, hsize, hstands.slice_eq,
      hcut.reach_takeBytes hle (by omega)]
  · have hstands : StandsAt text (size before) (line ++ ['\n']) :=
      ⟨before, rest, by simpa using hcut.text_eq, rfl⟩
    have hslice := hstands.slice_eq
    have hlt := hnext _ hcut.lineStart?_succ
    have hstop : size before + size line + 1 = size before + size (line ++ ['\n']) := by
      rw [size_append, Nat.add_assoc]
      rfl
    rw [hcut.lineStart?_succ, Option.getD_some, hstop, hslice,
      takeBytes_append_of_size_le (by omega), hcut.reach_takeBytes hle (by omega)]

/-- The byte length of the characters that start before `column` on the first line. -/
def offsetInLine : Text → Nat → Nat
  | [], _ => 0
  | _, 0 => 0
  | c :: rest, column =>
    if c = '\n' then 0 else c.utf8Size + offsetInLine rest (column - units16 c)

theorem offsetInLine_zero (text : Text) : offsetInLine text 0 = 0 := by
  cases text <;> rfl

theorem offsetInLine_cons {column : Nat} (hcolumn : column ≠ 0) (c : Char) (rest : Text) :
    offsetInLine (c :: rest) column =
      if c = '\n' then 0 else c.utf8Size + offsetInLine rest (column - units16 c) := by
  obtain ⟨column, rfl⟩ := Nat.exists_eq_succ_of_ne_zero hcolumn
  rfl

/-- Along a line, the loop stops where the walk does. -/
theorem seekColumn_getD {line after : Text} (hline : '\n' ∉ line)
    (hafter : after = [] ∨ ∃ rest, after = '\n' :: rest) (column place before : Nat) :
    (LineIndex.seekColumn column place before line).getD (place + size line) =
      place + offsetInLine (line ++ after) (column - before) := by
  induction line generalizing place before with
  | nil =>
    have hzero : offsetInLine after (column - before) = 0 := by
      rcases hafter with rfl | ⟨rest, rfl⟩ <;> cases column - before <;> rfl
    rw [List.nil_append, hzero]
    rfl
  | cons c line ih =>
    simp only [List.mem_cons, not_or] at hline
    rw [LineIndex.seekColumn]
    split
    next hle =>
      rw [Nat.sub_eq_zero_of_le hle, offsetInLine_zero]
      rfl
    next hlt =>
      rw [List.cons_append, offsetInLine_cons (by omega), if_neg (Ne.symm hline.1), Nat.sub_sub,
        ← Nat.add_assoc, ← ih hline.2, size_cons, Nat.add_assoc]

/-- The offset of a position is found along its line. -/
theorem offsetAt?_eq (text : Text) (position : Position) :
    offsetAt? text position = (lineStart? text position.line).map fun start =>
      start + offsetInLine (dropBytes start text) position.column := by
  have hoffset : offsetAt? text position = (lineStart? text position.line).map fun start =>
      (LineIndex.seekColumn position.column start 0 (slice text
        ⟨start, ((lineStart? text (position.line + 1)).map (· - 1)).getD (size text)⟩)).getD
        (min (((lineStart? text (position.line + 1)).map (· - 1)).getD (size text))
          (size text)) := rfl
  rw [hoffset]
  rcases Nat.lt_or_ge position.line (lineCount text) with hline | hline
  · obtain ⟨before, line, after, hcut⟩ := exists_cutsLine hline
    have hstop : ((lineStart? text (position.line + 1)).map (· - 1)).getD (size text) =
        size before + size line := by
      rcases hcut.ended with rfl | ⟨rest, rfl⟩
      · rw [hcut.lineStart?_succ_eq_none, hcut.text_eq, List.append_nil, size_append]
        rfl
      · rw [hcut.lineStart?_succ]
        rfl
    have hstands : StandsAt text (size before) line := ⟨before, after, hcut.text_eq, rfl⟩
    have hdrop : dropBytes (size before) text = line ++ after := by
      rw [hcut.text_eq, List.append_assoc, dropBytes_append_size]
    have hseek := seekColumn_getD hcut.inside hcut.ended position.column (size before) 0
    rw [hcut.lineStart?_eq, Option.map_some, Option.map_some, hstop, hstands.slice_eq,
      Nat.min_eq_left hstands.stop_le, hseek, hdrop, Nat.sub_zero]
  · rw [lineStart?_eq_none_iff.mpr hline]
    rfl

end Text

end ComponentServer
