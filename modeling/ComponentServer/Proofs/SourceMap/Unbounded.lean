import ComponentServer.Proofs.SourceMap.Digits
import ComponentServer.Proofs.Text.Place

/-!
# Decoding with unbounded numbers

What a text of mappings says is read off its parts: lines between semicolons, segments between
commas, numerals up to their last digit, and the sums of the numbers before each mark. The decoder
gives just that, except that it reads the sum of a numeral's digits in a signed word of 64 bits. A
numeral may have thirteen digits of five bits, two bits more than the word has room for, so the
decoder is exact where the digits sum up to less than 2^63, and wrong where they do not.
-/

namespace ComponentServer.SourceMap

open Text

/-! ### What the text says -/

/-- The value of a digit; any other character counts as zero. -/
def sixBits (c : Char) : Nat := (Vlq.digit? c).getD 0

/-- Cuts a segment behind every digit that does not ask for another one. -/
def numerals : Text → List Text
  | [] => []
  | c :: rest =>
    if sixBits c < 32 then [c] :: numerals rest
    else
      match numerals rest with
      | [] => [[c]]
      | first :: later => (c :: first) :: later

/-- The digits of a numeral are written lowest first, and five bits of each count. -/
def total (numeral : Text) : Nat := Nat.ofDigits 32 (numeral.map fun c => sixBits c % 32)

def segmentsOf (line : Text) : List Text := (splitAt ',' line).filter fun segment => !segment.isEmpty

/-- The numbers of a segment, where `reading` takes the sum of a numeral's digits to its number. -/
def fieldsBy (reading : Nat → Int) (segment : Text) : List Int :=
  (numerals segment).map fun numeral => reading (total numeral)

/-- The fields of all segments, line by line. -/
def fieldTable (reading : Nat → Int) (text : Text) : List (List (List Int)) :=
  (splitAt ';' text).map fun line => (segmentsOf line).map (fieldsBy reading)

/-- A mark whose numbers have no limits; a point is a source, a line and a column. -/
structure ExactMark where
  column : Int
  point : Option (Int × Int × Int)
deriving DecidableEq, Repr

def Mark.exact (mark : Mark) : ExactMark :=
  ⟨mark.column, mark.point.map fun point => (point.source, point.line, point.column)⟩

/-- The sum of the fields with number `index`. -/
def fieldSum (index : Nat) (segments : List (List Int)) : Int :=
  (segments.map fun fields => fields.getD index 0).sum

/-- The mark of the last segment of `onLine`. Its column is a sum over the line; source, source line
and source column are sums over the lines before as well. -/
def markBehind (earlier onLine : List (List Int)) : ExactMark where
  column := fieldSum 0 onLine
  point :=
    if 4 ≤ (onLine.getLastD []).length then
      some (fieldSum 1 (earlier ++ onLine), fieldSum 2 (earlier ++ onLine),
        fieldSum 3 (earlier ++ onLine))
    else none

/-- The marks of the segments that follow those of `onLine` on their line. -/
def marksFrom (earlier onLine : List (List Int)) : List (List Int) → List ExactMark
  | [] => []
  | fields :: others =>
    markBehind earlier (onLine ++ [fields]) :: marksFrom earlier (onLine ++ [fields]) others

/-- The marks of whole lines that follow the segments `earlier`. -/
def markLines (earlier : List (List Int)) : List (List (List Int)) → List (List ExactMark)
  | [] => []
  | line :: others => marksFrom earlier [] line :: markLines (earlier ++ line) others

/-- What a text of mappings says when every number is the exact value of its digits. -/
def exactLines (text : Text) : List (List ExactMark) :=
  markLines [] (fieldTable Vlq.exactValue text)

/-- The numerals that say something about a mark: all but the name, which comes fifth. -/
def usedNumerals (text : Text) : List Text :=
  (splitAt ';' text).flatMap fun line =>
    (segmentsOf line).flatMap fun segment => (numerals segment).take 4

/-! ### Numerals -/

/-- Every digit but the last asks for another one. -/
def IsNumeral (numeral : Text) : Prop :=
  ∃ front last digit, numeral = front ++ [last] ∧ (∀ c ∈ front, 32 ≤ sixBits c) ∧
    Vlq.digit? last = some digit ∧ digit < 32

theorem digit?_eq_none_of_isSeparator {c : Char} (h : isSeparator c = true) :
    Vlq.digit? c = none := by
  simp only [isSeparator, Bool.or_eq_true, beq_iff_eq] at h
  rcases h with rfl | rfl <;> decide

theorem IsNumeral.isSeparator_eq_false {numeral : Text} (h : IsNumeral numeral) :
    ∀ c ∈ numeral, isSeparator c = false := by
  obtain ⟨front, last, digit, rfl, hfront, hlast, -⟩ := h
  intro c hmem
  by_contra hseparator
  have hnone := digit?_eq_none_of_isSeparator (Bool.not_eq_false _ ▸ hseparator)
  rcases List.mem_append.mp hmem with hmem | hmem
  · have hdigit := hfront c hmem
    rw [sixBits, hnone] at hdigit
    simp at hdigit
  · rw [List.mem_singleton.mp hmem, hlast] at hnone
    cases hnone

theorem numerals_append {numeral : Text} (h : IsNumeral numeral) (rest : Text) :
    numerals (numeral ++ rest) = numeral :: numerals rest := by
  obtain ⟨front, last, digit, rfl, hfront, hlast, hdigit⟩ := h
  induction front with
  | nil => simp [numerals, sixBits, hlast, hdigit]
  | cons c front ih =>
    have hc : ¬ sixBits c < 32 := Nat.not_lt.mpr (hfront c (by simp))
    have hothers := ih fun other hother => hfront other (List.mem_cons_of_mem _ hother)
    rw [List.cons_append, List.cons_append, numerals, if_neg hc, hothers]

theorem total_cons (c : Char) (rest : Text) : total (c :: rest) = sixBits c % 32 + 32 * total rest := by
  simp [total, Nat.ofDigits_cons]

/-- What the reader of a number has read: a numeral, whose sum it keeps in a word. -/
theorem Vlq.exists_numeral_of_read {start position count sum next : Nat} {input rest : Text}
    {n : Int} (h : read start position count sum input = .ok (n, next, rest)) :
    ∃ numeral, input = numeral ++ rest ∧ IsNumeral numeral ∧
      n = value (sum + total numeral * 32 ^ count) := by
  induction input generalizing position count sum with
  | nil => simp [read] at h
  | cons c tail ih =>
    rw [read] at h
    cases hdigit : digit? c with
    | none => simp [hdigit] at h
    | some digit =>
      have hbits : sixBits c = digit := by rw [sixBits, hdigit, Option.getD_some]
      simp only [hdigit, shiftLeft_eq_mul_pow] at h
      split at h
      · cases h
      · split at h
        next hlast =>
          cases h
          refine ⟨[c], rfl, ⟨[], c, digit, rfl, by simp, hdigit, hlast⟩, ?_⟩
          rw [total_cons, hbits]
          simp [total]
        next hmore =>
          obtain ⟨numeral, rfl, ⟨front, last, digit', rfl, hfront, hlast⟩, hn⟩ := ih h
          refine ⟨c :: (front ++ [last]), rfl, ⟨c :: front, last, digit', rfl, ?_, hlast⟩, ?_⟩
          · intro other hother
            rcases List.mem_cons.mp hother with rfl | hother
            · rw [hbits]
              exact Nat.not_lt.mp hmore
            · exact hfront other hother
          · rw [hn, total_cons, hbits, pow_succ]
            congr 1
            ring

theorem exists_segment_of_readFields {start room position next : Nat} {input rest : Text}
    {fields : List Int} (h : readFields start room position input = .ok (fields, next, rest)) :
    ∃ segment, input = segment ++ rest ∧ (∀ c ∈ segment, isSeparator c = false) ∧
      Separated rest ∧ fields = fieldsBy Vlq.value segment := by
  induction room generalizing position input rest fields next with
  | zero =>
    cases input with
    | nil =>
      cases h
      exact ⟨[], rfl, by simp, by simp [Separated], rfl⟩
    | cons c tail =>
      cases hc : isSeparator c with
      | false => simp [readFields, hc] at h
      | true =>
        simp only [readFields, hc, if_true] at h
        cases h
        exact ⟨[], rfl, by simp, by simp [Separated, hc], rfl⟩
  | succ room ih =>
    cases input with
    | nil =>
      cases h
      exact ⟨[], rfl, by simp, by simp [Separated], rfl⟩
    | cons c tail =>
      cases hc : isSeparator c with
      | true =>
        simp only [readFields, hc, if_true] at h
        cases h
        exact ⟨[], rfl, by simp, by simp [Separated, hc], rfl⟩
      | false =>
        simp only [readFields, hc, Bool.false_eq_true, if_false] at h
        split at h
        · cases h
        next field after remaining hread =>
          split at h
          · cases h
          next others stop last hfields =>
            cases h
            obtain ⟨numeral, hinput, hnumeral, rfl⟩ := Vlq.exists_numeral_of_read hread
            obtain ⟨segment, rfl, hplain, hrest, rfl⟩ := ih hfields
            refine ⟨numeral ++ segment, by rw [hinput, List.append_assoc], ?_, hrest, ?_⟩
            · intro d hd
              rcases List.mem_append.mp hd with hd | hd
              · exact hnumeral.isSeparator_eq_false d hd
              · exact hplain d hd
            · simp [fieldsBy, numerals_append hnumeral]

/-! ### Lines and segments -/

theorem segmentsOf_comma (rest : Text) : segmentsOf (',' :: rest) = segmentsOf rest := by
  simp [segmentsOf, splitAt]

theorem segmentsOf_append {segment rest : Text} (hne : segment ≠ []) (hplain : ',' ∉ segment)
    (hrest : rest = [] ∨ ∃ tail, rest = ',' :: tail) :
    segmentsOf (segment ++ rest) = segment :: segmentsOf rest := by
  obtain ⟨part, others, hsplit, hjoined⟩ := splitAt_append_of_notMem hplain rest
  have hnil : part = [] ∧ segmentsOf rest = others.filter fun part => !part.isEmpty := by
    rcases hrest with rfl | ⟨tail, rfl⟩
    · cases hsplit
      exact ⟨rfl, rfl⟩
    · simp only [splitAt, if_true, List.cons.injEq] at hsplit
      obtain ⟨rfl, rfl⟩ := hsplit
      exact ⟨rfl, segmentsOf_comma tail⟩
  rw [hnil.2, segmentsOf, hjoined, hnil.1, List.append_nil, List.filter_cons,
    if_pos (by simpa using hne)]

theorem fieldTable_nil (reading : Nat → Int) : fieldTable reading [] = [[]] := by
  simp [fieldTable, splitAt, segmentsOf]

theorem fieldTable_semicolon (reading : Nat → Int) (rest : Text) :
    fieldTable reading (';' :: rest) = [] :: fieldTable reading rest := by
  simp [fieldTable, splitAt, segmentsOf]

theorem fieldTable_comma (reading : Nat → Int) (rest : Text) :
    fieldTable reading (',' :: rest) = fieldTable reading rest := by
  obtain ⟨part, others, hsplit⟩ := List.exists_cons_of_ne_nil (splitAt_ne_nil ';' rest)
  simp [fieldTable, splitAt, hsplit, segmentsOf_comma]

/-- A segment goes in front of the segments that follow it on its line. -/
theorem exists_fieldTable_append (reading : Nat → Int) {segment rest : Text} (hne : segment ≠ [])
    (hplain : ∀ c ∈ segment, isSeparator c = false) (hrest : Separated rest) :
    ∃ line others, fieldTable reading rest = line :: others ∧
      fieldTable reading (segment ++ rest) = (fieldsBy reading segment :: line) :: others := by
  have hcomma : ',' ∉ segment := fun hmem => by simpa [isSeparator] using hplain _ hmem
  have hsemicolon : ';' ∉ segment := fun hmem => by simpa [isSeparator] using hplain _ hmem
  obtain ⟨part, others, hsplit, hjoined⟩ := splitAt_append_of_notMem hsemicolon rest
  have hpart : part = [] ∨ ∃ tail, part = ',' :: tail := by
    cases rest with
    | nil =>
      cases hsplit
      exact Or.inl rfl
    | cons c tail =>
      have hc : isSeparator c = true := hrest c rfl
      simp only [isSeparator, Bool.or_eq_true, beq_iff_eq] at hc
      rcases hc with rfl | rfl
      · obtain ⟨line, lines, hlines⟩ := List.exists_cons_of_ne_nil (splitAt_ne_nil ';' tail)
        simp only [splitAt, hlines] at hsplit
        cases hsplit
        exact Or.inr ⟨line, rfl⟩
      · simp only [splitAt, if_true, List.cons.injEq] at hsplit
        exact Or.inl hsplit.1.symm
  refine ⟨(segmentsOf part).map (fieldsBy reading),
    others.map fun line => (segmentsOf line).map (fieldsBy reading), ?_, ?_⟩
  · rw [fieldTable, hsplit, List.map_cons]
  · rw [fieldTable, hjoined, List.map_cons, segmentsOf_append hne hcomma hpart, List.map_cons]

/-! ### The decoder's sums -/

/-- The sums behind the segments `earlier` of the lines before and `onLine` of this line. -/
def sumsBehind (earlier onLine : List (List Int)) : Sums :=
  ⟨fieldSum 0 onLine, fieldSum 1 (earlier ++ onLine), fieldSum 2 (earlier ++ onLine),
    fieldSum 3 (earlier ++ onLine)⟩

@[simp]
theorem fieldSum_append (index : Nat) (front back : List (List Int)) :
    fieldSum index (front ++ back) = fieldSum index front + fieldSum index back := by
  simp [fieldSum]

@[simp]
theorem fieldSum_singleton (index : Nat) (fields : List Int) :
    fieldSum index [fields] = fields.getD index 0 := by
  simp [fieldSum]

theorem Sums.eq_of_plus {position : Nat} {sum difference result : Int}
    (h : plus position sum difference = .ok result) : result = sum + difference := by
  rw [plus] at h
  split at h
  · cases h
    rfl
  · cases h

theorem Sums.eq_of_word {position word : Nat} {sum : Int} (h : Sums.word position sum = .ok word) :
    sum = word := by
  rw [Sums.word] at h
  split at h
  next hfits =>
    cases h
    exact (Int.toNat_of_nonneg hfits.1).symm
  next => cases h

theorem bind_eq_ok {α β : Type} {x : Except VlqError α} {f : α → Except VlqError β} {b : β} :
    (x >>= f) = .ok b ↔ ∃ a, x = .ok a ∧ f a = .ok b := by
  cases x with
  | error error => simp [bind, Except.bind]
  | ok a => simp [bind, Except.bind]

theorem Sums.eq_of_advance {sums moved : Sums} {position : Nat} {source line column : Int}
    (h : sums.advance position source line column = .ok moved) :
    moved = ⟨sums.column, sums.source + source, sums.line + line, sums.sourceColumn + column⟩ := by
  simp only [advance, bind_eq_ok] at h
  obtain ⟨source', hsource, line', hline, column', hcolumn, hmoved⟩ := h
  cases hmoved
  rw [eq_of_plus hsource, eq_of_plus hline, eq_of_plus hcolumn]

theorem Sums.eq_of_point {sums : Sums} {position : Nat} {point : SourcePoint}
    (h : sums.point position = .ok point) :
    sums.source = point.source ∧ sums.line = point.line ∧ sums.sourceColumn = point.column := by
  simp only [Sums.point, bind_eq_ok] at h
  obtain ⟨source, hsource, line, hline, column, hcolumn, hpoint⟩ := h
  cases hpoint
  exact ⟨eq_of_word hsource, eq_of_word hline, eq_of_word hcolumn⟩

/-- One segment takes the sums behind the segments before it to the sums behind it. -/
theorem Sums.mark_behind {earlier onLine : List (List Int)} {position : Nat} {fields : List Int}
    {moved : Sums} {mark : Mark}
    (h : (sumsBehind earlier onLine).mark position fields = .ok (moved, mark)) :
    moved = sumsBehind earlier (onLine ++ [fields]) ∧
      mark.exact = markBehind earlier (onLine ++ [fields]) ∧
      (fields.length = 1 ∨ 4 ≤ fields.length) := by
  rw [Sums.mark, bind_eq_ok] at h
  obtain ⟨column, hcolumn, h⟩ := h
  have hcolumn' := eq_of_plus hcolumn
  split at h
  next field =>
    rw [bind_eq_ok] at h
    obtain ⟨word, hword, hmark⟩ := h
    cases hmark
    have hword' := eq_of_word hword
    simp only [List.headD_cons, sumsBehind] at hcolumn'
    refine ⟨?_, ?_, Or.inl rfl⟩
    · simp [sumsBehind, hcolumn']
    · simp [Mark.exact, markBehind, ← hword', hcolumn']
  next field source line sourceColumn name =>
    simp only [bind_eq_ok] at h
    obtain ⟨reached, hadvance, point, hpoint, word, hword, hmark⟩ := h
    cases hmark
    have hreached := eq_of_advance hadvance
    have hplaces := eq_of_point hpoint
    have hword' := eq_of_word hword
    simp only [List.headD_cons, sumsBehind] at hcolumn' hreached
    subst hreached
    refine ⟨?_, ?_, Or.inr (by simp)⟩
    · simp [sumsBehind, hcolumn', add_assoc]
    · simp only at hplaces
      simp [Mark.exact, markBehind, ← hword', hcolumn', ← hplaces.1, ← hplaces.2.1, ← hplaces.2.2,
        add_assoc]
  next => cases h

/-- Every segment has one number, or at least four. -/
def WellCounted (reading : Nat → Int) (text : Text) : Prop :=
  ∀ line ∈ fieldTable reading text, ∀ fields ∈ line, fields.length = 1 ∨ 4 ≤ fields.length

/-- What the decoder gives are the marks of the fields that it reads in words. -/
theorem exact_of_decodeFrom {earlier onLine : List (List Int)} {position : Nat} {marks : List Mark}
    {text : Text} {lines : Mappings}
    (h : decodeFrom (sumsBehind earlier onLine) position marks text = .ok lines) :
    WellCounted Vlq.value text ∧
    ∃ line others, fieldTable Vlq.value text = line :: others ∧
      lines.map (List.map Mark.exact) =
        (marks.map Mark.exact ++ marksFrom earlier onLine line) ::
          markLines (earlier ++ onLine ++ line) others := by
  generalize hsums : sumsBehind earlier onLine = sums at h
  -- Along the decoder's own recursion, with the sums behind all that has been read.
  fun_induction decodeFrom sums position marks text generalizing earlier onLine lines with
  | case1 sums position marks =>
    cases h
    refine ⟨?_, [], [], fieldTable_nil _, by simp [marksFrom, markLines]⟩
    simp [WellCounted, fieldTable_nil]
  | case2 sums position marks rest error herror hc ih => cases h
  | case3 sums position marks rest others hothers hc ih =>
    cases h
    have hnewLine : sumsBehind (earlier ++ onLine) [] = sums.newLine := by
      rw [← hsums]
      simp [sumsBehind, Sums.newLine, fieldSum]
    obtain ⟨hcounted, line, others', htable, hlines⟩ := ih hnewLine hothers
    refine ⟨?_, [], line :: others', by rw [fieldTable_semicolon, htable], ?_⟩
    · simpa [WellCounted, fieldTable_semicolon] using hcounted
    · rw [List.map_cons, hlines]
      simp [marksFrom, markLines]
  | case4 sums position marks c rest hc hsemicolon ih =>
    have hcomma : c = ',' := by
      simp only [isSeparator, Bool.or_eq_true, beq_iff_eq] at hc
      exact hc.resolve_right hsemicolon
    subst hcomma
    simpa [WellCounted, fieldTable_comma] using ih hsums h
  | case5 sums position marks c rest hc error herror => cases h
  | case6 sums position marks c rest hc fields next remaining hread error herror => cases h
  | case7 sums position marks c rest hc fields next remaining hread moved mark hmark ih =>
    rw [← hsums] at hmark
    obtain ⟨hmoved, hexact, hlength⟩ := Sums.mark_behind hmark
    obtain ⟨hcounted, line, others, htable, hlines⟩ := ih hmoved.symm h
    obtain ⟨segment, htext, hplain, hrest, rfl⟩ := exists_segment_of_readFields hread
    have hne : segment ≠ [] := by
      rintro rfl
      rw [List.nil_append] at htext
      exact hc (hrest c (by rw [← htext]; rfl))
    obtain ⟨line', others', htable', hjoined⟩ :=
      exists_fieldTable_append Vlq.value hne hplain hrest
    rw [htable] at htable'
    cases htable'
    rw [htext]
    refine ⟨?_, _, _, hjoined, ?_⟩
    · rw [WellCounted, htable] at hcounted
      rw [WellCounted, hjoined]
      intro other hother fields hfields
      rcases List.mem_cons.mp hother with rfl | hother
      · rcases List.mem_cons.mp hfields with rfl | hfields
        · exact hlength
        · exact hcounted line (by simp) fields hfields
      · exact hcounted other (List.mem_cons_of_mem _ hother) fields hfields
    · rw [hlines]
      simp [marksFrom, hexact]

theorem exact_of_decode {text : Text} {lines : Mappings} (h : decode text = .ok lines) :
    WellCounted Vlq.value text ∧
      lines.map (List.map Mark.exact) = markLines [] (fieldTable Vlq.value text) := by
  have hfrom : decodeFrom (sumsBehind [] []) 0 [] text = .ok lines := h
  obtain ⟨hcounted, line, others, htable, hlines⟩ := exact_of_decodeFrom hfrom
  refine ⟨hcounted, ?_⟩
  rw [hlines, htable]
  simp [markLines]

/-! ### Where words are exact -/

/-- A word holds a sum of digits exactly below 2^63, and another number from there on. -/
theorem Vlq.value_eq_exactValue_iff {sum : Nat} : value sum = exactValue sum ↔ sum < 2 ^ 63 := by
  refine ⟨fun h => ?_, value_eq_exactValue⟩
  simp only [value, exactValue, Int.bmod_def] at h
  have hwords : ((1 <<< 64 : Nat) : Int) = 2 ^ 64 := by decide
  rw [hwords] at h
  split at h <;> split at h <;> omega

variable {reading reading' : Nat → Int}

theorem length_fieldsBy (reading reading' : Nat → Int) (segment : Text) :
    (fieldsBy reading segment).length = (fieldsBy reading' segment).length := by
  simp [fieldsBy]

/-- Two readings of a segment agree on the numbers that are used. -/
def Agree (reading reading' : Nat → Int) (segment : Text) : Prop :=
  (fieldsBy reading segment).take 4 = (fieldsBy reading' segment).take 4

theorem agree_iff {segment : Text} :
    Agree reading reading' segment ↔
      ∀ numeral ∈ (numerals segment).take 4, reading (total numeral) = reading' (total numeral) := by
  rw [Agree, fieldsBy, fieldsBy, ← List.map_take, ← List.map_take, List.map_inj_left]

theorem exists_four_of_le {fields : List Int} (h : 4 ≤ fields.length) :
    ∃ column source line sourceColumn name,
      fields = column :: source :: line :: sourceColumn :: name := by
  match fields, h with
  | column :: source :: line :: sourceColumn :: name, _ => exact ⟨_, _, _, _, _, rfl⟩

/-- Behind equal sums, two segments have the same mark just when their first four numbers agree. The
sums behind them are then equal, too. -/
theorem markBehind_eq_iff {earlier earlier' onLine onLine' : List (List Int)}
    {fields fields' : List Int} (hsums : sumsBehind earlier onLine = sumsBehind earlier' onLine')
    (hlength : fields.length = fields'.length) (hcount : fields.length = 1 ∨ 4 ≤ fields.length) :
    (markBehind earlier (onLine ++ [fields]) = markBehind earlier' (onLine' ++ [fields']) ↔
      fields.take 4 = fields'.take 4) ∧
    (fields.take 4 = fields'.take 4 →
      sumsBehind earlier (onLine ++ [fields]) = sumsBehind earlier' (onLine' ++ [fields'])) := by
  simp only [sumsBehind, fieldSum_append, Sums.mk.injEq] at hsums
  obtain ⟨hcolumn, hsource, hline, hsourceColumn⟩ := hsums
  rcases hcount with hone | hfour
  · obtain ⟨column, rfl⟩ := List.length_eq_one_iff.mp hone
    obtain ⟨column', rfl⟩ := List.length_eq_one_iff.mp hlength.symm
    simp [markBehind, sumsBehind, hcolumn, hsource, hline, hsourceColumn]
  · obtain ⟨column, source, line, sourceColumn, name, rfl⟩ := exists_four_of_le hfour
    obtain ⟨column', source', line', sourceColumn', name', rfl⟩ :=
      exists_four_of_le (hlength ▸ hfour)
    simp only [markBehind, sumsBehind, fieldSum_append, fieldSum_singleton, ← add_assoc, hcolumn,
      hsource, hline, hsourceColumn, List.getLastD_concat, List.length_cons, ExactMark.mk.injEq]
    simp

/-- The same for all segments of a line. -/
theorem marksFrom_eq_iff (reading' : Nat → Int) {earlier earlier' onLine onLine' : List (List Int)}
    {segments : List Text} (hsums : sumsBehind earlier onLine = sumsBehind earlier' onLine')
    (hcount : ∀ fields ∈ segments.map (fieldsBy reading),
      fields.length = 1 ∨ 4 ≤ fields.length) :
    (marksFrom earlier onLine (segments.map (fieldsBy reading)) =
        marksFrom earlier' onLine' (segments.map (fieldsBy reading')) ↔
      ∀ segment ∈ segments, Agree reading reading' segment) ∧
    ((∀ segment ∈ segments, Agree reading reading' segment) →
      sumsBehind earlier (onLine ++ segments.map (fieldsBy reading)) =
        sumsBehind earlier' (onLine' ++ segments.map (fieldsBy reading'))) := by
  induction segments generalizing onLine onLine' with
  | nil => simpa [marksFrom] using hsums
  | cons segment others ih =>
    obtain ⟨hmark, hnext⟩ := markBehind_eq_iff hsums (length_fieldsBy reading reading' segment)
      (hcount _ (by simp))
    have hlater := fun hsame => ih (hnext hsame) fun fields hfields =>
      hcount fields (List.mem_cons_of_mem _ hfields)
    rw [List.map_cons, List.map_cons, marksFrom, marksFrom, List.cons.injEq, hmark,
      List.forall_mem_cons]
    refine ⟨and_congr_right fun hsame => (hlater hsame).1, ?_⟩
    rintro ⟨hsame, hothers⟩
    simpa using (hlater hsame).2 hothers

/-- Two readings give the same marks just when they agree on every numeral that is used. -/
theorem markLines_eq_iff {earlier earlier' : List (List Int)} {lines : List Text}
    (hsums : sumsBehind earlier [] = sumsBehind earlier' [])
    (hcount : ∀ line ∈ lines, ∀ fields ∈ (segmentsOf line).map (fieldsBy reading),
      fields.length = 1 ∨ 4 ≤ fields.length) :
    markLines earlier (lines.map fun line => (segmentsOf line).map (fieldsBy reading)) =
        markLines earlier' (lines.map fun line => (segmentsOf line).map (fieldsBy reading')) ↔
      ∀ line ∈ lines, ∀ segment ∈ segmentsOf line, Agree reading reading' segment := by
  induction lines generalizing earlier earlier' with
  | nil => simp [markLines]
  | cons line others ih =>
    obtain ⟨hmarks, hnext⟩ := marksFrom_eq_iff reading' hsums
      (hcount line (by simp))
    have hstart : (∀ segment ∈ segmentsOf line, Agree reading reading' segment) →
        sumsBehind (earlier ++ (segmentsOf line).map (fieldsBy reading)) [] =
        sumsBehind (earlier' ++ (segmentsOf line).map (fieldsBy reading')) [] := by
      intro hsame
      have hsums' := hnext hsame
      simp only [sumsBehind, List.nil_append, List.append_nil, Sums.mk.injEq] at hsums' ⊢
      exact ⟨trivial, hsums'.2⟩
    rw [List.map_cons, List.map_cons, markLines, markLines, List.cons.injEq, hmarks,
      List.forall_mem_cons]
    refine and_congr_right fun hsame => ih (hstart hsame) fun other hother => ?_
    exact hcount other (List.mem_cons_of_mem _ hother)

/-- **A text that decodes is decoded exactly just when the digits of every numeral that is used sum
up to less than 2^63.** From there on a word of 64 bits wraps around. -/
theorem decode_exact_iff (text : Text) (lines : Mappings) (h : decode text = .ok lines) :
    lines.map (List.map Mark.exact) = exactLines text ↔
      ∀ numeral ∈ usedNumerals text, total numeral < 2 ^ 63 := by
  obtain ⟨hcounted, hlines⟩ := exact_of_decode h
  have hcount : ∀ line ∈ splitAt ';' text, ∀ fields ∈ (segmentsOf line).map (fieldsBy Vlq.value),
      fields.length = 1 ∨ 4 ≤ fields.length := by
    intro line hline
    exact hcounted _ (List.mem_map_of_mem hline)
  rw [hlines, exactLines, fieldTable, fieldTable, markLines_eq_iff rfl hcount]
  simp only [agree_iff, Vlq.value_eq_exactValue_iff, usedNumerals, List.mem_flatMap]
  constructor
  · rintro hsame numeral ⟨line, hline, segment, hsegment, hnumeral⟩
    exact hsame line hline segment hsegment numeral hnumeral
  · intro hsame line hline segment hsegment numeral hnumeral
    exact hsame numeral ⟨line, hline, segment, hsegment, hnumeral⟩

/-- The sum 2^64 in the place of a name, where it does no harm. -/
theorem decode_exact_iff_wrappedName :
    decode "AAAAggggggggggggQ,C".toList = .ok [[⟨0, some ⟨0, 0, 0⟩⟩, ⟨1, none⟩]] ∧
      ([[⟨0, some ⟨0, 0, 0⟩⟩, ⟨1, none⟩]] : Mappings).map (List.map Mark.exact) =
        exactLines "AAAAggggggggggggQ,C".toList := by
  have hdecode : decode "AAAAggggggggggggQ,C".toList =
      .ok [[⟨0, some ⟨0, 0, 0⟩⟩, ⟨1, none⟩]] := by
    cbv
  refine ⟨hdecode, (decode_exact_iff _ _ hdecode).mpr ?_⟩
  decide

/-- In the place of a column it is taken for zero: twelve digits without bits, and a thirteenth
whose only bit is the one behind the word. -/
theorem not_exact_thirteenDigits :
    decode "ggggggggggggQ".toList = .ok [[⟨0, none⟩]] ∧
      exactLines "ggggggggggggQ".toList = [[⟨2 ^ 63, none⟩]] := by
  refine ⟨by cbv, by decide⟩

end ComponentServer.SourceMap
