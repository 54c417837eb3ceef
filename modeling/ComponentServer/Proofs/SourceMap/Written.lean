import ComponentServer.Proofs.SourceMap.Digits
import ComponentServer.SourceMap.Writer

/-!
# Written mappings are read back

The writer and the reader keep the same sums: the column of the mark before on the same line, and
the source line and column of the last mark that had a source. `Writer.sums` names them, one mark
takes the sums of the writer before it to the sums of the writer behind it, and the decoded lines
follow by induction over the anchors still to be written.
-/

namespace ComponentServer.SourceMap

namespace Anchor

/-- The mark that an anchor stands for; it points into the only source. -/
def mark (anchor : Anchor) : Mark :=
  ⟨anchor.column, anchor.source.map fun place => ⟨0, place.1, place.2⟩⟩

/-- The column, and the source line and column if there are any, are words of 32 bits. -/
def FitsWords (anchor : Anchor) : Prop :=
  anchor.column < 2 ^ 32 ∧ ∀ place ∈ anchor.source, place.1 < 2 ^ 32 ∧ place.2 < 2 ^ 32

instance (anchor : Anchor) : Decidable anchor.FitsWords := inferInstanceAs (Decidable (_ ∧ _))

/-- The anchors in the order of their lines. -/
def Ordered (anchors : List Anchor) : Prop :=
  anchors.Pairwise fun earlier later => earlier.line ≤ later.line

instance (anchors : List Anchor) : Decidable (Ordered anchors) :=
  inferInstanceAs (Decidable (anchors.Pairwise _))

end Anchor

namespace Writer

/-- What the differences of the next mark are taken from. -/
def sums (writer : Writer) : Sums := ⟨writer.column, 0, writer.sourceLine, writer.sourceColumn⟩

structure Fits (writer : Writer) : Prop where
  column : writer.column < 2 ^ 32
  sourceLine : writer.sourceLine < 2 ^ 32
  sourceColumn : writer.sourceColumn < 2 ^ 32

/-- The differences that a mark is written as. -/
def fields (writer : Writer) (column : Nat) (source : Option (Nat × Nat)) : List Int :=
  ((column : Int) - writer.column) :: match source with
    | none => []
    | some (line, sourceColumn) =>
      [0, (line : Int) - writer.sourceLine, (sourceColumn : Int) - writer.sourceColumn]

/-- What is written between the marks so far and the next one. -/
def gap (writer : Writer) (line : Nat) : Text :=
  if writer.line < line then List.replicate (line - writer.line) ';'
  else if writer.marks = 0 then [] else [',']

/-- What the anchors add to the output. -/
def written (writer : Writer) : List Anchor → Text
  | [] => []
  | anchor :: others =>
    writer.gap anchor.line ++
      (((writer.toLine anchor.line).fields anchor.column anchor.source).flatMap Vlq.encode ++
        (writer.add anchor).written others)

theorem output_put (writer : Writer) (column : Nat) (source : Option (Nat × Nat)) :
    (writer.put column source).output =
      writer.output ++ (if writer.marks = 0 then [] else [',']) ++
        (writer.fields column source).flatMap Vlq.encode := by
  rcases source with _ | ⟨line, sourceColumn⟩ <;> simp [put, fields]

theorem output_add (writer : Writer) (anchor : Anchor) :
    (writer.add anchor).output = writer.output ++ (writer.gap anchor.line ++
      ((writer.toLine anchor.line).fields anchor.column anchor.source).flatMap Vlq.encode) := by
  rw [add, output_put]
  unfold toLine gap
  split <;> simp

theorem output_foldl_add (writer : Writer) (anchors : List Anchor) :
    (anchors.foldl add writer).output = writer.output ++ writer.written anchors := by
  induction anchors generalizing writer with
  | nil => simp [written]
  | cons anchor others ih => simp [ih, output_add, written]

@[simp]
theorem line_put (writer : Writer) (column : Nat) (source : Option (Nat × Nat)) :
    (writer.put column source).line = writer.line := by
  rcases source with _ | ⟨line, sourceColumn⟩ <;> rfl

@[simp]
theorem marks_put (writer : Writer) (column : Nat) (source : Option (Nat × Nat)) :
    (writer.put column source).marks = writer.marks + 1 := by
  rcases source with _ | ⟨line, sourceColumn⟩ <;> rfl

theorem line_add {writer : Writer} {anchor : Anchor} (h : writer.line ≤ anchor.line) :
    (writer.add anchor).line = anchor.line := by
  rw [add, line_put]
  unfold toLine
  split
  · rfl
  · omega

theorem separated_written {writer : Writer} (h : writer.marks ≠ 0) (anchors : List Anchor) :
    Separated (writer.written anchors) := by
  cases anchors with
  | nil => simp [written, Separated]
  | cons anchor others =>
    intro c hc
    unfold written gap at hc
    split at hc
    · next hline =>
      obtain ⟨count, hcount⟩ : ∃ count, anchor.line - writer.line = count + 1 :=
        ⟨anchor.line - writer.line - 1, by omega⟩
      rw [hcount, List.replicate_succ] at hc
      simp only [List.cons_append, List.head?_cons, Option.mem_some_iff] at hc
      subst hc
      rfl
    · simp only [List.cons_append, List.head?_cons, Option.mem_some_iff] at hc
      subst hc
      rfl

theorem Fits.toLine {writer : Writer} (h : writer.Fits) (line : Nat) :
    (writer.toLine line).Fits := by
  unfold Writer.toLine
  split
  · exact ⟨Nat.two_pow_pos 32, h.sourceLine, h.sourceColumn⟩
  · exact h

theorem Fits.put {writer : Writer} (h : writer.Fits) {anchor : Anchor} (hfit : anchor.FitsWords) :
    (writer.put anchor.column anchor.source).Fits := by
  obtain ⟨line, column, source⟩ := anchor
  rcases source with _ | ⟨sourceLine, sourceColumn⟩
  · exact ⟨hfit.1, h.sourceLine, h.sourceColumn⟩
  · have hplace := hfit.2 (sourceLine, sourceColumn) rfl
    exact ⟨hfit.1, hplace.1, hplace.2⟩

theorem fields_lt {writer : Writer} (h : writer.Fits) {anchor : Anchor} (hfit : anchor.FitsWords) :
    ∀ field ∈ writer.fields anchor.column anchor.source, field.natAbs < 2 ^ 33 := by
  obtain ⟨line, column, source⟩ := anchor
  obtain ⟨hcolumn, hsourceLine, hsourceColumn⟩ := h
  have hmark : column < 2 ^ 32 := hfit.1
  rcases source with _ | ⟨sourceLine, sourceColumn⟩
  · simp only [fields, List.mem_singleton, forall_eq]
    omega
  · have hplace := hfit.2 (sourceLine, sourceColumn) rfl
    simp only [fields, List.mem_cons, List.not_mem_nil, or_false, forall_eq_or_imp, forall_eq]
    omega

end Writer

theorem Sums.plus_eq_ok {position : Nat} {total : Int} {target : Nat} (htarget : target < 2 ^ 32) :
    Sums.plus position total ((target : Int) - total) = .ok (target : Int) := by
  have hsum : total + ((target : Int) - total) = target := by omega
  rw [Sums.plus, hsum, if_pos (by omega)]

theorem Sums.word_eq_ok {position target : Nat} (htarget : target < 2 ^ 32) :
    Sums.word position (target : Int) = .ok target := by
  rw [Sums.word, if_pos (by omega), Int.toNat_natCast]

theorem Sums.advance_eq_ok (position : Nat) (sums : Sums) {line column : Nat}
    (hsource : sums.source = 0) (hline : line < 2 ^ 32) (hcolumn : column < 2 ^ 32) :
    sums.advance position 0 ((line : Int) - sums.line) ((column : Int) - sums.sourceColumn) =
      .ok ⟨sums.column, 0, line, column⟩ := by
  have hindex : Sums.plus position sums.source 0 = .ok 0 := by
    rw [Sums.plus, hsource, if_pos (by omega)]
    rfl
  rw [Sums.advance, hindex, Sums.plus_eq_ok hline, Sums.plus_eq_ok hcolumn]
  rfl

theorem Sums.point_eq_ok (position : Nat) (reached : Int) {line column : Nat}
    (hline : line < 2 ^ 32) (hcolumn : column < 2 ^ 32) :
    Sums.point ⟨reached, 0, line, column⟩ position = .ok ⟨0, line, column⟩ := by
  have hindex : Sums.word position 0 = .ok 0 := by
    rw [Sums.word, if_pos (by omega)]
    rfl
  simp only [Sums.point, hindex, Sums.word_eq_ok hline, Sums.word_eq_ok hcolumn]
  rfl

theorem Sums.mark_single (sums : Sums) (position : Nat) (column : Int) :
    sums.mark position [column] = (do
      let column ← plus position sums.column column
      let word ← word position column
      return ({ sums with column := column }, ⟨word, none⟩)) := rfl

theorem Sums.mark_place (sums : Sums) (position : Nat) (column source line sourceColumn : Int) :
    sums.mark position [column, source, line, sourceColumn] = (do
      let column ← plus position sums.column column
      let moved ← advance { sums with column := column } position source line sourceColumn
      let point ← moved.point position
      let word ← word position column
      return (moved, ⟨word, some point⟩)) := rfl

theorem ok_bind {α β : Type} (a : α) (f : α → Except VlqError β) : (Except.ok a >>= f) = f a := rfl

/-- The fields of a mark, added to the sums of the writer, give the mark and the next sums. -/
theorem Writer.mark_fields (writer : Writer) {anchor : Anchor} (hfit : anchor.FitsWords)
    (position : Nat) :
    writer.sums.mark position (writer.fields anchor.column anchor.source) =
      .ok ((writer.put anchor.column anchor.source).sums, anchor.mark) := by
  obtain ⟨line, column, source⟩ := anchor
  have hfits : column < 2 ^ 32 := hfit.1
  have hcolumn : Sums.plus position writer.sums.column ((column : Int) - writer.column) =
      .ok (column : Int) := Sums.plus_eq_ok hfits
  have hword : Sums.word position (column : Int) = .ok column := Sums.word_eq_ok hfits
  rcases source with _ | ⟨sourceLine, sourceColumn⟩
  · rw [fields, Sums.mark_single, hcolumn, ok_bind, hword, ok_bind]
    rfl
  · have hplace := hfit.2 (sourceLine, sourceColumn) rfl
    have hadvance := Sums.advance_eq_ok position
      { writer.sums with column := (column : Int) } rfl hplace.1 hplace.2
    have hpoint := Sums.point_eq_ok position (column : Int) hplace.1 hplace.2
    simp only [sums] at hadvance
    rw [fields, Sums.mark_place, hcolumn, ok_bind, sums, hadvance, ok_bind, hpoint, ok_bind, hword,
      ok_bind]
    rfl

/-! ### From the text to the lines

`linesFrom` is what the reader has still to return; `table` says the same of all anchors at once,
line by line.
-/

/-- The marks of the lines from `line` on, of which `current` are already known. -/
def linesFrom (line : Nat) (current : List Mark) : List Anchor → Mappings
  | [] => [current]
  | anchor :: others =>
    if line < anchor.line then
      current :: (List.replicate (anchor.line - line - 1) [] ++
        linesFrom anchor.line [anchor.mark] others)
    else linesFrom line (current ++ [anchor.mark]) others

/-- The line of the last anchor. -/
def lastLine (anchors : List Anchor) : Nat := (anchors.getLast?.map Anchor.line).getD 0

/-- The marks of the anchors on one line. -/
def marksOn (anchors : List Anchor) (line : Nat) : List Mark :=
  (anchors.filter (·.line = line)).map Anchor.mark

/-- For every line up to that of the last anchor, the marks of the anchors on it. -/
def table (anchors : List Anchor) : Mappings :=
  (List.range (lastLine anchors + 1)).map (marksOn anchors)

theorem decodeFrom_replicate_semicolon {sums : Sums} {count position : Nat} {current : List Mark}
    {rest : Text} {lines : Mappings}
    (h : decodeFrom sums.newLine (position + count + 1) [] rest = .ok lines) :
    decodeFrom sums position current (List.replicate (count + 1) ';' ++ rest) =
      .ok (current :: (List.replicate count [] ++ lines)) := by
  induction count generalizing sums position current with
  | zero => simp [decodeFrom, isSeparator, h]
  | succ count ih =>
    have hinner : decodeFrom sums.newLine (position + 1) [] (List.replicate (count + 1) ';' ++ rest)
        = .ok ([] :: (List.replicate count [] ++ lines)) :=
      ih (by rwa [show position + 1 + count + 1 = position + (count + 1) + 1 by omega])
    rw [List.replicate_succ, List.cons_append, decodeFrom, dif_pos (by decide), if_pos rfl, hinner]
    rfl

theorem decodeFrom_comma (sums : Sums) (position : Nat) (current : List Mark) (rest : Text) :
    decodeFrom sums position current (',' :: rest) =
      decodeFrom sums (position + 1) current rest := by
  rw [decodeFrom]
  simp [isSeparator]

/-- A mark is read off its fields, and reading goes on behind it with the next sums. -/
theorem decodeFrom_fields {writer : Writer} (hwriter : writer.Fits) {anchor : Anchor}
    (hfit : anchor.FitsWords) {rest : Text} (hrest : Separated rest) (position : Nat)
    (current : List Mark) :
    ∃ next, decodeFrom writer.sums position current
        ((writer.fields anchor.column anchor.source).flatMap Vlq.encode ++ rest) =
      decodeFrom (writer.put anchor.column anchor.source).sums next (current ++ [anchor.mark])
        rest := by
  have hroom : (writer.fields anchor.column anchor.source).length ≤ 5 := by
    rcases hsource : anchor.source with _ | ⟨line, column⟩ <;> simp [Writer.fields]
  obtain ⟨next, hread⟩ := readFields_flatMap_encode position position
    (Writer.fields_lt hwriter hfit) hroom hrest
  refine ⟨next, ?_⟩
  obtain ⟨c, tail, hcons, hc⟩ :=
    Vlq.exists_encode_eq_cons ((anchor.column : Int) - writer.column)
  have htext : ∃ others, (writer.fields anchor.column anchor.source).flatMap Vlq.encode ++ rest =
      c :: others := by
    unfold Writer.fields
    rw [List.flatMap_cons, hcons]
    exact ⟨_, rfl⟩
  obtain ⟨others, htext⟩ := htext
  have hmark := writer.mark_fields hfit position
  rw [htext] at hread ⊢
  rw [decodeFrom, dif_neg (by simp [hc])]
  split
  · next error herror => simp [hread] at herror
  · next fields stop remaining hfields =>
    rw [hread] at hfields
    simp only [Except.ok.injEq, Prod.mk.injEq] at hfields
    obtain ⟨rfl, rfl, rfl⟩ := hfields
    rw [hmark]

theorem Writer.sums_toLine {writer : Writer} {line : Nat} (h : writer.line < line) :
    (writer.toLine line).sums = writer.sums.newLine := by
  rw [toLine, if_pos h]
  rfl

/-- What a writer adds for some anchors is decoded to the lines of these anchors. -/
theorem decodeFrom_written {writer : Writer} (hwriter : writer.Fits) {anchors : List Anchor}
    (hfit : ∀ anchor ∈ anchors, anchor.FitsWords) (hordered : Anchor.Ordered anchors)
    (hline : ∀ anchor ∈ anchors, writer.line ≤ anchor.line) (position : Nat)
    (current : List Mark) :
    decodeFrom writer.sums position current (writer.written anchors) =
      .ok (linesFrom writer.line current anchors) := by
  induction anchors generalizing writer position current with
  | nil => simp [Writer.written, decodeFrom, linesFrom]
  | cons anchor others ih =>
    have hanchor : anchor.FitsWords := hfit anchor (by simp)
    have hreached : writer.line ≤ anchor.line := hline anchor (by simp)
    have hmoved : (writer.toLine anchor.line).Fits := hwriter.toLine anchor.line
    have hnext : (writer.add anchor).Fits := hmoved.put hanchor
    have hrest : Separated ((writer.add anchor).written others) :=
      Writer.separated_written (by rw [Writer.add, Writer.marks_put]; omega) others
    -- One mark at a time: its fields, then the rest by induction from the writer behind it.
    have hmark : ∀ position current,
        decodeFrom (writer.toLine anchor.line).sums position current
            (((writer.toLine anchor.line).fields anchor.column anchor.source).flatMap Vlq.encode ++
              (writer.add anchor).written others) =
          .ok (linesFrom anchor.line (current ++ [anchor.mark]) others) := by
      intro position current
      obtain ⟨next, hdecode⟩ := decodeFrom_fields hmoved hanchor hrest position current
      rw [hdecode]
      have hlater := ih hnext (fun later hmem => hfit later (by simp [hmem]))
        (List.Pairwise.of_cons hordered)
        (fun later hmem => by
          rw [Writer.line_add hreached]
          exact (List.pairwise_cons.mp hordered).1 later hmem)
        next (current ++ [anchor.mark])
      rwa [Writer.line_add hreached] at hlater
    rw [Writer.written, Writer.gap, linesFrom]
    by_cases hgap : writer.line < anchor.line
    · obtain ⟨count, hcount⟩ : ∃ count, anchor.line - writer.line = count + 1 :=
        ⟨anchor.line - writer.line - 1, by omega⟩
      rw [if_pos hgap, if_pos hgap, hcount]
      apply decodeFrom_replicate_semicolon
      rw [← Writer.sums_toLine hgap]
      exact hmark _ []
    · have hsame : writer.toLine anchor.line = writer := if_neg hgap
      have hequal : writer.line = anchor.line := by omega
      rw [hsame] at hmark
      rw [if_neg hgap, if_neg hgap, hsame, hequal]
      split
      · exact hmark position current
      · rw [List.singleton_append, decodeFrom_comma]
        exact hmark (position + 1) current

theorem decode_encode {anchors : List Anchor} (hfit : ∀ anchor ∈ anchors, anchor.FitsWords)
    (hordered : Anchor.Ordered anchors) :
    decode (encode anchors) = .ok (linesFrom 0 [] anchors) := by
  have hempty : Writer.empty.Fits :=
    ⟨Nat.two_pow_pos 32, Nat.two_pow_pos 32, Nat.two_pow_pos 32⟩
  rw [decode, encode, Writer.output_foldl_add]
  exact decodeFrom_written hempty hfit hordered (fun _ _ => Nat.zero_le _) 0 []

theorem marksOn_cons_self (anchor : Anchor) (others : List Anchor) :
    marksOn (anchor :: others) anchor.line = anchor.mark :: marksOn others anchor.line := by
  simp [marksOn]

theorem marksOn_cons_of_ne {anchor : Anchor} {line : Nat} (h : line ≠ anchor.line)
    (others : List Anchor) : marksOn (anchor :: others) line = marksOn others line := by
  simp [marksOn, Ne.symm h]

theorem marksOn_eq_nil {anchors : List Anchor} {line : Nat}
    (h : ∀ anchor ∈ anchors, line < anchor.line) : marksOn anchors line = [] := by
  have hfilter : anchors.filter (·.line = line) = [] := by
    rw [List.filter_eq_nil_iff]
    intro anchor hmem
    have hlt := h anchor hmem
    simp only [decide_eq_true_eq]
    omega
  rw [marksOn, hfilter, List.map_nil]

theorem le_lastLine {anchors : List Anchor} (hordered : Anchor.Ordered anchors) :
    ∀ anchor ∈ anchors, anchor.line ≤ lastLine anchors := by
  induction anchors with
  | nil => simp
  | cons first others ih =>
    intro anchor hmem
    obtain ⟨hfirst, hothers⟩ := List.pairwise_cons.mp hordered
    cases others with
    | nil => simp_all [lastLine]
    | cons second rest =>
      have hlast : lastLine (first :: second :: rest) = lastLine (second :: rest) := by
        simp [lastLine, List.getLast?_cons_cons]
      rw [hlast]
      rcases List.mem_cons.mp hmem with rfl | hmem
      · exact Nat.le_trans (hfirst second (by simp)) (ih hothers second (by simp))
      · exact ih hothers anchor hmem

theorem max_lastLine_cons {line : Nat} {anchor : Anchor} {others : List Anchor}
    (hordered : Anchor.Ordered (anchor :: others)) (hline : line ≤ anchor.line) :
    max line (lastLine (anchor :: others)) = max anchor.line (lastLine others) := by
  have hfirst := le_lastLine hordered anchor (by simp)
  cases others with
  | nil =>
    have hnil : lastLine [] = 0 := rfl
    have hsingle : lastLine [anchor] = anchor.line := rfl
    omega
  | cons second rest =>
    have hlast : lastLine (anchor :: second :: rest) = lastLine (second :: rest) := by
      simp [lastLine, List.getLast?_cons_cons]
    omega

theorem linesFrom_eq_map_range' {line : Nat} {current : List Mark} {anchors : List Anchor}
    (hordered : Anchor.Ordered anchors) (hline : ∀ anchor ∈ anchors, line ≤ anchor.line) :
    linesFrom line current anchors =
      (List.range' line (max line (lastLine anchors) + 1 - line)).map fun k =>
        (if k = line then current else []) ++ marksOn anchors k := by
  induction anchors generalizing line current with
  | nil =>
    have hone : max line (lastLine []) + 1 - line = 1 := by
      have hnil : lastLine [] = 0 := rfl
      omega
    rw [hone]
    simp [linesFrom, marksOn]
  | cons anchor others ih =>
    have hreached : line ≤ anchor.line := hline anchor (by simp)
    obtain ⟨hlater, hothers⟩ := List.pairwise_cons.mp hordered
    rw [max_lastLine_cons hordered hreached, linesFrom]
    by_cases hgap : line < anchor.line
    · -- The line itself, the empty lines up to the anchor's, and the lines from there on.
      have hsplit : List.range' line (max anchor.line (lastLine others) + 1 - line) =
          line :: (List.range' (line + 1) (anchor.line - line - 1) ++
            List.range' anchor.line (max anchor.line (lastLine others) + 1 - anchor.line)) := by
        have hmiddle : line + 1 + (anchor.line - line - 1) = anchor.line := by omega
        have htail := List.range'_append_1 (s := line + 1) (m := anchor.line - line - 1)
          (n := max anchor.line (lastLine others) + 1 - anchor.line)
        rw [hmiddle] at htail
        rw [htail, ← List.range'_succ]
        congr 1
        omega
      have hnone : ∀ k, k < anchor.line → marksOn (anchor :: others) k = [] := by
        intro k hk
        apply marksOn_eq_nil
        intro later hmem
        rcases List.mem_cons.mp hmem with rfl | hmem
        · exact hk
        · exact Nat.lt_of_lt_of_le hk (hlater later hmem)
      rw [if_pos hgap, hsplit, List.map_cons, List.map_append, if_pos rfl, hnone line hgap,
        List.append_nil, ih hothers hlater]
      congr 2
      · rw [eq_comm, List.eq_replicate_iff]
        refine ⟨by simp, ?_⟩
        intro marks hmem
        obtain ⟨k, hk, rfl⟩ := List.mem_map.mp hmem
        rw [List.mem_range'_1] at hk
        rw [if_neg (by omega), hnone k (by omega), List.append_nil]
      · apply List.map_congr_left
        intro k hk
        rw [List.mem_range'_1] at hk
        rw [if_neg (by omega : k ≠ line), List.nil_append]
        by_cases hself : k = anchor.line
        · subst hself
          rw [if_pos rfl, marksOn_cons_self, List.singleton_append]
        · rw [if_neg hself, marksOn_cons_of_ne hself, List.nil_append]
    · have hequal : anchor.line = line := by omega
      subst hequal
      rw [if_neg hgap, ih hothers hlater]
      apply List.map_congr_left
      intro k hk
      by_cases hself : k = anchor.line
      · subst hself
        rw [if_pos rfl, if_pos rfl, marksOn_cons_self, List.append_assoc, List.singleton_append]
      · rw [if_neg hself, if_neg hself, marksOn_cons_of_ne hself]

/-- **Written mappings are read back.** The text of anchors in the order of their lines is decoded
to one list of marks for every line up to the last anchor's, in which each line has the marks of its
anchors in the order they were added, and each mark the column and the source it was added with. -/
theorem decode_encode_eq_table (anchors : List Anchor)
    (hfit : ∀ anchor ∈ anchors, anchor.FitsWords) (hordered : Anchor.Ordered anchors) :
    decode (encode anchors) = .ok (table anchors) := by
  rw [decode_encode hfit hordered,
    linesFrom_eq_map_range' hordered (fun _ _ => Nat.zero_le _), table, List.range_eq_range',
    Nat.zero_max, Nat.sub_zero]
  congr 1
  apply List.map_congr_left
  intro line _
  rw [ite_self, List.nil_append]

/-- The largest steps in both directions, two marks on a line out of order, and empty lines. -/
theorem decode_encode_eq_table_extremes :
    let anchors : List Anchor :=
      [⟨0, 4294967295, some (4294967295, 0)⟩, ⟨0, 0, none⟩, ⟨3, 7, some (0, 4294967295)⟩]
    (∀ anchor ∈ anchors, anchor.FitsWords) ∧ Anchor.Ordered anchors ∧
      decode (encode anchors) = .ok
        [[⟨4294967295, some ⟨0, 4294967295, 0⟩⟩, ⟨0, none⟩], [], [],
          [⟨7, some ⟨0, 0, 4294967295⟩⟩]] := by
  have hfit : ∀ anchor ∈ ([⟨0, 4294967295, some (4294967295, 0)⟩, ⟨0, 0, none⟩,
      ⟨3, 7, some (0, 4294967295)⟩] : List Anchor), anchor.FitsWords := by
    simp [Anchor.FitsWords]
  have hordered : Anchor.Ordered [⟨0, 4294967295, some (4294967295, 0)⟩, ⟨0, 0, none⟩,
      ⟨3, 7, some (0, 4294967295)⟩] := by
    simp [Anchor.Ordered]
  exact ⟨hfit, hordered, decode_encode_eq_table _ hfit hordered⟩

end ComponentServer.SourceMap
