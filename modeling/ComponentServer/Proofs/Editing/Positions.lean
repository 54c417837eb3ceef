import ComponentServer.Editing.Change
import ComponentServer.Proofs.Text.Place

/-!
# Where the editor and the line index agree

Queries count lines by newlines alone, edits by all line breaks of Unicode. Up to the first break
that is no newline both count the same lines. Behind a carriage return the editor takes the column
back to the end of the line, which is in front of it; behind any other break the editor is a line
ahead, but only from the next character on. So a text is edited where its positions say if and only
if it holds no carriage return and none of the other breaks, except as its very last character.
-/

namespace ComponentServer.Change

open Text

/-- The breaks of the editor besides the newline and the carriage return: vertical tab, form feed,
next line, line separator and paragraph separator. -/
def rareBreaks : List Char := ['\x0b', '\x0c', '\u0085', '\u2028', '\u2029']

/-- No carriage return, and no rare break except as the last character. -/
def NewlinesOnly (text : Text) : Prop := '\r' ∉ text ∧ ∀ c ∈ text.dropLast, c ∉ rareBreaks

instance (text : Text) : Decidable (NewlinesOnly text) := inferInstanceAs (Decidable (_ ∧ _))

/-- The editor finds every offset of the text at the position that the line index gives it. -/
def FindsOffsets (text : Text) : Prop :=
  ∀ offset, IsBoundary text offset →
    charIndex text (positionAt text offset) = (takeBytes offset text).length

theorem isBreak_iff {c : Char} : isBreak c = true ↔ c = '\n' ∨ c = '\r' ∨ c ∈ rareBreaks := by
  have hcode : ∀ d : Char, c = d ↔ c.toNat = d.toNat := fun d => Char.toNat_inj.symm
  simp only [isBreak, rareBreaks, List.mem_cons, List.not_mem_nil, hcode, Char.reduceToNat,
    or_false, Bool.or_eq_true, Bool.and_eq_true, decide_eq_true_eq, beq_iff_eq]
  omega

/-! ### The lines of the editor -/

theorem lines_ne_nil (text : Text) : lines text ≠ [] := by
  fun_cases lines text <;> simp_all

theorem lines_cons_of_isBreak {c : Char} (hbreak : isBreak c = true) (hreturn : c ≠ '\r')
    (rest : Text) : lines (c :: rest) = [c] :: lines rest := by
  rw [lines]
  · simp [hbreak]
  · rintro _ rfl
    exact absurd rfl hreturn

theorem lines_cons_of_not_isBreak {c : Char} (hbreak : isBreak c = false) {rest line : Text}
    {others : List Text} (hrest : lines rest = line :: others) :
    lines (c :: rest) = (c :: line) :: others := by
  rw [lines]
  · simp [hbreak, hrest]
  · rintro _ rfl
    exact absurd hbreak (by decide)

theorem lines_append_of_not_isBreak {part : Text} (hpart : ∀ c ∈ part, isBreak c = false)
    {rest line : Text} {others : List Text} (hrest : lines rest = line :: others) :
    lines (part ++ rest) = (part ++ line) :: others := by
  induction part with
  | nil => exact hrest
  | cons c part ih =>
    have hlines := ih fun d hd => hpart d (List.mem_cons_of_mem _ hd)
    exact lines_cons_of_not_isBreak (hpart c (by simp)) hlines

/-- A carriage return ends its line, with or without a newline. -/
theorem exists_lines_return (rest : Text) :
    ∃ line others, lines ('\r' :: rest) = line :: others ∧ lineBody line = [] := by
  by_cases hnewline : ∃ left, rest = '\n' :: left
  · obtain ⟨left, rfl⟩ := hnewline
    exact ⟨['\r', '\n'], lines left, by rw [lines], rfl⟩
  · refine ⟨['\r'], lines rest, ?_, rfl⟩
    rw [lines]
    · simp [isBreak]
    · rintro left - rfl
      exact hnewline ⟨left, rfl⟩

/-- All breaks in the text are newlines. -/
def Plain (text : Text) : Prop := ∀ c ∈ text, isBreak c = true → c = '\n'

/-- Whole lines in front of a text come out as lines of their own. -/
theorem exists_lines_append {front : Text} (hplain : Plain front)
    (hends : front = [] ∨ ∃ inner, front = inner ++ ['\n']) (rest : Text) :
    ∃ whole, lines (front ++ rest) = whole ++ lines rest ∧ whole.flatten = front ∧
      whole.length = front.count '\n' := by
  induction front with
  | nil => exact ⟨[], rfl, rfl, rfl⟩
  | cons c front ih =>
    have hfront : Plain front := fun d hd => hplain d (List.mem_cons_of_mem _ hd)
    have htail : front = [] ∨ ∃ inner, front = inner ++ ['\n'] := by
      obtain hnil | ⟨inner, hinner⟩ := hends
      · cases hnil
      · cases inner with
        | nil => exact Or.inl (List.cons.inj hinner).2
        | cons d inner => exact Or.inr ⟨inner, (List.cons.inj hinner).2⟩
    obtain ⟨whole, hlines, hflatten, hlength⟩ := ih hfront htail
    by_cases hc : c = '\n'
    · subst hc
      refine ⟨['\n'] :: whole, ?_, by simp [hflatten], by simp [hlength]⟩
      rw [List.cons_append, lines_cons_of_isBreak (by decide) (by decide), hlines,
        List.cons_append]
    · have hbreak : isBreak c = false := by
        by_contra hbreak
        exact hc (hplain c (by simp) (by simpa using hbreak))
      -- The rest of the line is not empty, as it has a newline at its end.
      obtain ⟨line, others, rfl⟩ : ∃ line others, whole = line :: others := by
        apply List.exists_cons_of_ne_nil
        rintro rfl
        obtain rfl : front = [] := hflatten.symm
        obtain hnil | ⟨inner, hinner⟩ := hends
        · cases hnil
        · have hlast := congrArg List.getLast? hinner
          simp only [List.getLast?_singleton, List.getLast?_append, Option.some_or,
            Option.some.injEq] at hlast
          exact hc hlast
      refine ⟨(c :: line) :: others, ?_, by simpa using hflatten, by simpa [hc] using hlength⟩
      exact lines_cons_of_not_isBreak hbreak hlines

theorem charIndex_of_lines {text line : Text} {whole others : List Text}
    (h : lines text = whole ++ line :: others) (column : Nat) :
    charIndex text ⟨whole.length, column⟩ =
      whole.flatten.length + charsWithin (lineBody line) column := by
  rw [charIndex, h, List.drop_left, List.take_left]

/-- Behind whole lines the editor goes on with the column in the line that follows. -/
theorem charIndex_append {front : Text} (hplain : Plain front)
    (hends : front = [] ∨ ∃ inner, front = inner ++ ['\n']) {rest line : Text}
    {others : List Text} (hrest : lines rest = line :: others) (column : Nat) :
    charIndex (front ++ rest) ⟨front.count '\n', column⟩ =
      front.length + charsWithin (lineBody line) column := by
  obtain ⟨whole, hlines, hflatten, hlength⟩ := exists_lines_append hplain hends rest
  rw [hrest] at hlines
  rw [← hlength, charIndex_of_lines hlines, hflatten]

theorem charsWithin_le (text : Text) (column : Nat) : charsWithin text column ≤ text.length := by
  induction text generalizing column with
  | nil => simp [charsWithin]
  | cons c rest ih =>
    rw [charsWithin]
    split
    · have hrest := ih (column - units16 c)
      rw [List.length_cons]
      omega
    · omega

theorem charsWithin_append (part rest : Text) :
    charsWithin (part ++ rest) (width part) = part.length := by
  induction part with
  | nil =>
    cases rest with
    | nil => rfl
    | cons c rest =>
      have hpos := units16_pos c
      rw [List.nil_append, charsWithin, width_nil, if_neg (by omega), List.length_nil]
  | cons c part ih =>
    rw [List.cons_append, charsWithin, width_cons, if_pos (Nat.le_add_right _ _),
      Nat.add_sub_cancel_left, ih, List.length_cons]
    omega

theorem length_lineBody_le (line : Text) : (lineBody line).length ≤ line.length := by
  rw [lineBody, List.length_reverse, ← @List.length_reverse _ line]
  exact (List.dropWhile_suffix _).length_le

theorem lineBody_append {part : Text} (hnewline : '\n' ∉ part) (hreturn : '\r' ∉ part)
    (rest : Text) : lineBody (part ++ rest) = part ++ lineBody rest := by
  rw [lineBody, lineBody, List.reverse_append, List.dropWhile_append]
  split
  next hall =>
    have hkept : part.reverse.dropWhile (fun c => c == '\n' || c == '\r') = part.reverse := by
      cases hreverse : part.reverse with
      | nil => rfl
      | cons c front =>
        have hmem : c ∈ part := by
          rw [← List.mem_reverse, hreverse]
          simp
        have hc : (c == '\n' || c == '\r') = false := by
          simp [ne_of_mem_of_not_mem hmem hnewline, ne_of_mem_of_not_mem hmem hreturn]
        rw [List.dropWhile_cons_of_neg (by simp [hc])]
    rw [hkept, List.isEmpty_iff.mp hall]
    simp
  next => simp

/-! ### Texts with newlines only -/

theorem Plain.isBreak_eq_false {text : Text} (h : Plain text) (hnewline : '\n' ∉ text) :
    ∀ c ∈ text, isBreak c = false := by
  intro c hc
  by_contra hbreak
  have hc' := h c hc (by simpa using hbreak)
  exact hnewline (hc' ▸ hc)

theorem NewlinesOnly.plain {front rest : Text} {c : Char} (h : NewlinesOnly (front ++ c :: rest)) :
    Plain front := by
  intro d hd hbreak
  rcases isBreak_iff.mp hbreak with hnewline | rfl | hrare
  · exact hnewline
  · exact absurd (List.mem_append_left _ hd) h.1
  · have hmem : d ∈ (front ++ c :: rest).dropLast := by
      rw [List.dropLast_append_of_ne_nil (by simp)]
      exact List.mem_append_left _ hd
    exact absurd hrare (h.2 d hmem)

theorem Plain.newlinesOnly {front : Text} (h : Plain front) {c : Char} (hc : c ≠ '\r') :
    NewlinesOnly (front ++ [c]) := by
  constructor
  · intro hmem
    rcases List.mem_append.mp hmem with hmem | hmem
    · exact absurd (h '\r' hmem (by decide)) (by decide)
    · exact hc (List.mem_singleton.mp hmem).symm
  · intro d hd hrare
    rw [List.dropLast_concat] at hd
    obtain rfl := h d hd (isBreak_iff.mpr (Or.inr (Or.inr hrare)))
    exact absurd hrare (by decide)

theorem exists_lines_singleton {c : Char} (hc : c ≠ '\r') :
    ∃ others, lines [c] = [c] :: others := by
  by_cases hbreak : isBreak c = true
  · exact ⟨_, lines_cons_of_isBreak hbreak hc []⟩
  · exact ⟨[], lines_cons_of_not_isBreak (by simpa using hbreak) rfl⟩

/-- What stands in front of a boundary on its line starts a line of the editor. -/
theorem NewlinesOnly.exists_line {whole last after : Text}
    (h : NewlinesOnly (whole ++ last ++ after)) (hlast : '\n' ∉ last) :
    ∃ more others, lines (last ++ after) = (last ++ more) :: others := by
  cases after with
  | cons c after =>
    have hplain : Plain last := fun d hd => h.plain d (List.mem_append_right _ hd)
    obtain ⟨line, others, hlines⟩ := List.exists_cons_of_ne_nil (lines_ne_nil (c :: after))
    exact ⟨line, others,
      lines_append_of_not_isBreak (hplain.isBreak_eq_false hlast) hlines⟩
  | nil =>
    rcases List.eq_nil_or_concat' last with rfl | ⟨front, c, rfl⟩
    · exact ⟨[], [], rfl⟩
    · have hc : c ≠ '\r' := by
        rintro rfl
        exact h.1 (by simp)
      obtain ⟨others, hlines⟩ := exists_lines_singleton hc
      rw [List.append_nil, ← List.append_assoc] at h
      have hplain : Plain front := fun d hd => h.plain d (List.mem_append_right _ hd)
      have hfront : '\n' ∉ front := fun hmem => hlast (List.mem_append_left _ hmem)
      refine ⟨[], others, ?_⟩
      rw [List.append_nil]
      exact lines_append_of_not_isBreak (hplain.isBreak_eq_false hfront) hlines

theorem NewlinesOnly.charIndex_reach {before after : Text} (h : NewlinesOnly (before ++ after)) :
    charIndex (before ++ after) (reach before) = before.length := by
  obtain ⟨whole, last, rfl, hlast, hwhole⟩ := exists_lastLine before
  have hplain : Plain whole := by
    obtain rfl | ⟨inner, rfl⟩ := hwhole
    · simp [Plain]
    · simp only [List.append_assoc, List.singleton_append] at h
      intro c hc hbreak
      rcases List.mem_append.mp hc with hc | hc
      · exact h.plain c hc hbreak
      · exact List.mem_singleton.mp hc
  have hreturn : '\r' ∉ last := fun hmem => h.1 (by simp [hmem])
  obtain ⟨more, others, hlines⟩ := h.exists_line hlast
  rw [reach_lines_append hlast hwhole, List.append_assoc, charIndex_append hplain hwhole hlines,
    lineBody_append hlast hreturn, charsWithin_append, List.length_append]

/-! ### Other breaks -/

theorem FindsOffsets.charIndex_reach {before after : Text} (h : FindsOffsets (before ++ after)) :
    charIndex (before ++ after) (reach before) = before.length := by
  have hfound := h (size before) ⟨before, after, rfl, rfl⟩
  rwa [positionAt_append, takeBytes_append_size] at hfound

/-- Behind a carriage return the column is past the end of the editor's line. -/
theorem not_findsOffsets_return {front : Text} (hplain : Plain front) (rest : Text) :
    ¬ FindsOffsets (front ++ '\r' :: rest) := by
  intro hfinds
  obtain ⟨whole, last, rfl, hlast, hwhole⟩ := exists_lastLine front
  have hwholePlain : Plain whole := fun c hc => hplain c (List.mem_append_left _ hc)
  have hlastPlain : Plain last := fun c hc => hplain c (List.mem_append_right _ hc)
  have hreturn : '\r' ∉ last := fun hmem => absurd (hlastPlain _ hmem (by decide)) (by decide)
  obtain ⟨line, others, hline, hbody⟩ := exists_lines_return rest
  have hlines := lines_append_of_not_isBreak (hlastPlain.isBreak_eq_false hlast) hline
  have hbehind : '\n' ∉ last ++ ['\r'] := by simp [hlast]
  have htext : whole ++ last ++ '\r' :: rest = whole ++ (last ++ ['\r']) ++ rest := by simp
  rw [htext] at hfinds
  have hfound := hfinds.charIndex_reach
  rw [reach_lines_append hbehind hwhole, ← htext, List.append_assoc,
    charIndex_append hwholePlain hwhole hlines, lineBody_append hlast hreturn, hbody] at hfound
  have hle := charsWithin_le (last ++ []) (width (last ++ ['\r']))
  simp only [List.length_append, List.length_nil, List.length_singleton] at hfound hle
  omega

/-- One character behind a rare break the editor is on the next line. -/
theorem not_findsOffsets_rare {front : Text} (hplain : Plain front) {c : Char}
    (hc : c ∈ rareBreaks) (d : Char) (rest : Text) : ¬ FindsOffsets (front ++ c :: d :: rest) := by
  intro hfinds
  have hbreak : isBreak c = true := isBreak_iff.mpr (Or.inr (Or.inr hc))
  have hne : c ≠ '\r' ∧ c ≠ '\n' := by
    constructor <;> rintro rfl <;> exact absurd hc (by decide)
  obtain ⟨whole, last, rfl, hlast, hwhole⟩ := exists_lastLine front
  have hwholePlain : Plain whole := fun e he => hplain e (List.mem_append_left _ he)
  have hlastPlain : Plain last := fun e he => hplain e (List.mem_append_right _ he)
  have hlines := lines_append_of_not_isBreak (hlastPlain.isBreak_eq_false hlast)
    (lines_cons_of_isBreak hbreak hne.1 (d :: rest))
  by_cases hd : d = '\n'
  · subst hd
    obtain ⟨front, hfront, hflatten, hlength⟩ :=
      exists_lines_append hwholePlain hwhole (last ++ c :: '\n' :: rest)
    have hnext : lines (whole ++ last ++ [c, '\n'] ++ rest) =
        (front ++ [last ++ [c]]) ++ ['\n'] :: lines rest := by
      rw [hlines, lines_cons_of_isBreak (by decide) (by decide)] at hfront
      simpa using hfront
    have hreach : reach (whole ++ last ++ [c, '\n']) = ⟨(front ++ [last ++ [c]]).length, 0⟩ := by
      have hends := @reach_lines_append (whole ++ last ++ [c, '\n']) [] (by simp)
        (Or.inr ⟨whole ++ last ++ [c], by simp⟩)
      simpa [hlength, List.count_eq_zero_of_not_mem hlast, hne.2] using hends
    have htext : whole ++ last ++ c :: '\n' :: rest = whole ++ last ++ [c, '\n'] ++ rest := by simp
    rw [htext] at hfinds
    have hfound := hfinds.charIndex_reach
    rw [hreach, charIndex_of_lines hnext] at hfound
    have hle := charsWithin_le (lineBody ['\n']) 0
    have hbody : (lineBody ['\n']).length = 0 := rfl
    simp only [List.flatten_append, hflatten, List.length_append, List.flatten_singleton,
      List.length_cons, List.length_nil] at hfound
    omega
  · have hbehind : '\n' ∉ last ++ [c, d] := by simp [hlast, Ne.symm hd, Ne.symm hne.2]
    have htext : whole ++ last ++ c :: d :: rest = whole ++ (last ++ [c, d]) ++ rest := by simp
    rw [htext] at hfinds
    have hfound := hfinds.charIndex_reach
    rw [reach_lines_append hbehind hwhole, ← htext, List.append_assoc,
      charIndex_append hwholePlain hwhole hlines] at hfound
    have hle := charsWithin_le (lineBody (last ++ [c])) (width (last ++ [c, d]))
    have hbody := length_lineBody_le (last ++ [c])
    simp only [List.length_append, List.length_cons, List.length_nil] at hfound hbody
    omega

theorem exists_first_break {text : Text} (h : ¬ Plain text) :
    ∃ front c rest, text = front ++ c :: rest ∧ Plain front ∧ isBreak c = true ∧ c ≠ '\n' := by
  induction text with
  | nil => exact absurd (by simp [Plain]) h
  | cons c text ih =>
    by_cases hc : isBreak c = true ∧ c ≠ '\n'
    · exact ⟨[], c, text, rfl, by simp [Plain], hc⟩
    · have hhere : isBreak c = true → c = '\n' := by
        intro hbreak
        by_contra hne
        exact hc ⟨hbreak, hne⟩
      have hrest : ¬ Plain text := by
        intro hplain
        refine h fun d hd => ?_
        rcases List.mem_cons.mp hd with rfl | hd
        · exact hhere
        · exact hplain d hd
      obtain ⟨front, d, rest, rfl, hfront, hd⟩ := ih hrest
      refine ⟨c :: front, d, rest, rfl, ?_, hd⟩
      intro e he
      rcases List.mem_cons.mp he with rfl | he
      · exact hhere
      · exact hfront e he

theorem FindsOffsets.newlinesOnly {text : Text} (h : FindsOffsets text) : NewlinesOnly text := by
  by_cases hplain : Plain text
  · rcases List.eq_nil_or_concat' text with rfl | ⟨front, c, rfl⟩
    · exact ⟨by simp, by simp⟩
    · have hfront : Plain front := fun d hd => hplain d (List.mem_append_left _ hd)
      refine hfront.newlinesOnly ?_
      rintro rfl
      exact absurd (hplain '\r' (by simp) (by decide)) (by decide)
  · obtain ⟨front, c, rest, rfl, hfront, hbreak, hnewline⟩ := exists_first_break hplain
    rcases isBreak_iff.mp hbreak with hc | rfl | hrare
    · exact absurd hc hnewline
    · exact absurd h (not_findsOffsets_return hfront rest)
    · cases rest with
      | nil =>
        refine hfront.newlinesOnly ?_
        rintro rfl
        exact absurd hrare (by decide)
      | cons d rest => exact absurd h (not_findsOffsets_rare hfront hrare d rest)

theorem NewlinesOnly.findsOffsets {text : Text} (h : NewlinesOnly text) : FindsOffsets text := by
  rintro offset ⟨before, after, rfl, rfl⟩
  rw [positionAt_append, takeBytes_append_size]
  exact h.charIndex_reach

/-- Where every offset is found, a change of a span changes that span. -/
theorem FindsOffsets.apply_regionOf {text : Text} (h : FindsOffsets text) {first last : Nat}
    (hfirst : IsBoundary text first) (hlast : IsBoundary text last) (hle : first ≤ last)
    (replacement : Text) :
    apply text ⟨some (text.regionOf ⟨first, last⟩), replacement⟩ =
      takeBytes first text ++ replacement ++ dropBytes last text := by
  obtain ⟨before, rest, rfl, rfl⟩ := hfirst
  obtain ⟨front, after, htext, rfl⟩ := hlast
  obtain ⟨part, rfl, rfl⟩ := exists_between_of_size_le htext hle
  have hstart : charIndex (before ++ (part ++ after))
      (positionAt (before ++ (part ++ after)) (size before)) = before.length := by
    rw [positionAt_append]
    exact h.charIndex_reach
  have hstop : charIndex (before ++ (part ++ after))
      (positionAt (before ++ (part ++ after)) (size (before ++ part))) =
        (before ++ part).length := by
    rw [htext] at h ⊢
    rw [positionAt_append]
    exact h.charIndex_reach
  have hmax : max (before ++ part).length before.length = (before ++ part).length := by simp
  simp only [apply, regionOf, hstart, hstop, hmax, takeBytes_append_size, List.take_left]
  rw [htext, dropBytes_append_size, List.drop_left]

/-- **The editor and the line index designate the same places exactly in texts with newlines only**,
and there every edit of a span does what it says. -/
theorem findsOffsets_iff_newlinesOnly (text : Text) :
    (FindsOffsets text ↔ NewlinesOnly text) ∧
      (NewlinesOnly text → ∀ first last, IsBoundary text first → IsBoundary text last →
        first ≤ last → ∀ replacement,
          apply text ⟨some (text.regionOf ⟨first, last⟩), replacement⟩ =
            takeBytes first text ++ replacement ++ dropBytes last text) := by
  refine ⟨⟨FindsOffsets.newlinesOnly, NewlinesOnly.findsOffsets⟩, ?_⟩
  intro hnewlines first last hfirst hlast hle replacement
  exact hnewlines.findsOffsets.apply_regionOf hfirst hlast hle replacement

/-- A pair of surrogates in front, a newline in the middle, a form feed at the end. -/
theorem findsOffsets_iff_newlinesOnly_formFeed :
    NewlinesOnly ['😀', 'a', '\n', 'b', '\x0c'] ∧
      apply ['😀', 'a', '\n', 'b', '\x0c']
          ⟨some (Text.regionOf ['😀', 'a', '\n', 'b', '\x0c'] ⟨4, 7⟩), ['é']⟩ =
        ['😀', 'é', '\x0c'] := by
  have hnewlines : NewlinesOnly ['😀', 'a', '\n', 'b', '\x0c'] := by
    simp [NewlinesOnly, rareBreaks]
  refine ⟨hnewlines, ?_⟩
  exact (findsOffsets_iff_newlinesOnly _).2 hnewlines 4 7 (by decide) (by decide) (by decide) ['é']

end ComponentServer.Change
