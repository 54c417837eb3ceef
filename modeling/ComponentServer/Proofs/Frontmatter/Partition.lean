import ComponentServer.Proofs.Frontmatter
import ComponentServer.Proofs.Text.Cut
import ComponentServer.Proofs.Text.Place

/-!
# The first two fences

A scan finds the first `---` and then the first one that does not overlap it. Where these stand fixes
all that the scan records: the edges of the fences, what stands around them, and the positions of the
edges. The scanner counts a position from its own newlines and its own last line, which comes out the
same as walking there.
-/

namespace ComponentServer

namespace Text

/-! ### First occurrences -/

/-- Where the needle stands in the text, from an offset on. -/
def occurrences (text needle : Text) (first : Nat) : Set Nat :=
  {offset | first ≤ offset ∧ StandsAt text offset needle}

variable {needle front back before after : Text}

theorem mem_occurrences_append_iff {offset : Nat} :
    offset ∈ occurrences (front ++ back) needle (size front) ↔
      ∃ before after, back = before ++ (needle ++ after) ∧ offset = size (front ++ before) := by
  constructor
  · rintro ⟨hle, before, after, hcut, rfl⟩
    rw [List.append_assoc] at hcut
    obtain ⟨part, rfl, hback⟩ := exists_between_of_size_le hcut hle
    exact ⟨part, after, hback, rfl⟩
  · rintro ⟨before, after, rfl, rfl⟩
    refine ⟨?_, front ++ before, after, by simp, rfl⟩
    rw [size_append]
    exact Nat.le_add_right _ _

theorem occurrences_eq_empty_of_cut? (front : Text) (h : cut? needle back = none) :
    occurrences (front ++ back) needle (size front) = ∅ := by
  rw [cut?, cutWhere?_eq_none_iff] at h
  rw [Set.eq_empty_iff_forall_notMem]
  intro offset hoffset
  obtain ⟨before, after, rfl, -⟩ := mem_occurrences_append_iff.mp hoffset
  have hnone := h (needle ++ after) (List.suffix_append _ _)
  rw [List.isPrefixOf_iff_prefix.mpr (List.prefix_append _ _)] at hnone
  cases hnone

theorem isLeast_occurrences_of_cut? (front : Text)
    (h : cut? needle back = some (before, after)) :
    IsLeast (occurrences (front ++ back) needle (size front)) (size (front ++ before)) := by
  obtain rfl := cutWhere?_append h
  rw [cut?, cutWhere?_append_eq_some_iff] at h
  obtain ⟨following, rfl⟩ := List.isPrefixOf_iff_prefix.mp h.1
  refine ⟨mem_occurrences_append_iff.mpr ⟨before, following, rfl, rfl⟩, ?_⟩
  intro offset hoffset
  obtain ⟨before', following', hcut, rfl⟩ := mem_occurrences_append_iff.mp hoffset
  rw [size_append, size_append]
  by_contra hlt
  -- An earlier occurrence would have ended the search before.
  obtain ⟨part, rfl, hpart⟩ := exists_between_of_size_le hcut.symm (by omega)
  have hne : part ≠ [] := by
    rintro rfl
    simp at hlt
  have hlater := h.2 part (List.suffix_append _ _) hne
  rw [← hpart, List.isPrefixOf_iff_prefix.mpr (List.prefix_append _ _)] at hlater
  cases hlater

/-! ### Two ways to count a position -/

theorem width_reverse (text : Text) : width text.reverse = width text := by
  induction text with
  | nil => rfl
  | cons c rest ih =>
    rw [List.reverse_cons, width_append, ih, width_cons, width_cons, width_nil, Nat.add_zero,
      Nat.add_comm]

/-- Counting newlines and the last line leads to the same position as walking through the text. -/
theorem endPosition_eq_reach (text : Text) : endPosition text = reach text := by
  obtain ⟨lines, last, rfl, hlast, hlines⟩ := exists_lastLine text
  have hcount : (lines ++ last).count '\n' = lines.count '\n' := by
    rw [List.count_append, List.count_eq_zero.mpr hlast, Nat.add_zero]
  have hkept : ∀ c ∈ last.reverse, (c != '\n') = true := by
    intro c hc
    rw [List.mem_reverse] at hc
    rw [bne_iff_ne]
    exact ne_of_mem_of_not_mem hc hlast
  have hstop : lines.reverse.takeWhile (· != '\n') = [] := by
    rcases hlines with rfl | ⟨front, rfl⟩
    · rfl
    · rw [List.reverse_append, List.reverse_singleton, List.singleton_append,
        List.takeWhile_cons_of_neg (by simp)]
  have hwidth : width ((lines ++ last).reverse.takeWhile (· != '\n')) = width last := by
    rw [List.reverse_append, List.takeWhile_append_of_pos hkept, hstop, List.append_nil,
      width_reverse]
  rw [endPosition, reach_lines_append hlast hlines, hcount, hwidth]

/-- The offset and the position lead to each other. -/
def Corresponds (text : Text) (offset : Nat) (position : Position) : Prop :=
  positionAt text offset = position ∧ offsetAt? text position = some offset

theorem corresponds_endPosition (before after : Text) :
    Corresponds (before ++ after) (size before) before.endPosition := by
  rw [endPosition_eq_reach]
  exact ⟨positionAt_append before after, offsetAt?_reach before after⟩

end Text

open Text

/-! ### Fences -/

/-- The fence records an occurrence of its mark, with the positions of both edges. -/
structure Fence.Marks (text : Text) (fence : Fence) : Prop where
  stands : StandsAt text fence.start mark
  stop_eq : fence.stop = fence.start + size mark
  startPosition : Corresponds text fence.start fence.startPosition
  stopPosition : Corresponds text fence.stop fence.stopPosition

theorem Fence.marks_after (before rest : Text) :
    (Fence.after before).Marks (before ++ mark ++ rest) where
  stands := standsAt_append before mark rest
  stop_eq := size_append before mark
  startPosition := by
    rw [List.append_assoc]
    exact corresponds_endPosition before (mark ++ rest)
  stopPosition := corresponds_endPosition (before ++ mark) rest

theorem Fence.Marks.eq_of_start {text : Text} {left right : Fence} (hleft : left.Marks text)
    (hright : right.Marks text) (h : left.start = right.start) : left = right := by
  have hstop : left.stop = right.stop := by rw [hleft.stop_eq, hright.stop_eq, h]
  have hstartPosition : left.startPosition = right.startPosition := by
    rw [← hleft.startPosition.1, ← hright.startPosition.1, h]
  have hstopPosition : left.stopPosition = right.stopPosition := by
    rw [← hleft.stopPosition.1, ← hright.stopPosition.1, hstop]
  cases left
  cases right
  simp_all

namespace Frontmatter

/-- What the fences of a text are. Without any there is no frontmatter, and with a single one it goes
on to the end of the text. Otherwise the first one and the first one behind it cut the text into what
stands in front, the body, and the markup. -/
def Partitions (text : Text) : Frontmatter → Prop
  | absent => occurrences text Fence.mark 0 = ∅
  | opened fence insertion =>
    fence.Marks text ∧ IsLeast (occurrences text Fence.mark 0) fence.start ∧
      occurrences text Fence.mark fence.stop = ∅ ∧ insertion = size text ∧
      (opened fence insertion).markupStart (size text) = size text
  | closed first last =>
    first.Marks text ∧ IsLeast (occurrences text Fence.mark 0) first.start ∧
      last.Marks text ∧ IsLeast (occurrences text Fence.mark first.stop) last.start ∧
      ∃ body, (closed first last).body? = some body ∧
        text = text.takeBytes first.start ++ Fence.mark ++ text.slice body ++ Fence.mark ++
          text.dropBytes ((closed first last).markupStart (size text)) ∧
        ¬ Fence.mark <:+: text.slice body

/-- The parts around two fences, as the recorded offsets cut them out. -/
theorem slices_of_fences (before body rest : Text) :
    let text := before ++ Fence.mark ++ body ++ Fence.mark ++ rest
    text.takeBytes (size before) = before ∧
      text.slice ⟨size (before ++ Fence.mark), size (before ++ Fence.mark ++ body)⟩ = body ∧
      text.dropBytes (size (before ++ Fence.mark ++ body ++ Fence.mark)) = rest := by
  intro text
  have htake : text = before ++ (Fence.mark ++ body ++ Fence.mark ++ rest) := by simp [text]
  have hbody : StandsAt text (size (before ++ Fence.mark)) body :=
    ⟨before ++ Fence.mark, Fence.mark ++ rest, by simp [text], rfl⟩
  refine ⟨?_, ?_, dropBytes_append_size _ rest⟩
  · rw [htake]
    exact takeBytes_append_size before _
  · rw [size_append (before ++ Fence.mark) body]
    exact hbody.slice_eq

theorem partitions_closed {before body rest : Text}
    (hfirst : IsLeast (occurrences (before ++ Fence.mark ++ body ++ Fence.mark ++ rest) Fence.mark 0)
      (size before))
    (hlast : IsLeast (occurrences (before ++ Fence.mark ++ body ++ Fence.mark ++ rest) Fence.mark
      (size (before ++ Fence.mark))) (size (before ++ Fence.mark ++ body))) :
    (closed (Fence.after before) (Fence.after (before ++ Fence.mark ++ body))).Partitions
      (before ++ Fence.mark ++ body ++ Fence.mark ++ rest) := by
  obtain ⟨htake, hslice, hdrop⟩ := slices_of_fences before body rest
  have hmarks : (Fence.after before).Marks
      (before ++ Fence.mark ++ body ++ Fence.mark ++ rest) := by
    simpa using Fence.marks_after before (body ++ Fence.mark ++ rest)
  refine ⟨hmarks, hfirst, Fence.marks_after (before ++ Fence.mark ++ body) rest, hlast, _, rfl, ?_, ?_⟩
  · simp only [Fence.after, markupStart, htake, hslice, hdrop]
  · simp only [Fence.after, hslice]
    rintro ⟨front, back, rfl⟩
    -- A mark in the body would stand in front of the second fence.
    have hinside : size (before ++ Fence.mark ++ front) ∈
        occurrences (before ++ Fence.mark ++ (front ++ Fence.mark ++ back) ++ Fence.mark ++ rest)
          Fence.mark (size (before ++ Fence.mark)) := by
      refine ⟨?_, before ++ Fence.mark ++ front, back ++ Fence.mark ++ rest, by simp, rfl⟩
      simp only [size_append]
      omega
    have hle := hlast.2 hinside
    have hmark : size Fence.mark = 3 := rfl
    simp only [size_append] at hle
    omega

theorem partitions_scan (text : Text) : (scan text).Partitions text := by
  unfold scan
  split
  next hnone => exact occurrences_eq_empty_of_cut? [] hnone
  next before found hfirst =>
    have htext := append_of_cut? hfirst
    have hleast : IsLeast (occurrences text Fence.mark 0) (size before) :=
      isLeast_occurrences_of_cut? [] hfirst
    simp only
    generalize found.drop Fence.mark.length = following at htext ⊢
    subst htext
    split
    next hnone =>
      exact ⟨Fence.marks_after before following, hleast,
        occurrences_eq_empty_of_cut? (before ++ Fence.mark) hnone, rfl, rfl⟩
    next body found' hsecond =>
      have hfollowing := append_of_cut? hsecond
      have hnext : IsLeast (occurrences (before ++ Fence.mark ++ following) Fence.mark
          (size (before ++ Fence.mark))) (size (before ++ Fence.mark ++ body)) :=
        isLeast_occurrences_of_cut? (before ++ Fence.mark) hsecond
      generalize found'.drop Fence.mark.length = rest at hfollowing
      subst hfollowing
      have hsplit : before ++ Fence.mark ++ (body ++ Fence.mark ++ rest) =
          before ++ Fence.mark ++ body ++ Fence.mark ++ rest := by simp
      rw [hsplit] at hleast hnext ⊢
      exact partitions_closed hleast hnext

/-- The places of the fences fix the frontmatter. -/
theorem Partitions.unique {text : Text} {left right : Frontmatter} (hleft : left.Partitions text)
    (hright : right.Partitions text) : left = right := by
  cases left with
  | absent =>
    cases right with
    | absent => rfl
    | opened fence insertion => exact absurd (hleft ▸ hright.2.1.1) (Set.notMem_empty _)
    | closed first last => exact absurd (hleft ▸ hright.2.1.1) (Set.notMem_empty _)
  | opened fence insertion =>
    obtain ⟨hmarks, hleast, hnone, hinsertion, -⟩ := hleft
    cases right with
    | absent => exact absurd (hright ▸ hleast.1) (Set.notMem_empty _)
    | opened fence' insertion' =>
      obtain ⟨hmarks', hleast', -, hinsertion', -⟩ := hright
      rw [hmarks.eq_of_start hmarks' (hleast.unique hleast'), hinsertion, hinsertion']
    | closed first last =>
      obtain ⟨hfirst, hleast', -, hnext, -⟩ := hright
      obtain rfl := hmarks.eq_of_start hfirst (hleast.unique hleast')
      exact absurd (hnone ▸ hnext.1) (Set.notMem_empty _)
  | closed first last =>
    obtain ⟨hfirst, hleast, hlast, hnext, -⟩ := hleft
    cases right with
    | absent => exact absurd (hright ▸ hleast.1) (Set.notMem_empty _)
    | opened fence insertion =>
      obtain ⟨hmarks, hleast', hnone, -⟩ := hright
      obtain rfl := hmarks.eq_of_start hfirst (hleast'.unique hleast)
      exact absurd (hnone ▸ hnext.1) (Set.notMem_empty _)
    | closed first' last' =>
      obtain ⟨hfirst', hleast', hlast', hnext', -⟩ := hright
      obtain rfl := hfirst.eq_of_start hfirst' (hleast.unique hleast')
      rw [hlast.eq_of_start hlast' (hnext.unique hnext')]

/-- **A scan finds the first two fences of a text and nothing else**, with the positions of their
edges. -/
theorem scan_eq_iff_partitions (text : Text) (found : Frontmatter) :
    scan text = found ↔ found.Partitions text := by
  constructor
  · rintro rfl
    exact partitions_scan text
  · exact (partitions_scan text).unique

end Frontmatter

end ComponentServer
