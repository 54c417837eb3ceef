import ComponentServer.Proofs.Text.Order
import ComponentServer.Proofs.Virtual.Anchored

/-!
# Segments of an ordered source map

Where the marks of every line stand in the order of their columns, the stretches they open follow
each other through the generated text. The segments are then in order, none reaches into the next,
and two that follow each other on both sides have become one. Nothing is known of the source side: a
mark may point anywhere, so segments may overlap there or go backwards.
-/

namespace ComponentServer.Recovery

open Text

/-- One generated stretch ends before the other starts or where it starts. -/
def Precedes (left right : Segment) : Prop := left.generated.stop ≤ right.generated.start

/-- The right segment goes on on both sides where the left one ends. -/
def Meets (left right : Segment) : Prop :=
  left.source.stop = right.source.start ∧ left.generated.stop = right.generated.start

theorem agreement_le (limit : Nat) (left right : Text) : agreement limit left right ≤ limit := by
  induction left generalizing limit right with
  | nil => exact Nat.zero_le _
  | cons a left ih =>
    cases right with
    | nil => exact Nat.zero_le _
    | cons b right =>
      rw [agreement]
      split
      next h =>
        have hrest := ih (limit - a.utf8Size) right
        have hfits := h.2
        omega
      next => exact Nat.zero_le _

/-! ### Segments in order -/

/-- The segments are in order up to `bound`, and no two neighbours could be one. -/
structure Ordered (bound : Nat) (segments : List Segment) : Prop where
  precedes : segments.Pairwise Precedes
  merged : segments.IsChain fun left right => ¬ Meets left right
  stop_le : ∀ segment ∈ segments, segment.generated.stop ≤ bound

namespace Ordered

variable {bound bound' : Nat} {segments : List Segment}

theorem mono (h : Ordered bound segments) (hbound : bound ≤ bound') : Ordered bound' segments :=
  ⟨h.precedes, h.merged, fun segment hmem => Nat.le_trans (h.stop_le segment hmem) hbound⟩

/-- A last segment matters to those in front of it by where it starts only. -/
theorem concat_iff {front : List Segment} {last : Segment} :
    Ordered bound (front ++ [last]) ↔
      Ordered bound front ∧ (∀ segment ∈ front, Precedes segment last) ∧
        (∀ segment, front.getLast? = some segment → ¬ Meets segment last) ∧
        last.generated.stop ≤ bound := by
  constructor
  · rintro ⟨hprecedes, hmerged, hstop⟩
    rw [List.pairwise_append] at hprecedes
    rw [List.isChain_append] at hmerged
    refine ⟨⟨hprecedes.1, hmerged.1, ?_⟩, ?_, ?_, hstop last (by simp)⟩
    · intro segment hmem
      exact hstop segment (List.mem_append_left _ hmem)
    · intro segment hmem
      exact hprecedes.2.2 segment hmem last (by simp)
    · intro segment hlast
      exact hmerged.2.2 segment hlast last (by simp)
  · rintro ⟨hfront, hprecedes, hmeets, hstop⟩
    refine ⟨?_, ?_, ?_⟩
    · rw [List.pairwise_append]
      refine ⟨hfront.precedes, List.pairwise_singleton _ _, ?_⟩
      intro segment hmem right hright
      rw [List.mem_singleton] at hright
      exact hright ▸ hprecedes segment hmem
    · rw [List.isChain_append]
      refine ⟨hfront.merged, List.isChain_singleton _, ?_⟩
      intro segment hlast right hright
      simp only [List.head?_cons, Option.mem_def, Option.some.injEq] at hright
      exact hright ▸ hmeets segment hlast
    · intro segment hmem
      rcases List.mem_append.mp hmem with hmem | hmem
      · exact hfront.stop_le segment hmem
      · rw [List.mem_singleton] at hmem
        rwa [hmem]

/-- A stretch behind all segments so far keeps them in order. -/
theorem extend {place : Nat} (h : Ordered place segments) (start length : Nat) :
    Ordered (place + length) (extend segments start place length) := by
  have hbound : place ≤ place + length := Nat.le_add_right _ _
  rcases extend_cases segments start place length with
    ⟨front, last, rfl, -, -, hextend⟩ | ⟨hapart, hextend⟩
  · obtain ⟨hfront, hprecedes, hmeets, -⟩ := concat_iff.mp h
    rw [hextend]
    exact concat_iff.mpr ⟨hfront.mono hbound, hprecedes, hmeets, Nat.le_refl _⟩
  · rw [hextend]
    exact concat_iff.mpr ⟨h.mono hbound, h.stop_le, hapart, Nat.le_refl _⟩

end Ordered

/-! ### One mark after the other -/

variable {source generated : Text}

/-- The invariant of recovery from ordered marks: the segments are in order up to the stretch in
progress, and nothing so far is behind `bound`. -/
structure State.InOrder (bound : Nat) (state : State) : Prop where
  segments : Ordered bound state.segments
  current : ∀ place start, state.current = some (place, start) →
    place ≤ bound ∧ Ordered place state.segments

/-- No position from the given one on stands in front of the offset. -/
def Ahead (generated : Text) (position : Position) (bound : Nat) : Prop :=
  ∀ later offset, later.before position = false → generated.offsetAt? later = some offset →
    bound ≤ offset

theorem ahead_of_offsetAt? {position : Position} {offset : Nat}
    (h : generated.offsetAt? position = some offset) : Ahead generated position offset := by
  intro later offset' hlater hoffset'
  exact offsetAt?_mono hlater h hoffset'

theorem Ahead.later {position later : Position} {bound : Nat} (h : Ahead generated position bound)
    (hlater : later.before position = false) : Ahead generated later bound := by
  intro further offset hfurther
  exact h further offset (Position.before_eq_false_trans hlater hfurther)

namespace State.InOrder

variable {bound : Nat} {state : State}

theorem settle (h : state.InOrder bound) (source generated : Text) {stop : Nat}
    (hstop : bound ≤ stop) : Ordered stop (state.settle source generated stop) := by
  unfold State.settle
  split
  · exact h.segments.mono hstop
  next place start hcurrent =>
    obtain ⟨hplace, hordered⟩ := h.current place start hcurrent
    have hlength := agreement_le (stop - place) (source.dropBytes start) (generated.dropBytes place)
    dsimp only
    split
    · exact h.segments.mono hstop
    next => exact (hordered.extend start _).mono (by omega)

/-- A mark at or behind the position reached keeps all in order up to the mark. -/
theorem add {position : Position} {line : Nat} {mark : SourceMap.Mark} (h : state.InOrder bound)
    (source : Text) (hahead : Ahead generated position bound)
    (hmark : Position.before ⟨line, mark.column⟩ position = false) :
    ∃ bound', (state.add source generated line mark).InOrder bound' ∧
      Ahead generated ⟨line, mark.column⟩ bound' := by
  unfold State.add
  split
  next =>
    refine ⟨bound, ⟨h.segments, ?_⟩, hahead.later hmark⟩
    intro place start hcurrent
    cases hcurrent
  next offset hoffset =>
    have hsegments := h.settle source generated (hahead _ offset hmark hoffset)
    refine ⟨offset, ⟨hsegments, ?_⟩, ahead_of_offsetAt? hoffset⟩
    intro place start hcurrent
    simp only [Option.bind_eq_bind, Option.bind_eq_some_iff, Option.pure_def, Option.some.injEq,
      Prod.mk.injEq] at hcurrent
    obtain ⟨point, -, start', -, rfl, rfl⟩ := hcurrent
    exact ⟨Nat.le_refl _, hsegments⟩

theorem addLine {position : Position} {line : Nat} {marks : List SourceMap.Mark}
    (h : state.InOrder bound) (source : Text) (hahead : Ahead generated position bound)
    (hline : position.line ≤ line)
    (hmarks : ∀ mark ∈ marks, Position.before ⟨line, mark.column⟩ position = false)
    (hcolumns : marks.Pairwise fun left right => left.column ≤ right.column) :
    ∃ bound', (marks.foldl (fun state mark => state.add source generated line mark) state).InOrder
      bound' ∧ Ahead generated ⟨line + 1, 0⟩ bound' := by
  induction marks generalizing state position bound with
  | nil =>
    refine ⟨bound, h, hahead.later ?_⟩
    rw [Position.before_eq_false]
    exact Or.inl (Nat.lt_succ_of_le hline)
  | cons mark marks ih =>
    rw [List.pairwise_cons] at hcolumns
    obtain ⟨bound', hadded, hahead'⟩ := h.add source hahead (hmarks mark (by simp))
    apply ih hadded hahead' (Nat.le_refl _) _ hcolumns.2
    intro other hother
    rw [Position.before_eq_false]
    exact Or.inr ⟨rfl, hcolumns.1 other hother⟩

theorem addLines {line : Nat} {mappings : SourceMap.Mappings} (h : state.InOrder bound)
    (source : Text) (hahead : Ahead generated ⟨line, 0⟩ bound)
    (hcolumns : ∀ marks ∈ mappings, marks.Pairwise fun left right => left.column ≤ right.column) :
    ∃ bound', (State.addLines source generated state line mappings).InOrder bound' := by
  induction mappings generalizing state line bound with
  | nil => exact ⟨bound, h⟩
  | cons marks others ih =>
    have hmarks : ∀ mark ∈ marks, Position.before ⟨line, mark.column⟩ ⟨line, 0⟩ = false := by
      intro mark _
      rw [Position.before_eq_false]
      exact Or.inr ⟨rfl, Nat.zero_le _⟩
    obtain ⟨bound', hline, hahead'⟩ := h.addLine source hahead (Nat.le_refl _) hmarks
      (hcolumns marks (by simp))
    exact ih hline hahead' fun others hothers => hcolumns others (List.mem_cons_of_mem _ hothers)

end State.InOrder

theorem exists_ordered_segments (source generated : Text) {mappings : SourceMap.Mappings}
    (hcolumns : ∀ marks ∈ mappings, marks.Pairwise fun left right => left.column ≤ right.column) :
    ∃ bound, Ordered bound (segments source generated mappings) := by
  have hstart : State.InOrder 0 ⟨[], none⟩ := by
    refine ⟨⟨List.Pairwise.nil, List.isChain_nil, by simp⟩, ?_⟩
    intro place start hcurrent
    cases hcurrent
  have hahead : Ahead generated ⟨0, 0⟩ 0 := fun _ _ _ _ => Nat.zero_le _
  obtain ⟨bound, h⟩ := hstart.addLines source hahead hcolumns
  exact ⟨bound, h.segments⟩

/-- Where the columns of every line never decrease, the segments are not empty and in strict order
in the generated text, no two neighbours meet on both sides, and with any anchor added an offset
inside a segment comes back as far behind the segment's start as it stands. -/
theorem segments_inOrder (source generated : Text) (mappings : SourceMap.Mappings)
    (hcolumns : ∀ marks ∈ mappings, marks.Pairwise fun left right => left.column ≤ right.column) :
    (∀ segment ∈ segments source generated mappings,
      segment.generated.start < segment.generated.stop) ∧
    (segments source generated mappings).Pairwise (fun left right =>
      left.generated.start < right.generated.start ∧
        left.generated.stop ≤ right.generated.start) ∧
    (segments source generated mappings).IsChain (fun left right =>
      ¬ (left.source.stop = right.source.start ∧ left.generated.stop = right.generated.start)) ∧
    ∀ anchor, ∀ segment ∈ segments source generated mappings, ∀ place,
      segment.generated.start ≤ place → place < segment.generated.stop →
      (OffsetMapping.ofSegments
        (segments source generated mappings ++ [.anchor anchor])).toSource? none place =
          some (segment.source.start + (place - segment.generated.start)) := by
  obtain ⟨bound, hordered⟩ := exists_ordered_segments source generated hcolumns
  have heven : ∀ segment ∈ segments source generated mappings, segment.Even :=
    fun segment hmem => (sound_segments source generated mappings segment hmem).even
  have hlt : ∀ segment ∈ segments source generated mappings,
      segment.generated.start < segment.generated.stop :=
    fun segment hmem => (heven segment hmem).lt .generated
  have hdisjoint : OffsetMapping.DisjointOn .generated (segments source generated mappings) :=
    hordered.precedes.imp fun hprecedes _ _ => Or.inl hprecedes
  refine ⟨hlt, ?_, hordered.merged, ?_⟩
  · refine hordered.precedes.imp_of_mem ?_
    intro left right hleft _ hprecedes
    exact ⟨Nat.lt_of_lt_of_le (hlt left hleft) hprecedes, hprecedes⟩
  · intro anchor segment hmem place hstart hstop
    exact OffsetMapping.toSource?_of_holds heven hdisjoint hmem ⟨hstart, hstop⟩

/-- Two lines that the source has the other way round, with a mark inside a surrogate pair and one
behind the end of its line: the third stretch comes from in front of the first. -/
theorem segments_inOrder_swapped :
    let source := ['a', 'b', '\n', '😀', 'c', 'd']
    let generated := ['😀', '\n', 'c', 'd', ' ', 'a', 'b']
    let mappings : SourceMap.Mappings :=
      [[⟨0, some ⟨0, 1, 0⟩⟩, ⟨1, none⟩],
        [⟨0, some ⟨0, 1, 2⟩⟩, ⟨3, some ⟨0, 0, 0⟩⟩, ⟨9, none⟩]]
    let found : List Segment := [.ofLength 3 0 4 .unformattable, .ofLength 7 5 2 .unformattable,
      .ofLength 0 8 2 .unformattable]
    segments source generated mappings = found ∧
      (OffsetMapping.ofSegments (found ++ [.anchor 5])).toSource? none 9 = some 1 := by
  intro source generated mappings found
  have hfound : segments source generated mappings = found := by decide
  have hcolumns : ∀ marks ∈ mappings,
      marks.Pairwise fun left right => left.column ≤ right.column := by
    decide
  obtain ⟨-, -, -, hacross⟩ := segments_inOrder source generated mappings hcolumns
  rw [hfound] at hacross
  exact ⟨hfound, hacross 5 (.ofLength 0 8 2 .unformattable) (by decide) 9 (by decide) (by decide)⟩

end ComponentServer.Recovery
