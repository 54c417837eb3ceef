import ComponentServer.Proofs.SourceMap.Rendered
import ComponentServer.Proofs.SourceMap.Written
import ComponentServer.Proofs.Virtual.Files

/-!
# There and back through the primary file

An offset goes to the generated text through one segment and comes back through another, and it
comes back to itself exactly when both segments shift offsets by the same amount. Segments that
overlap nowhere leave no choice, so there every offset comes back. Recovery does not rule overlaps
out: one stretch of code can be marked as the copy of two stretches of the document.
-/

namespace ComponentServer

namespace Span

/-- An offset as far behind the start of a span of the same length needs no cut. -/
theorem interpolate_eq {offset : Nat} {base onto : Span} (hlength : base.length = onto.length)
    (hstart : base.start ≤ offset) (hstop : offset ≤ base.stop ∨ offset = base.start) :
    interpolate offset base onto + base.start = onto.start + offset := by
  rw [interpolate, ← hlength, length, Nat.min_eq_left (by omega)]
  omega

end Span

/-- Both segments move offsets by the same amount. -/
def Segment.SameShift (left right : Segment) : Prop :=
  left.generated.start + right.source.start = right.generated.start + left.source.start

namespace OffsetMapping

/-- The segment in charge of an offset. It is looked for among the segments that start at or before
the offset, the latest first, up to the first that ends before it: the first that holds the offset,
else the first that is not empty, else the first that is empty and stands at the offset. -/
def inCharge? (mapping : OffsetMapping) (side : Side) (offset : Nat) : Option Segment :=
  best side none offset (reached side offset (mapping.candidates side offset))

/-- The offset goes to the generated text and comes back to itself. -/
def Returns (mapping : OffsetMapping) (offset : Nat) : Prop :=
  ∃ place, mapping.toGenerated? none offset = some place ∧
    mapping.toSource? none place = some offset

variable {segments : List Segment} {side : Side} {offset : Nat}

theorem inCharge?_eq_some {segment : Segment}
    (h : (ofSegments segments).inCharge? side offset = some segment) :
    segment ∈ segments ∧ (side.span segment).start ≤ offset ∧
      (offset ≤ (side.span segment).stop ∨ offset = (side.span segment).start) := by
  rw [inCharge?, best, Option.or_eq_some_iff, Option.or_eq_some_iff] at h
  rcases h with hholding | ⟨-, htouching | ⟨-, hpointing⟩⟩
  · obtain ⟨hmem, hstart, hstop⟩ :=
      mem_reached_candidates (List.mem_of_find?_eq_some hholding)
    have hfound := List.find?_some hholding
    simp only [holding, Bool.and_eq_true, Bool.not_eq_true'] at hfound
    exact ⟨hmem, hstart, Or.inl (hstop hfound.1.1)⟩
  · obtain ⟨hmem, hstart, hstop⟩ :=
      mem_reached_candidates (List.mem_of_find?_eq_some htouching)
    have hfound := List.find?_some htouching
    simp only [touching, Bool.and_eq_true, Bool.not_eq_true'] at hfound
    exact ⟨hmem, hstart, Or.inl (hstop hfound.1)⟩
  · obtain ⟨hmem, hstart, -⟩ := mem_reached_candidates (List.mem_of_find?_eq_some hpointing)
    have hfound := List.find?_some hpointing
    simp only [pointing, Bool.and_eq_true, decide_eq_true_eq] at hfound
    exact ⟨hmem, hstart, Or.inr hfound.1.2.symm⟩

/-- Where all segments have one length on both sides, the segment in charge moves the offset by what
lies between its two starts. -/
theorem across?_eq_some_iff {place : Nat}
    (hlength : ∀ segment ∈ segments, segment.source.length = segment.generated.length) :
    (ofSegments segments).across? side none offset = some place ↔
      ∃ segment, (ofSegments segments).inCharge? side offset = some segment ∧
        place + (side.span segment).start = (side.other.span segment).start + offset := by
  rw [across?, find?_eq_best, Option.map_eq_some_iff]
  -- The segment in charge reaches the offset, so nothing is cut off on its other side.
  have hinterpolate : ∀ segment, (ofSegments segments).inCharge? side offset = some segment →
      interpolate offset (side.span segment) (side.other.span segment) +
        (side.span segment).start = (side.other.span segment).start + offset := by
    intro segment hfound
    obtain ⟨hmem, hstart, hstop⟩ := inCharge?_eq_some hfound
    have heq := hlength segment hmem
    refine Span.interpolate_eq ?_ hstart hstop
    cases side with
    | source => exact heq
    | generated => exact heq.symm
  constructor
  · rintro ⟨segment, hfound, rfl⟩
    exact ⟨segment, hfound, hinterpolate segment hfound⟩
  · rintro ⟨segment, hfound, hplace⟩
    refine ⟨segment, hfound, ?_⟩
    have hsame := hinterpolate segment hfound
    omega

/-- An offset returns exactly when the segment in charge of it and the one in charge of the place it
goes to shift by the same amount. -/
theorem returns_iff
    (hlength : ∀ segment ∈ segments, segment.source.length = segment.generated.length) :
    (ofSegments segments).Returns offset ↔
      ∃ there back, (ofSegments segments).inCharge? .source offset = some there ∧
        (ofSegments segments).inCharge? .generated
          (there.generated.start + (offset - there.source.start)) = some back ∧
        there.SameShift back := by
  constructor
  · rintro ⟨place, hthere, hback⟩
    obtain ⟨there, hfound, hplace⟩ := (across?_eq_some_iff hlength).mp hthere
    obtain ⟨back, hfound', hplace'⟩ := (across?_eq_some_iff hlength).mp hback
    obtain ⟨-, hstart, -⟩ := inCharge?_eq_some hfound
    simp only [Side.span, Side.other] at hplace hplace' hstart
    have heq : there.generated.start + (offset - there.source.start) = place := by omega
    refine ⟨there, back, hfound, heq ▸ hfound', ?_⟩
    simp only [Segment.SameShift]
    omega
  · rintro ⟨there, back, hfound, hfound', hshift⟩
    obtain ⟨-, hstart, -⟩ := inCharge?_eq_some hfound
    obtain ⟨-, hstart', -⟩ := inCharge?_eq_some hfound'
    simp only [Side.span, Segment.SameShift] at hstart hstart' hshift
    refine ⟨there.generated.start + (offset - there.source.start),
      (across?_eq_some_iff hlength).mpr ⟨there, hfound, ?_⟩,
      (across?_eq_some_iff hlength).mpr ⟨back, hfound', ?_⟩⟩
    · simp only [Side.span, Side.other]
      omega
    · simp only [Side.span, Side.other]
      omega

/-- Where the segments are disjoint on both sides, each is in charge of its offsets both ways. -/
theorem across?_of_holds
    (hlength : ∀ segment ∈ segments, segment.source.length = segment.generated.length)
    (hsource : DisjointOn .source segments) (hgenerated : DisjointOn .generated segments)
    {segment : Segment} (hmem : segment ∈ segments) (hholds : segment.source.Holds offset) :
    (ofSegments segments).toGenerated? none offset =
        some (segment.generated.start + (offset - segment.source.start)) ∧
      (ofSegments segments).toSource? none
        (segment.generated.start + (offset - segment.source.start)) = some offset := by
  have heq := hlength segment hmem
  obtain ⟨hstart, hstop⟩ := hholds
  have hplace : segment.generated.Holds
      (segment.generated.start + (offset - segment.source.start)) := by
    simp only [Span.length] at heq
    exact ⟨Nat.le_add_right _ _, by omega⟩
  have hthere : (ofSegments segments).find? .source none offset = some segment :=
    find?_of_holds hsource hmem ⟨hstart, hstop⟩ rfl
  have hback : (ofSegments segments).find? .generated none
      (segment.generated.start + (offset - segment.source.start)) = some segment :=
    find?_of_holds hgenerated hmem hplace rfl
  refine ⟨(across?_eq_some_iff hlength).mpr ⟨segment, ?_, ?_⟩,
    (across?_eq_some_iff hlength).mpr ⟨segment, ?_, ?_⟩⟩
  · rw [inCharge?, ← find?_eq_best]
    exact hthere
  · simp only [Side.span, Side.other]
    omega
  · rw [inCharge?, ← find?_eq_best]
    exact hback
  · simp only [Side.span, Side.other]
    omega

theorem length_eq_append_anchor (anchor : Nat)
    (hlength : ∀ segment ∈ segments, segment.source.length = segment.generated.length) :
    ∀ segment ∈ segments ++ [.anchor anchor],
      segment.source.length = segment.generated.length := by
  intro segment hmem
  rcases List.mem_append.mp hmem with hmem | hmem
  · exact hlength segment hmem
  · rw [List.mem_singleton] at hmem
    subst hmem
    simp [Segment.anchor, Span.length]

end OffsetMapping

namespace Virtual

open SourceMap

/-- **When offsets of the document come back from the primary file.** An offset returns exactly when
the segments in charge of it and of the place it goes to shift by the same amount. Where segments
are disjoint on both sides, every offset of a segment returns. -/
theorem returns_primary_iff (compiler : Compiler) (text : Text) (blocks : List Block)
    (options : Options) :
    let mapping := (generate compiler text blocks options).primary.mapping
    (∀ offset, mapping.Returns offset ↔
      ∃ there back, mapping.inCharge? .source offset = some there ∧
        mapping.inCharge? .generated
          (there.generated.start + (offset - there.source.start)) = some back ∧
        there.SameShift back) ∧
    (OffsetMapping.DisjointOn .source mapping.segments →
      OffsetMapping.DisjointOn .generated mapping.segments →
      ∀ segment ∈ mapping.segments, segment.isAnchor = false →
        ∀ offset, segment.source.Holds offset → mapping.Returns offset) := by
  intro mapping
  have hmapping : mapping = .ofSegments ((compiled compiler text options).2 ++
      [.anchor (firstStatement (compiled compiler text options).1)]) := by
    simp only [mapping, primary_generate, primaryFile]
  have hlength := OffsetMapping.length_eq_append_anchor
    (firstStatement (compiled compiler text options).1) fun segment hmem =>
      (sound_compiled compiler text options segment hmem).ties.faithful.length_eq
  rw [hmapping]
  refine ⟨fun offset => OffsetMapping.returns_iff hlength, ?_⟩
  intro hsource hgenerated segment hmem _ offset hholds
  have hperm := OffsetMapping.ordered_perm ((compiled compiler text options).2 ++
    [.anchor (firstStatement (compiled compiler text options).1)]) .source
  exact ⟨_, OffsetMapping.across?_of_holds hlength (hsource.perm hperm) (hgenerated.perm hperm)
    (hperm.mem_iff.mp hmem) hholds⟩

/-- Marks that give the same two characters of code as the copy of two places of the document. -/
def doubledMarks : List Anchor :=
  [⟨0, 0, some (0, 0)⟩, ⟨0, 2, none⟩, ⟨0, 0, some (0, 3)⟩, ⟨0, 2, none⟩]

/-- A compiler whose code stands for two places of the document at once. -/
def doubledCompiler : Compiler := fun _ fileName =>
  .ok {
    code := ['a', 'b']
    map := (⟨3, [fileName], SourceMap.encode doubledMarks⟩ : SourceMap.Document).render
    diagnostics := [] }

theorem compiled_doubledCompiler (options : Options) :
    compiled doubledCompiler ['a', 'b', ' ', 'a', 'b'] options =
      (['a', 'b'], [.ofLength 0 0 2 .unformattable, .ofLength 3 0 2 .unformattable]) := by
  have hparse : SourceMap.parse
      (⟨3, [options.fileName], SourceMap.encode doubledMarks⟩ : SourceMap.Document).render =
        .ok (linesFrom 0 [] doubledMarks) := by
    rw [parse_render rfl, decode_encode (by decide) (by decide)]
    rfl
  simp only [compiled, doubledCompiler, hparse]
  decide

/-- The first segment goes from the start of the document to the start of the code, but the start of
the code goes to the second occurrence. -/
theorem not_returns_doubledCompiler :
    let mapping := (generate doubledCompiler ['a', 'b', ' ', 'a', 'b'] []
      ⟨['a'], 1, [], []⟩).primary.mapping
    ∃ segment ∈ mapping.segments, segment.isAnchor = false ∧ segment.source.Holds 0 ∧
      mapping.toGenerated? none 0 = some 0 ∧ mapping.toSource? none 0 = some 3 := by
  intro mapping
  have hmapping : mapping = .ofSegments [.ofLength 0 0 2 .unformattable,
      .ofLength 3 0 2 .unformattable, .anchor 0] := by
    have hfirst : firstStatement ['a', 'b'] = 0 := by cbv
    simp only [mapping, primary_generate, primaryFile, compiled_doubledCompiler, hfirst]
    rfl
  have hsorted : OffsetMapping.ofSegments [.ofLength 0 0 2 .unformattable,
      .ofLength 3 0 2 .unformattable, .anchor 0] =
        ⟨[.anchor 0, .ofLength 0 0 2 .unformattable, .ofLength 3 0 2 .unformattable],
          [.anchor 0, .ofLength 0 0 2 .unformattable, .ofLength 3 0 2 .unformattable]⟩ := by
    cbv
  rw [hmapping, hsorted]
  exact ⟨.ofLength 0 0 2 .unformattable, by decide⟩

end Virtual

end ComponentServer
