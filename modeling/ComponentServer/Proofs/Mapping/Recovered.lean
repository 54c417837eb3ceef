import ComponentServer.Mapping.Recovery
import ComponentServer.Proofs.Mapping.Lookup
import ComponentServer.Proofs.Text.Place

/-!
# What segments tie together

A source map is not trusted: its marks may point anywhere, in any order. Still, a stretch is kept
only as far as both texts agree, from one boundary of each text on, and two stretches become one
only where they follow each other on both sides. So every segment ties a stretch of the document to
the same characters of the generated text, whatever the compiler says.
-/

namespace ComponentServer

open Text

/-! ### Segments over the same characters -/

/-- The same characters stand on both sides of the segment. -/
def Segment.Ties (source generated : Text) (segment : Segment) : Prop :=
  ∃ part, StandsAt source segment.source.start part ∧
    StandsAt generated segment.generated.start part ∧
    segment.source.stop = segment.source.start + size part ∧
    segment.generated.stop = segment.generated.start + size part

/-- Both stretches lie inside their texts, begin and end between characters, have one length and
read the same. -/
structure Segment.Faithful (source generated : Text) (segment : Segment) : Prop where
  source_le : segment.source.start ≤ segment.source.stop
  generated_le : segment.generated.start ≤ segment.generated.stop
  source_inside : segment.source.stop ≤ size source
  generated_inside : segment.generated.stop ≤ size generated
  length_eq : segment.source.length = segment.generated.length
  source_start : IsBoundary source segment.source.start
  source_stop : IsBoundary source segment.source.stop
  generated_start : IsBoundary generated segment.generated.start
  generated_stop : IsBoundary generated segment.generated.stop
  bytes_eq : utf8 (source.slice segment.source) = utf8 (generated.slice segment.generated)

namespace Segment.Ties

variable {source generated : Text} {segment : Segment}

theorem faithful (h : segment.Ties source generated) : segment.Faithful source generated := by
  obtain ⟨⟨start, stop⟩, ⟨start', stop'⟩, capabilities⟩ := segment
  obtain ⟨part, hsource, hgenerated, hstop, hstop'⟩ := h
  simp only at hsource hgenerated hstop hstop'
  subst hstop hstop'
  exact {
    source_le := Nat.le_add_right _ _
    generated_le := Nat.le_add_right _ _
    source_inside := hsource.stop_le
    generated_inside := hgenerated.stop_le
    length_eq := by simp [Span.length]
    source_start := hsource.isBoundary_start
    source_stop := hsource.isBoundary_stop
    generated_start := hgenerated.isBoundary_start
    generated_stop := hgenerated.isBoundary_stop
    bytes_eq := by rw [hsource.slice_eq, hgenerated.slice_eq] }

theorem append_right (h : segment.Ties source generated) (more : Text) :
    segment.Ties source (generated ++ more) := by
  obtain ⟨part, hsource, hgenerated, hstop, hstop'⟩ := h
  exact ⟨part, hsource, hgenerated.append_right more, hstop, hstop'⟩

theorem utf8_getElem?_eq (h : segment.Ties source generated) {offset : Nat}
    (hholds : segment.source.Holds offset) :
    (utf8 generated)[segment.generated.start + (offset - segment.source.start)]? =
      (utf8 source)[offset]? := by
  obtain ⟨part, hsource, hgenerated, hstop, -⟩ := h
  obtain ⟨hstart, hlt⟩ := hholds
  have hinside : offset - segment.source.start < size part := by omega
  have hoffset : segment.source.start + (offset - segment.source.start) = offset := by omega
  rw [hgenerated.utf8_getElem? hinside, ← hsource.utf8_getElem? hinside, hoffset]

end Segment.Ties

theorem ties_anchor {generated : Text} (source : Text) {offset : Nat}
    (h : IsBoundary generated offset) : (Segment.anchor offset).Ties source generated := by
  obtain ⟨before, after, rfl, rfl⟩ := h
  exact ⟨[], ⟨[], source, rfl, rfl⟩, ⟨before, after, by simp, rfl⟩, rfl, rfl⟩

theorem ties_ofLength_slice {text : Text} {span : Span} (hstart : IsBoundary text span.start)
    (hstop : IsBoundary text span.stop) (hle : span.start ≤ span.stop)
    (capabilities : Capabilities) :
    (Segment.ofLength span.start 0 span.length capabilities).Ties text (text.slice span) := by
  obtain ⟨hstands, hsize⟩ := standsAt_slice hstart hstop hle
  have hlength : span.length = size (text.slice span) := by
    rw [Span.length]
    omega
  refine ⟨text.slice span, hstands, ⟨[], [], by simp, rfl⟩, ?_, ?_⟩
  · simp [Segment.ofLength, hlength]
  · simp [Segment.ofLength, hlength]

namespace Recovery

/-! ### One stretch -/

theorem exists_common_of_agreement (limit : Nat) (left right : Text) :
    ∃ part left' right', left = part ++ left' ∧ right = part ++ right' ∧
      size part = agreement limit left right := by
  induction left generalizing limit right with
  | nil => exact ⟨[], [], right, rfl, rfl, by cases right <;> rfl⟩
  | cons a left ih =>
    cases right with
    | nil => exact ⟨[], a :: left, [], rfl, rfl, rfl⟩
    | cons b right =>
      rw [agreement]
      split
      · next h =>
        obtain ⟨rfl, -⟩ := h
        obtain ⟨part, left', right', rfl, rfl, hsize⟩ := ih (limit - a.utf8Size) right
        exact ⟨a :: part, left', right', rfl, rfl, by rw [size_cons, hsize]⟩
      · exact ⟨[], a :: left, b :: right, rfl, rfl, rfl⟩

/-- A stretch goes to the last segment where it follows that on both sides, and else becomes a
segment of its own. -/
theorem extend_cases (segments : List Segment) (source generated length : Nat) :
    (∃ front last, segments = front ++ [last] ∧ last.source.stop = source ∧
      last.generated.stop = generated ∧
      extend segments source generated length = front ++ [⟨⟨last.source.start, source + length⟩,
        ⟨last.generated.start, generated + length⟩, last.capabilities⟩]) ∨
    ((∀ last, segments.getLast? = some last →
      ¬ (last.source.stop = source ∧ last.generated.stop = generated)) ∧
      extend segments source generated length =
        segments ++ [.ofLength source generated length .unformattable]) := by
  unfold extend
  split
  next last hlast =>
    obtain ⟨front, rfl⟩ := List.getLast?_eq_some_iff.mp hlast
    split
    next hmeets =>
      obtain ⟨hsource, hgenerated⟩ := hmeets
      exact Or.inl ⟨front, last, rfl, hsource, hgenerated, by simp⟩
    next hapart =>
      refine Or.inr ⟨?_, rfl⟩
      rintro other hother hmeets
      rw [hlast, Option.some.injEq] at hother
      exact hapart (hother ▸ hmeets)
  next hnone =>
    rw [List.getLast?_eq_none_iff] at hnone
    subst hnone
    exact Or.inr ⟨by simp, rfl⟩

/-! ### All stretches -/

/-- What is known of a segment that comes from a source map. -/
structure Sound (source generated : Text) (segment : Segment) : Prop where
  ties : segment.Ties source generated
  nonempty : segment.source.start < segment.source.stop
  capabilities : segment.capabilities = .unformattable

variable {source generated : Text}

theorem sound_extend {segments : List Segment} {part : Text} {start place : Nat}
    (h : ∀ segment ∈ segments, Sound source generated segment) (hne : part ≠ [])
    (hsource : StandsAt source start part) (hgenerated : StandsAt generated place part) :
    ∀ segment ∈ extend segments start place (size part), Sound source generated segment := by
  have hpos := size_pos_iff.mpr hne
  rcases extend_cases segments start place (size part) with
    ⟨front, last, rfl, rfl, rfl, hextend⟩ | ⟨-, hextend⟩
  · obtain ⟨⟨before, hbefore, hbefore', hstop, hstop'⟩, hlt, hcapabilities⟩ := h last (by simp)
    rw [hextend]
    intro segment hmem
    rcases List.mem_append.mp hmem with hmem | hmem
    · exact h segment (List.mem_append_left _ hmem)
    · rw [List.mem_singleton] at hmem
      subst hmem
      refine ⟨⟨before ++ part, hbefore.join (hstop ▸ hsource), hbefore'.join (hstop' ▸ hgenerated),
        ?_, ?_⟩, ?_, hcapabilities⟩
      · simp only [size_append]
        omega
      · simp only [size_append]
        omega
      · simp only
        omega
  · rw [hextend]
    intro segment hmem
    rcases List.mem_append.mp hmem with hmem | hmem
    · exact h segment hmem
    · rw [List.mem_singleton] at hmem
      subst hmem
      exact ⟨⟨part, hsource, hgenerated, rfl, rfl⟩, by simp only [Segment.ofLength]; omega, rfl⟩

/-- The invariant of recovery: all segments so far are sound, and the stretch in progress begins at
a boundary of either text. -/
structure State.Sound (source generated : Text) (state : State) : Prop where
  segments : ∀ segment ∈ state.segments, Recovery.Sound source generated segment
  current : ∀ place start, state.current = some (place, start) →
    IsBoundary generated place ∧ IsBoundary source start

theorem State.Sound.settle {state : State} (h : state.Sound source generated) (stop : Nat) :
    ∀ segment ∈ state.settle source generated stop, Recovery.Sound source generated segment := by
  unfold State.settle
  split
  · exact h.segments
  next place start hcurrent =>
    obtain ⟨⟨front, back, hgenerated, hplace⟩, ⟨front', back', hsource, hstart⟩⟩ :=
      h.current place start hcurrent
    have hback : dropBytes place generated = back := by
      rw [hgenerated, ← hplace, dropBytes_append_size]
    have hback' : dropBytes start source = back' := by
      rw [hsource, ← hstart, dropBytes_append_size]
    obtain ⟨part, rest', rest, hpart', hpart, hsize⟩ :=
      exists_common_of_agreement (stop - place) back' back
    simp only [hback, hback', ← hsize]
    split
    · exact h.segments
    next hne =>
      apply sound_extend h.segments
      · rintro rfl
        exact hne rfl
      · exact ⟨front', rest', by rw [hsource, hpart', List.append_assoc], hstart⟩
      · exact ⟨front, rest, by rw [hgenerated, hpart, List.append_assoc], hplace⟩

theorem State.Sound.add {state : State} (h : state.Sound source generated) (line : Nat)
    (mark : SourceMap.Mark) : (state.add source generated line mark).Sound source generated := by
  unfold State.add
  split
  · exact ⟨h.segments, nofun⟩
  next offset hoffset =>
    refine ⟨h.settle offset, ?_⟩
    intro place start hcurrent
    simp only [Option.bind_eq_bind, Option.bind_eq_some_iff, Option.pure_def, Option.some.injEq,
      Prod.mk.injEq] at hcurrent
    obtain ⟨point, -, start', hstart, rfl, rfl⟩ := hcurrent
    exact ⟨isBoundary_offsetAt? hoffset, isBoundary_offsetAt? hstart⟩

theorem State.Sound.addLines {state : State} (h : state.Sound source generated) (line : Nat)
    (mappings : SourceMap.Mappings) :
    (State.addLines source generated state line mappings).Sound source generated := by
  induction mappings generalizing state line with
  | nil => exact h
  | cons marks others ih =>
    apply ih
    induction marks generalizing state with
    | nil => exact h
    | cons mark marks ihMarks => exact ihMarks (h.add line mark)

/-- Whatever the mappings say, the segments recovered from them are sound. -/
theorem sound_segments (source generated : Text) (mappings : SourceMap.Mappings) :
    ∀ segment ∈ segments source generated mappings, Sound source generated segment :=
  have hstart : State.Sound source generated ⟨[], none⟩ := ⟨by simp, nofun⟩
  (hstart.addLines 0 mappings).segments

end Recovery

end ComponentServer
