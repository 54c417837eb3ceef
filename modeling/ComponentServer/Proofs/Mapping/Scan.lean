import ComponentServer.Proofs.Mapping.Lookup

/-!
# The search as a plain scan

A mapping sorts its segments twice, cuts them at the offset and goes backwards with an early stop.
A reader of it would rather ask every segment in turn. Where the segments of the side share no
offset, both come to the same, whatever capabilities the segments in between have and wherever empty
or reversed ones stand.
-/

namespace ComponentServer.OffsetMapping

/-- An admitted segment that holds the offset. -/
def Inside (side : Side) (wanted : Option Capability) (offset : Nat) (segment : Segment) : Prop :=
  segment.capabilities.admits wanted = true ∧
    (side.span segment).start ≤ offset ∧ offset < (side.span segment).stop

/-- An admitted segment that is not empty and ends at the offset. -/
def Ending (side : Side) (wanted : Option Capability) (offset : Nat) (segment : Segment) : Prop :=
  segment.capabilities.admits wanted = true ∧
    (side.span segment).start < (side.span segment).stop ∧ (side.span segment).stop = offset

/-- An admitted segment that starts at the offset and is empty there, a reversed one included. -/
def Standing (side : Side) (wanted : Option Capability) (offset : Nat) (segment : Segment) : Prop :=
  segment.capabilities.admits wanted = true ∧
    (side.span segment).stop ≤ (side.span segment).start ∧ (side.span segment).start = offset

/-- What asking all segments answers: the one inside which the offset lies, else the one that ends
there, else some empty one that stands there, else nothing. -/
structure PlainScan (side : Side) (wanted : Option Capability) (offset : Nat)
    (segments : List Segment) (answer : Option Segment) : Prop where
  inside : ∀ segment ∈ segments, Inside side wanted offset segment → answer = some segment
  ending : (∀ other ∈ segments, ¬ Inside side wanted offset other) →
    ∀ segment ∈ segments, Ending side wanted offset segment → answer = some segment
  standing : (∀ other ∈ segments, ¬ Inside side wanted offset other) →
    (∀ other ∈ segments, ¬ Ending side wanted offset other) →
    ∀ segment ∈ segments, Standing side wanted offset segment →
      ∃ found ∈ segments, Standing side wanted offset found ∧ answer = some found
  nothing : (∀ other ∈ segments, ¬ Inside side wanted offset other) →
    (∀ other ∈ segments, ¬ Ending side wanted offset other) →
    (∀ other ∈ segments, ¬ Standing side wanted offset other) → answer = none

variable {side : Side} {wanted : Option Capability} {offset : Nat} {segments : List Segment}

theorem pointing_iff {segment : Segment} :
    pointing side wanted offset segment = true ↔ Standing side wanted offset segment := by
  simp only [pointing, Standing, Bool.and_eq_true, decide_eq_true_eq, Span.isEmpty_eq_true]
  tauto

/-- Without a segment around the offset or in front of it, no admitted one touches it. -/
theorem untouched (hinside : ∀ other ∈ segments, ¬ Inside side wanted offset other)
    (hending : ∀ other ∈ segments, ¬ Ending side wanted offset other) :
    ∀ other ∈ segments, other.capabilities.admits wanted = true →
      (side.span other).isEmpty = false →
      ¬ ((side.span other).start ≤ offset ∧ offset ≤ (side.span other).stop) := by
  rintro other hmem hadmits hnonempty ⟨hstart, hstop⟩
  rw [Span.isEmpty_eq_false] at hnonempty
  rcases Nat.lt_or_eq_of_le hstop with hlt | heq
  · exact hinside other hmem ⟨hadmits, hstart, hlt⟩
  · exact hending other hmem ⟨hadmits, hnonempty, heq.symm⟩

theorem plainScan_find? (hdisjoint : DisjointOn side segments) :
    PlainScan side wanted offset segments ((ofSegments segments).find? side wanted offset) where
  inside := by
    rintro segment hmem ⟨hadmits, hholds⟩
    exact find?_of_holds hdisjoint hmem hholds hadmits
  ending := by
    rintro hinside segment hmem ⟨hadmits, hlt, hends⟩
    apply find?_of_ends hdisjoint hmem (Span.isEmpty_eq_false.mpr hlt) hends hadmits
    intro other hother hadmitted hholds
    exact hinside other hother ⟨hadmitted, hholds⟩
  standing := by
    intro hinside hending segment hmem hstanding
    obtain ⟨found, hfound, hpoints, hfind⟩ := find?_of_points hdisjoint hmem
      (pointing_iff.mpr hstanding) (untouched hinside hending)
    exact ⟨found, hfound, pointing_iff.mp hpoints, hfind⟩
  nothing := by
    intro hinside hending hstanding
    apply find?_eq_none (untouched hinside hending)
    intro other hother
    cases hpoints : pointing side wanted offset other with
    | false => rfl
    | true => exact absurd (pointing_iff.mp hpoints) (hstanding other hother)

/-- On a side where segments that are not empty share no offset, a search answers what asking all of
them answers, and the offset goes to the other side through that segment: as far behind its start as
it stands, and no further than its end. -/
theorem lookup_eq_plainScan (segments : List Segment) (wanted : Option Capability) (offset : Nat) :
    (DisjointOn .source segments → ∃ found, PlainScan .source wanted offset segments found ∧
      (ofSegments segments).find? .source wanted offset = found ∧
      (ofSegments segments).toGenerated? wanted offset = found.map fun segment =>
        segment.generated.start + min (offset - segment.source.start) segment.generated.length) ∧
    (DisjointOn .generated segments → ∃ found, PlainScan .generated wanted offset segments found ∧
      (ofSegments segments).find? .generated wanted offset = found ∧
      (ofSegments segments).toSource? wanted offset = found.map fun segment =>
        segment.source.start + min (offset - segment.generated.start) segment.source.length) := by
  constructor
  · intro hdisjoint
    exact ⟨_, plainScan_find? hdisjoint, rfl, rfl⟩
  · intro hdisjoint
    exact ⟨_, plainScan_find? hdisjoint, rfl, rfl⟩

/-- Two segments of the document that meet at 10, of which the later may not be formatted, one
reversed and two empty segments at their edges: formatting at 10 goes through the earlier one, to
the end of its shorter counterpart; back from 30 it goes through the reversed segment. -/
theorem lookup_eq_plainScan_mixed :
    let segments : List Segment :=
      [⟨⟨10, 20⟩, ⟨40, 45⟩, .unformattable⟩, ⟨⟨10, 10⟩, ⟨42, 42⟩, .all⟩,
        ⟨⟨5, 10⟩, ⟨20, 23⟩, .all⟩, ⟨⟨12, 7⟩, ⟨30, 28⟩, .all⟩, ⟨⟨0, 0⟩, ⟨23, 23⟩, .diagnosticsOnly⟩]
    DisjointOn .source segments ∧ DisjointOn .generated segments ∧
      (ofSegments segments).toGenerated? (some .format) 10 = some 23 ∧
      (ofSegments segments).toSource? (some .format) 30 = some 12 := by
  intro segments
  have hsource : DisjointOn .source segments := by
    unfold DisjointOn
    decide
  have hgenerated : DisjointOn .generated segments := by
    unfold DisjointOn
    decide
  obtain ⟨found, hscan, -, hacross⟩ := (lookup_eq_plainScan segments (some .format) 10).1 hsource
  obtain ⟨found', hscan', -, hacross'⟩ :=
    (lookup_eq_plainScan segments (some .format) 30).2 hgenerated
  refine ⟨hsource, hgenerated, ?_, ?_⟩
  · have hfound := hscan.ending (by unfold Inside; decide) ⟨⟨5, 10⟩, ⟨20, 23⟩, .all⟩
      (by decide) (by unfold Ending; decide)
    rw [hacross, hfound]
    rfl
  · obtain ⟨stood, hmem, hstanding, hfound⟩ := hscan'.standing (by unfold Inside; decide)
      (by unfold Ending; decide) ⟨⟨12, 7⟩, ⟨30, 28⟩, .all⟩ (by decide) (by unfold Standing; decide)
    have honly : ∀ segment ∈ segments, Standing .generated (some .format) 30 segment →
        segment = ⟨⟨12, 7⟩, ⟨30, 28⟩, .all⟩ := by
      unfold Standing
      decide
    have hstood := honly stood hmem hstanding
    rw [hacross', hfound, hstood]
    rfl

end ComponentServer.OffsetMapping
