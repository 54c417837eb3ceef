import ComponentServer.Proofs.Mapping.Joined
import ComponentServer.Proofs.Virtual.RoundTrip

/-!
# Disjoint segments and one anchor

The mapping of a primary file holds the segments of the code and the anchor of its first statement.
Where the segments are disjoint on both sides, what comes back from an offset of the code can be read
off the segments: the one that holds the offset decides, else the one that ends there, and the anchor
only where there is neither.
-/

namespace ComponentServer.OffsetMapping

variable {segments : List Segment} {anchor : Nat} {side : Side}

/-- The segments of a mapping without its anchors. -/
def stretches (mapping : OffsetMapping) : List Segment := mapping.segments.filter (!·.isAnchor)

theorem isAnchor_eq_false {segment : Segment} (h : segment.Even) : segment.isAnchor = false := by
  have hempty := Span.isEmpty_eq_false.mpr h.nonempty
  simp [Segment.isAnchor, hempty]

theorem stretches_perm (heven : ∀ segment ∈ segments, segment.Even) :
    (ofSegments (segments ++ [.anchor anchor])).stretches.Perm segments := by
  have hperm := (ordered_perm (segments ++ [.anchor anchor]) .source).filter (!·.isAnchor)
  have hanchor : (Segment.anchor anchor).isAnchor = true := by
    simp [Segment.isAnchor, Segment.anchor, Span.isEmpty]
  have hfilter : (segments ++ [Segment.anchor anchor]).filter (!·.isAnchor) = segments := by
    rw [List.filter_append, List.filter_eq_self.mpr]
    · simp [hanchor]
    · intro segment hmem
      simp [isAnchor_eq_false (heven segment hmem)]
  rwa [hfilter] at hperm

theorem disjointOn_append_anchor (h : DisjointOn side segments) :
    DisjointOn side (segments ++ [.anchor anchor]) := by
  refine List.pairwise_append.mpr ⟨h, List.pairwise_singleton _ _, ?_⟩
  intro left _ right hright _ hnonempty
  rw [List.mem_singleton] at hright
  subst hright
  rw [Span.isEmpty_eq_false] at hnonempty
  cases side with
  | source => exact absurd hnonempty (Nat.lt_irrefl _)
  | generated => exact absurd hnonempty (Nat.lt_irrefl _)

theorem eq_anchor_of_isEmpty (heven : ∀ segment ∈ segments, segment.Even) {segment : Segment}
    (hmem : segment ∈ segments ++ [.anchor anchor])
    (hempty : (side.span segment).isEmpty = true) : segment = .anchor anchor := by
  rcases List.mem_append.mp hmem with hmem | hmem
  · have hlt := (heven segment hmem).lt side
    rw [Span.isEmpty_eq_true] at hempty
    omega
  · exact List.mem_singleton.mp hmem

variable {place : Nat}

/-- Through the segment that holds it, an offset of the code comes back as far behind the segment's
start as it stands. -/
theorem toSource?_of_holds (heven : ∀ segment ∈ segments, segment.Even)
    (hdisjoint : DisjointOn .generated segments) {segment : Segment} (hmem : segment ∈ segments)
    (hholds : segment.generated.Holds place) :
    (ofSegments (segments ++ [.anchor anchor])).toSource? none place =
      some (segment.source.start + (place - segment.generated.start)) := by
  have hfind : (ofSegments (segments ++ [.anchor anchor])).find? .generated none place =
      some segment :=
    find?_of_holds (disjointOn_append_anchor hdisjoint) (List.mem_append_left _ hmem) hholds rfl
  have hlength := length_eq_append_anchor anchor fun other hother => (heven other hother).length_eq
  refine (across?_eq_some_iff hlength).mpr ⟨segment, ?_, ?_⟩
  · rw [inCharge?, ← find?_eq_best]
    exact hfind
  · have hstart := hholds.1
    simp only [Side.span, Side.other]
    omega

/-- The offset behind a segment comes back behind it, unless another one begins there. -/
theorem toSource?_of_ends (heven : ∀ segment ∈ segments, segment.Even)
    (hdisjoint : DisjointOn .generated segments)
    (hnone : ∀ segment ∈ segments, ¬ segment.generated.Holds place) {segment : Segment}
    (hmem : segment ∈ segments) (hends : segment.generated.stop = place) :
    (ofSegments (segments ++ [.anchor anchor])).toSource? none place =
      some segment.source.stop := by
  have hlt := (heven segment hmem).lt .generated
  have hsource := (heven segment hmem).nonempty
  have hlength := (heven segment hmem).length_eq
  have hfind : (ofSegments (segments ++ [.anchor anchor])).find? .generated none place =
      some segment := by
    refine find?_of_ends (disjointOn_append_anchor hdisjoint) (List.mem_append_left _ hmem)
      (Span.isEmpty_eq_false.mpr hlt) hends rfl ?_
    intro other hother _ hholds
    rcases List.mem_append.mp hother with hother | hother
    · exact hnone other hother hholds
    · rw [List.mem_singleton] at hother
      subst hother
      simp only [Segment.anchor, Side.span, Span.Holds] at hholds
      omega
  have hlength := length_eq_append_anchor anchor fun other hother => (heven other hother).length_eq
  refine (across?_eq_some_iff hlength).mpr ⟨segment, ?_, ?_⟩
  · rw [inCharge?, ← find?_eq_best]
    exact hfind
  · simp only [Side.span, Side.other, Span.length] at *
    omega

/-- Where segments neither hold the offset nor end there, the anchor answers for its own place, and
nothing answers anywhere else. -/
theorem toSource?_of_untouched (heven : ∀ segment ∈ segments, segment.Even)
    (hdisjoint : DisjointOn .generated segments)
    (hnone : ∀ segment ∈ segments, ¬ segment.generated.Holds place)
    (hends : ∀ segment ∈ segments, segment.generated.stop ≠ place) :
    (ofSegments (segments ++ [.anchor anchor])).toSource? none place =
      if place = anchor then some 0 else none := by
  have huntouched : ∀ other ∈ segments ++ [.anchor anchor],
      other.capabilities.admits none = true → (Side.generated.span other).isEmpty = false →
      ¬ ((Side.generated.span other).start ≤ place ∧ place ≤ (Side.generated.span other).stop) := by
    rintro other hother - hnonempty ⟨hstart, hstop⟩
    rcases List.mem_append.mp hother with hother | hother
    · have hholds := hnone other hother
      have hstop' := hends other hother
      simp only [Side.span, Span.Holds] at *
      omega
    · rw [List.mem_singleton] at hother
      subst hother
      rw [Span.isEmpty_eq_false] at hnonempty
      exact absurd hnonempty (Nat.lt_irrefl _)
  by_cases hplace : place = anchor
  · subst hplace
    have hpoints : pointing .generated none place (.anchor place) = true := by
      simp [pointing, Segment.anchor, Side.span, Span.isEmpty, Capabilities.admits]
    obtain ⟨found, hmem, hfound, hfind⟩ := find?_of_points (disjointOn_append_anchor hdisjoint)
      (List.mem_append_right segments List.mem_cons_self) hpoints huntouched
    have hempty : (Side.generated.span found).isEmpty = true := by
      simp only [pointing, Bool.and_eq_true] at hfound
      exact hfound.1.1
    have hanchor := eq_anchor_of_isEmpty heven hmem hempty
    rw [if_pos rfl, toSource?, across?, hfind, hanchor]
    simp [interpolate, Segment.anchor, Side.span, Side.other, Span.length]
  · rw [if_neg hplace, toSource?, across?, find?_eq_none huntouched]
    · rfl
    · intro other hother
      cases hpoints : pointing .generated none place other with
      | false => rfl
      | true =>
        simp only [pointing, Bool.and_eq_true, decide_eq_true_eq] at hpoints
        have hanchor := eq_anchor_of_isEmpty heven hother hpoints.1.1
        rw [hanchor] at hpoints
        exact absurd hpoints.1.2.symm hplace

end ComponentServer.OffsetMapping
