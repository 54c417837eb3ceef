import ComponentServer.Mapping.OffsetMapping
import ComponentServer.Proofs.Text.Spans

/-!
# What a search through a mapping finds

A search goes backwards from the last segment that starts at or before the offset and stops in front
of the first that ends before it. Among the segments it gets to, one that holds the offset wins, then
one that ends there, then an empty one that stands there. Where the segments of a side are disjoint
that is the same as asking all segments, which is what the second half shows.
-/

namespace ComponentServer

namespace OffsetMapping

variable {side : Side} {wanted : Option Capability} {offset : Nat}

/-- The segments that a search gets to: all up to the first that ends before the offset. -/
def reached (side : Side) (offset : Nat) (segments : List Segment) : List Segment :=
  segments.takeWhile fun segment =>
    (side.span segment).isEmpty || decide (offset ≤ (side.span segment).stop)

/-- An admitted segment that is not empty and goes on behind the offset. -/
def holding (side : Side) (wanted : Option Capability) (offset : Nat) (segment : Segment) : Bool :=
  !(side.span segment).isEmpty && segment.capabilities.admits wanted &&
    decide (offset < (side.span segment).stop)

/-- An admitted segment that is not empty. -/
def touching (side : Side) (wanted : Option Capability) (segment : Segment) : Bool :=
  !(side.span segment).isEmpty && segment.capabilities.admits wanted

/-- An admitted empty segment that stands at the offset. -/
def pointing (side : Side) (wanted : Option Capability) (offset : Nat) (segment : Segment) : Bool :=
  (side.span segment).isEmpty && decide ((side.span segment).start = offset) &&
    segment.capabilities.admits wanted

/-- The best of the segments that a search gets to. -/
def best (side : Side) (wanted : Option Capability) (offset : Nat) (segments : List Segment) :
    Option Segment :=
  (segments.find? (holding side wanted offset)).or
    ((segments.find? (touching side wanted)).or (segments.find? (pointing side wanted offset)))

/-- What a search ends with when it has found `fallback` so far: a segment that holds the offset,
else a fallback that is not empty, else what touches the offset, else the fallback. -/
theorem pick_eq (fallback : Option Segment) (segments : List Segment) :
    pick side wanted offset fallback segments =
      ((reached side offset segments).find? (holding side wanted offset)).or
        (match fallback with
        | some found =>
          if (side.span found).isEmpty then
            ((reached side offset segments).find? (touching side wanted)).or (some found)
          else some found
        | none =>
          ((reached side offset segments).find? (touching side wanted)).or
            ((reached side offset segments).find? (pointing side wanted offset))) := by
  induction segments generalizing fallback with
  | nil => rcases fallback with _ | found <;> simp [pick, reached]
  | cons segment earlier ih =>
    rw [pick]
    cases hempty : (side.span segment).isEmpty with
    | true =>
      have hreached : reached side offset (segment :: earlier) =
          segment :: reached side offset earlier := by
        simp [reached, hempty]
      have hholding : holding side wanted offset segment = false := by simp [holding, hempty]
      have htouching : touching side wanted segment = false := by simp [touching, hempty]
      simp only [hreached, List.find?_cons, hholding, htouching, if_true]
      rcases fallback with _ | found
      · by_cases hpoint : (side.span segment).start = offset ∧ segment.capabilities.admits wanted
        · have hpointing : pointing side wanted offset segment = true := by
            simp [pointing, hempty, hpoint.1, hpoint.2]
          simp only [hpoint, hpointing, Option.isNone_none, and_self, if_true, ih, hempty]
        · have hpointing : pointing side wanted offset segment = false := by
            simpa [pointing, hempty] using hpoint
          have hskip : ¬ ((side.span segment).start = offset ∧ (none : Option Segment).isNone ∧
              segment.capabilities.admits wanted) := by
            simpa using hpoint
          simp only [hskip, hpointing, if_false, ih]
      · simp [ih]
    | false =>
      have hpointing : pointing side wanted offset segment = false := by simp [pointing, hempty]
      by_cases hends : (side.span segment).stop < offset
      · have hreached : reached side offset (segment :: earlier) = [] := by
          simp [reached, hempty, Nat.not_le.mpr hends]
        rcases fallback with _ | found <;> simp [hends, hreached]
      · have hreached : reached side offset (segment :: earlier) =
            segment :: reached side offset earlier := by
          simp [reached, hempty, Nat.le_of_not_lt hends]
        simp only [hreached, hends, List.find?_cons, hpointing, Bool.false_eq_true, if_false]
        cases hadmits : segment.capabilities.admits wanted with
        | false =>
          have hholding : holding side wanted offset segment = false := by simp [holding, hadmits]
          have htouching : touching side wanted segment = false := by simp [touching, hadmits]
          simp only [hholding, htouching, ih, Bool.not_false, if_true]
        | true =>
          have htouching : touching side wanted segment = true := by
            simp [touching, hempty, hadmits]
          by_cases hholds : offset < (side.span segment).stop
          · have hholding : holding side wanted offset segment = true := by
              simp [holding, hempty, hadmits, hholds]
            simp [hholds, hholding]
          · have hholding : holding side wanted offset segment = false := by
              simp [holding, hholds]
            simp only [hholds, hholding, htouching, ih, Bool.not_true, Bool.false_eq_true, if_false]
            rcases fallback with _ | found
            · simp [hempty]
            · cases hfound : (side.span found).isEmpty <;> simp [hfound, hempty]

theorem pick_none_eq_best (segments : List Segment) :
    pick side wanted offset none segments =
      best side wanted offset (reached side offset segments) :=
  pick_eq none segments

/-- The segments that a search may look at, latest first. -/
def candidates (mapping : OffsetMapping) (side : Side) (offset : Nat) : List Segment :=
  ((mapping.ordered side).takeWhile fun segment =>
    decide ((side.span segment).start ≤ offset)).reverse

theorem find?_eq_best (mapping : OffsetMapping) :
    mapping.find? side wanted offset =
      best side wanted offset (reached side offset (mapping.candidates side offset)) :=
  pick_none_eq_best _

/-! ### Where the segments of a side are disjoint -/

theorem startsBefore_iff {left right : Segment} : startsBefore side left right = true ↔
    (side.span left).start < (side.span right).start ∨
      (side.span left).start = (side.span right).start ∧
        ((side.span left).isEmpty = true ∨ (side.span right).isEmpty = false) := by
  simp [startsBefore]

theorem startsBefore_trans (a b c : Segment) (hab : startsBefore side a b = true)
    (hbc : startsBefore side b c = true) : startsBefore side a c = true := by
  rw [startsBefore_iff] at *
  rcases hab with hab | ⟨hab, hemptyA⟩ <;> rcases hbc with hbc | ⟨hbc, hemptyB⟩
  · exact Or.inl (by omega)
  · exact Or.inl (by omega)
  · exact Or.inl (by omega)
  · refine Or.inr ⟨by omega, ?_⟩
    rcases hemptyA with hemptyA | hemptyA
    · exact Or.inl hemptyA
    · rcases hemptyB with hemptyB | hemptyB
      · rw [hemptyA] at hemptyB
        cases hemptyB
      · exact Or.inr hemptyB

theorem startsBefore_total (a b : Segment) :
    (startsBefore side a b || startsBefore side b a) = true := by
  rw [Bool.or_eq_true, startsBefore_iff, startsBefore_iff]
  rcases Nat.lt_trichotomy (side.span a).start (side.span b).start with hlt | heq | hlt
  · exact Or.inl (Or.inl hlt)
  · cases hempty : (side.span a).isEmpty with
    | true => exact Or.inl (Or.inr ⟨heq, Or.inl rfl⟩)
    | false => exact Or.inr (Or.inr ⟨heq.symm, Or.inr rfl⟩)
  · exact Or.inr (Or.inl hlt)

theorem ordered_perm (segments : List Segment) (side : Side) :
    ((ofSegments segments).ordered side).Perm segments := by
  cases side with
  | source => exact List.mergeSort_perm _ _
  | generated => exact (List.mergeSort_perm _ _).trans (List.mergeSort_perm _ _)

theorem ordered_sorted (segments : List Segment) (side : Side) :
    ((ofSegments segments).ordered side).Pairwise fun left right =>
      (side.span left).start ≤ (side.span right).start := by
  have hsorted : ((ofSegments segments).ordered side).Pairwise fun left right =>
      startsBefore side left right = true := by
    cases side with
    | source => exact List.pairwise_mergeSort startsBefore_trans startsBefore_total _
    | generated => exact List.pairwise_mergeSort startsBefore_trans startsBefore_total _
  apply hsorted.imp
  intro left right hbefore
  rw [startsBefore_iff] at hbefore
  omega

/-- The segments that are not empty on a side share no offset there. -/
def DisjointOn (side : Side) (segments : List Segment) : Prop :=
  segments.Pairwise fun left right => (side.span left).isEmpty = false →
    (side.span right).isEmpty = false → (side.span left).Disjoint (side.span right)

theorem DisjointOn.perm {segments others : List Segment} (h : DisjointOn side segments)
    (hperm : segments.Perm others) : DisjointOn side others := by
  refine (hperm.pairwise_iff ?_).mp h
  intro left right hdisjoint hright hleft
  exact (hdisjoint hleft hright).symm

/-- A segment that starts at or before the offset is a candidate. Those looked at before it start at
or behind its start, and where both are not empty they start at or behind its end. -/
theorem exists_candidates_eq {segments : List Segment} {segment : Segment}
    (hdisjoint : DisjointOn side segments) (hmem : segment ∈ segments)
    (hstart : (side.span segment).start ≤ offset) :
    ∃ later earlier,
      (ofSegments segments).candidates side offset = later ++ segment :: earlier ∧
      (∀ other ∈ later, (side.span segment).start ≤ (side.span other).start ∧
        (side.span other).start ≤ offset ∧ ((side.span segment).isEmpty = false →
          (side.span other).isEmpty = false →
            (side.span segment).stop ≤ (side.span other).start)) ∧
      (∀ other ∈ earlier, (side.span segment).isEmpty = false →
        (side.span other).isEmpty = false →
          (side.span other).stop ≤ (side.span segment).start) := by
  have hmem' := (ordered_perm segments side).mem_iff.mpr hmem
  obtain ⟨front, back, hsplit⟩ := List.append_of_mem hmem'
  have hsorted := ordered_sorted segments side
  have hpairs := hdisjoint.perm (ordered_perm segments side).symm
  rw [hsplit] at hsorted
  rw [DisjointOn, hsplit] at hpairs
  rw [List.pairwise_append, List.pairwise_cons] at hsorted hpairs
  obtain ⟨-, ⟨hback, -⟩, hfront⟩ := hsorted
  obtain ⟨-, ⟨hbackDisjoint, -⟩, hfrontDisjoint⟩ := hpairs
  refine ⟨(back.takeWhile fun other => decide ((side.span other).start ≤ offset)).reverse,
    front.reverse, ?_, ?_, ?_⟩
  · have hfrontStart : ∀ other ∈ front, decide ((side.span other).start ≤ offset) = true := by
      intro other hother
      have hle := hfront other hother segment (by simp)
      simp only [decide_eq_true_eq]
      omega
    rw [candidates, hsplit, List.takeWhile_append_of_pos hfrontStart, List.takeWhile_cons_of_pos
      (by simpa using hstart)]
    simp
  · intro other hother
    rw [List.mem_reverse] at hother
    have hinBack : other ∈ back := (List.takeWhile_sublist _).subset hother
    have hbefore : (side.span other).start ≤ offset := by
      simpa using List.all_eq_true.mp List.all_takeWhile other hother
    refine ⟨hback other hinBack, hbefore, ?_⟩
    intro hsegment hnonempty
    have hle := hback other hinBack
    rw [Span.isEmpty_eq_false] at hnonempty
    rcases hbackDisjoint other hinBack hsegment (Span.isEmpty_eq_false.mpr hnonempty) with h | h
    · exact h
    · omega
  · intro other hother hsegment hnonempty
    rw [List.mem_reverse] at hother
    have hle := hfront other hother segment (by simp)
    rw [Span.isEmpty_eq_false] at hsegment
    rcases hfrontDisjoint other hother segment (by simp) hnonempty
      (Span.isEmpty_eq_false.mpr hsegment) with h | h
    · exact h
    · omega

theorem reached_append_cons {later earlier : List Segment} {segment : Segment}
    (hlater : ∀ other ∈ later, (side.span other).isEmpty = false →
      offset ≤ (side.span other).stop)
    (hsegment : (side.span segment).isEmpty = false → offset ≤ (side.span segment).stop) :
    reached side offset (later ++ segment :: earlier) =
      later ++ segment :: reached side offset earlier := by
  have hpass : ∀ other ∈ later, ((side.span other).isEmpty ||
      decide (offset ≤ (side.span other).stop)) = true := by
    intro other hother
    cases hempty : (side.span other).isEmpty with
    | true => rfl
    | false => simpa using hlater other hother hempty
  have hself : ((side.span segment).isEmpty ||
      decide (offset ≤ (side.span segment).stop)) = true := by
    cases hempty : (side.span segment).isEmpty with
    | true => rfl
    | false => simpa using hsegment hempty
  rw [reached, List.takeWhile_append_of_pos hpass, List.takeWhile_cons, if_pos hself]
  rfl

theorem mem_reached_candidates {segments : List Segment} {segment : Segment}
    (h : segment ∈ reached side offset ((ofSegments segments).candidates side offset)) :
    segment ∈ segments ∧ (side.span segment).start ≤ offset ∧
      ((side.span segment).isEmpty = false → offset ≤ (side.span segment).stop) := by
  have hcandidate := (List.takeWhile_sublist _).subset h
  rw [candidates, List.mem_reverse] at hcandidate
  refine ⟨(ordered_perm segments side).mem_iff.mp ((List.takeWhile_sublist _).subset hcandidate),
    ?_, ?_⟩
  · simpa using List.all_eq_true.mp List.all_takeWhile segment hcandidate
  · intro hempty
    have hpass := List.all_eq_true.mp List.all_takeWhile segment h
    simpa [hempty] using hpass

theorem find?_of_holds {segments : List Segment} {segment : Segment}
    (hdisjoint : DisjointOn side segments) (hmem : segment ∈ segments)
    (hholds : (side.span segment).Holds offset)
    (hadmits : segment.capabilities.admits wanted = true) :
    (ofSegments segments).find? side wanted offset = some segment := by
  have hnonempty := hholds.isEmpty_eq_false
  obtain ⟨later, earlier, hcandidates, hlater, -⟩ :=
    exists_candidates_eq hdisjoint hmem hholds.1
  -- A segment looked at before it would start inside it.
  have hempty : ∀ other ∈ later, (side.span other).isEmpty = true := by
    intro other hother
    cases hother' : (side.span other).isEmpty with
    | true => rfl
    | false =>
      obtain ⟨-, hbefore, hbehind⟩ := hlater other hother
      have hstop := hbehind hnonempty hother'
      have hlt := hholds.2
      omega
  have hreached : reached side offset (later ++ segment :: earlier) =
      later ++ segment :: reached side offset earlier := by
    apply reached_append_cons
    · intro other hother hne
      rw [hempty other hother] at hne
      cases hne
    · exact fun _ => Nat.le_of_lt hholds.2
  have hskip : later.find? (holding side wanted offset) = none := by
    rw [List.find?_eq_none]
    intro other hother
    simp [holding, hempty other hother]
  have hfound : holding side wanted offset segment = true := by
    simp [holding, hnonempty, hadmits, hholds.2]
  rw [find?_eq_best, hcandidates, hreached, best, List.find?_append, hskip,
    List.find?_cons_of_pos hfound]
  rfl

/-- Where no segment holds the offset, the one that ends there is found. -/
theorem find?_of_ends {segments : List Segment} {segment : Segment}
    (hdisjoint : DisjointOn side segments) (hmem : segment ∈ segments)
    (hnonempty : (side.span segment).isEmpty = false) (hends : (side.span segment).stop = offset)
    (hadmits : segment.capabilities.admits wanted = true)
    (hnone : ∀ other ∈ segments, other.capabilities.admits wanted = true →
      ¬ (side.span other).Holds offset) :
    (ofSegments segments).find? side wanted offset = some segment := by
  have hlength := Span.isEmpty_eq_false.mp hnonempty
  have hstart : (side.span segment).start ≤ offset := by omega
  obtain ⟨later, earlier, hcandidates, hlater, -⟩ := exists_candidates_eq hdisjoint hmem hstart
  have hreached : reached side offset (later ++ segment :: earlier) =
      later ++ segment :: reached side offset earlier := by
    apply reached_append_cons
    · intro other hother hne
      have hbehind := (hlater other hother).2.2 hnonempty hne
      rw [Span.isEmpty_eq_false] at hne
      omega
    · exact fun _ => Nat.le_of_eq hends.symm
  have hskip : later.find? (touching side wanted) = none := by
    rw [List.find?_eq_none]
    intro other hother htouch
    simp only [touching, Bool.and_eq_true, Bool.not_eq_true'] at htouch
    obtain ⟨hne, hadmitted⟩ := htouch
    have hmember : other ∈ segments := by
      have hin : other ∈ reached side offset ((ofSegments segments).candidates side offset) := by
        rw [hcandidates, hreached]
        simp [hother]
      exact (mem_reached_candidates hin).1
    obtain ⟨-, hbefore, hbehind⟩ := hlater other hother
    have hstop := hbehind hnonempty hne
    rw [Span.isEmpty_eq_false] at hne
    exact hnone other hmember hadmitted ⟨hbefore, by omega⟩
  have hholding : (later ++ segment :: reached side offset earlier).find?
      (holding side wanted offset) = none := by
    rw [List.find?_eq_none]
    intro other hother hhold
    simp only [holding, Bool.and_eq_true, Bool.not_eq_true', decide_eq_true_eq] at hhold
    have hin : other ∈ reached side offset ((ofSegments segments).candidates side offset) := by
      rw [hcandidates, hreached]
      exact hother
    obtain ⟨hmember, hbefore, -⟩ := mem_reached_candidates hin
    exact hnone other hmember hhold.1.2 ⟨hbefore, hhold.2⟩
  have hfound : touching side wanted segment = true := by simp [touching, hnonempty, hadmits]
  rw [find?_eq_best, hcandidates, hreached, best, hholding, List.find?_append, hskip,
    List.find?_cons_of_pos hfound]
  rfl

/-- Where no segment holds the offset or ends there, only an empty one that stands there is found. -/
theorem find?_of_untouched {segments : List Segment}
    (hnone : ∀ other ∈ segments, other.capabilities.admits wanted = true →
      (side.span other).isEmpty = false →
      ¬ ((side.span other).start ≤ offset ∧ offset ≤ (side.span other).stop)) :
    (ofSegments segments).find? side wanted offset =
      (reached side offset ((ofSegments segments).candidates side offset)).find?
        (pointing side wanted offset) := by
  have htouching : (reached side offset ((ofSegments segments).candidates side offset)).find?
      (touching side wanted) = none := by
    rw [List.find?_eq_none]
    intro other hother htouch
    simp only [touching, Bool.and_eq_true, Bool.not_eq_true'] at htouch
    obtain ⟨hmember, hbefore, hreach⟩ := mem_reached_candidates hother
    exact hnone other hmember htouch.2 htouch.1 ⟨hbefore, hreach htouch.1⟩
  have hholding : (reached side offset ((ofSegments segments).candidates side offset)).find?
      (holding side wanted offset) = none := by
    rw [List.find?_eq_none] at htouching ⊢
    intro other hother hhold
    apply htouching other hother
    simp only [holding, Bool.and_eq_true] at hhold
    simp only [touching, Bool.and_eq_true]
    exact hhold.1
  rw [find?_eq_best, best, hholding, htouching]
  rfl

/-- Where no segment holds the offset or ends there, one of the empty ones that stand there is found
if there is any. -/
theorem find?_of_points {segments : List Segment} {segment : Segment}
    (hdisjoint : DisjointOn side segments) (hmem : segment ∈ segments)
    (hpoints : pointing side wanted offset segment = true)
    (hnone : ∀ other ∈ segments, other.capabilities.admits wanted = true →
      (side.span other).isEmpty = false →
      ¬ ((side.span other).start ≤ offset ∧ offset ≤ (side.span other).stop)) :
    ∃ found ∈ segments, pointing side wanted offset found = true ∧
      (ofSegments segments).find? side wanted offset = some found := by
  have hempty : (side.span segment).isEmpty = true ∧ (side.span segment).start = offset := by
    simp only [pointing, Bool.and_eq_true, decide_eq_true_eq] at hpoints
    exact hpoints.1
  obtain ⟨later, earlier, hcandidates, hlater, -⟩ :=
    exists_candidates_eq hdisjoint hmem (Nat.le_of_eq hempty.2)
  -- What is looked at before the segment starts at the offset too, so it does not end before it.
  have hreached : reached side offset (later ++ segment :: earlier) =
      later ++ segment :: reached side offset earlier := by
    apply reached_append_cons
    · intro other hother hne
      have hstart := (hlater other hother).1
      rw [Span.isEmpty_eq_false] at hne
      omega
    · intro hne
      rw [hempty.1] at hne
      cases hne
  have hsome : ((reached side offset ((ofSegments segments).candidates side offset)).find?
      (pointing side wanted offset)).isSome = true := by
    rw [hcandidates, hreached, List.find?_isSome]
    exact ⟨segment, by simp, hpoints⟩
  obtain ⟨found, hfound⟩ := Option.isSome_iff_exists.mp hsome
  refine ⟨found, (mem_reached_candidates (List.mem_of_find?_eq_some hfound)).1,
    List.find?_some hfound, ?_⟩
  rw [find?_of_untouched hnone, hfound]

theorem find?_eq_none {segments : List Segment}
    (hnone : ∀ other ∈ segments, other.capabilities.admits wanted = true →
      (side.span other).isEmpty = false →
      ¬ ((side.span other).start ≤ offset ∧ offset ≤ (side.span other).stop))
    (hpoints : ∀ other ∈ segments, pointing side wanted offset other = false) :
    (ofSegments segments).find? side wanted offset = none := by
  rw [find?_of_untouched hnone, List.find?_eq_none]
  intro other hother
  rw [hpoints other (mem_reached_candidates hother).1]
  simp

end OffsetMapping

end ComponentServer
