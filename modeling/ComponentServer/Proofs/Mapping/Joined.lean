import ComponentServer.Proofs.Mapping.Recovered

/-!
# Joining stretches

Stretches that are added one after the other become segments, and a stretch that goes on where the
last segment ends makes that segment longer. On either side, the segments hold just the offsets that
the stretches hold, and they are as disjoint as the stretches are. No segment goes on where another
one ends on both sides, so where the code goes on at once the document skips something.
-/

namespace ComponentServer

/-- Not empty, and of one length on both sides. -/
structure Segment.Even (segment : Segment) : Prop where
  nonempty : segment.source.start < segment.source.stop
  length_eq : segment.source.length = segment.generated.length

theorem Segment.Even.lt {segment : Segment} (h : segment.Even) (side : Side) :
    (side.span segment).start < (side.span segment).stop := by
  obtain ⟨hsource, hlength⟩ := h
  simp only [Span.length] at hlength
  cases side with
  | source => exact hsource
  | generated =>
    simp only [Side.span]
    omega

theorem Segment.even_ofLength (source generated : Nat) {length : Nat} (hlength : 0 < length)
    (capabilities : Capabilities) : (Segment.ofLength source generated length capabilities).Even :=
  ⟨Nat.lt_add_of_pos_right hlength, by simp [Segment.ofLength, Span.length]⟩

namespace Recovery

variable {segments runs : List Segment} {run : Segment} {side : Side}

/-- A segment whose sides read the same has one length on both. -/
theorem Sound.even {source generated : Text} {segment : Segment}
    (h : Sound source generated segment) : segment.Even :=
  ⟨h.nonempty, h.ties.faithful.length_eq⟩

/-- Adds a stretch to the segments so far. -/
def join (segments : List Segment) (run : Segment) : List Segment :=
  extend segments run.source.start run.generated.start run.source.length

/-- Some segment holds the offset on the side. -/
def Held (side : Side) (segments : List Segment) (offset : Nat) : Prop :=
  ∃ segment ∈ segments, (side.span segment).Holds offset

/-- No two segments share an offset on the side. -/
def ApartOn (side : Side) (segments : List Segment) : Prop :=
  segments.Pairwise fun left right => (side.span left).Apart (side.span right)

/-- A stretch is added as it is, or it makes the last segment longer on both sides. -/
theorem join_cases (segments : List Segment) (hrun : run.Even) :
    (∃ front last, segments = front ++ [last] ∧ last.source.stop = run.source.start ∧
      last.generated.stop = run.generated.start ∧
      join segments run = front ++ [⟨⟨last.source.start, run.source.stop⟩,
        ⟨last.generated.start, run.generated.stop⟩, last.capabilities⟩]) ∨
    ((∀ last, segments.getLast? = some last →
      ¬ (last.source.stop = run.source.start ∧ last.generated.stop = run.generated.start)) ∧
      join segments run = segments ++ [⟨run.source, run.generated, .unformattable⟩]) := by
  obtain ⟨hlt, hlength⟩ := hrun
  simp only [Span.length] at hlength
  have hsource : run.source.start + run.source.length = run.source.stop := by
    rw [Span.length]
    omega
  have hgenerated : run.generated.start + run.source.length = run.generated.stop := by
    rw [Span.length]
    omega
  rcases extend_cases segments run.source.start run.generated.start run.source.length with
    ⟨front, last, rfl, hstop, hstop', hextend⟩ | ⟨hapart, hextend⟩
  · rw [hsource, hgenerated] at hextend
    exact Or.inl ⟨front, last, rfl, hstop, hstop', hextend⟩
  · rw [Segment.ofLength, hsource, hgenerated] at hextend
    exact Or.inr ⟨hapart, hextend⟩

theorem even_join (hsegments : ∀ segment ∈ segments, segment.Even) (hrun : run.Even) :
    ∀ segment ∈ join segments run, segment.Even := by
  intro segment hmem
  have hrunLt := hrun.lt .generated
  obtain ⟨hlt, hlength⟩ := hrun
  rcases join_cases segments ⟨hlt, hlength⟩ with
    ⟨front, last, rfl, hstop, hstop', hjoin⟩ | ⟨-, hjoin⟩
  · rw [hjoin, List.mem_append, List.mem_singleton] at hmem
    rcases hmem with hmem | rfl
    · exact hsegments segment (List.mem_append_left _ hmem)
    · have hlast := hsegments last (by simp)
      have hlastLt := hlast.lt .generated
      obtain ⟨hlastSource, hlastLength⟩ := hlast
      simp only [Span.length, Side.span] at hlength hlastLength hlastLt hrunLt
      refine ⟨?_, ?_⟩
      · simp only
        omega
      · simp only [Span.length]
        omega
  · rw [hjoin, List.mem_append, List.mem_singleton] at hmem
    rcases hmem with hmem | rfl
    · exact hsegments segment hmem
    · exact ⟨hlt, hlength⟩

theorem held_join (hsegments : ∀ segment ∈ segments, segment.Even) (hrun : run.Even)
    (offset : Nat) :
    Held side (join segments run) offset ↔
      Held side segments offset ∨ (side.span run).Holds offset := by
  rcases join_cases segments hrun with ⟨front, last, rfl, hstop, hstop', hjoin⟩ | ⟨-, hjoin⟩
  · have hlast := (hsegments last (by simp)).lt side
    have hlt := hrun.lt side
    -- The longer segment is the last one and the stretch, one behind the other.
    have hlonger : (side.span ⟨⟨last.source.start, run.source.stop⟩,
        ⟨last.generated.start, run.generated.stop⟩, last.capabilities⟩).Holds offset ↔
        (side.span last).Holds offset ∨ (side.span run).Holds offset := by
      cases side with
      | source =>
        simp only [Side.span, Span.Holds] at hlast hlt ⊢
        omega
      | generated =>
        simp only [Side.span, Span.Holds] at hlast hlt ⊢
        omega
    simp only [Held, hjoin, List.mem_append, List.mem_singleton, or_and_right, exists_or,
      exists_eq_left, hlonger, or_assoc]
  · have hspan : side.span ⟨run.source, run.generated, .unformattable⟩ = side.span run := by
      cases side <;> rfl
    simp only [Held, hjoin, List.mem_append, List.mem_singleton, or_and_right, exists_or,
      exists_eq_left, hspan]

theorem apartOn_join (hsegments : ∀ segment ∈ segments, segment.Even) (hrun : run.Even)
    (hapart : ApartOn side segments)
    (hnew : ∀ segment ∈ segments, (side.span segment).Apart (side.span run)) :
    ApartOn side (join segments run) := by
  rcases join_cases segments hrun with ⟨front, last, rfl, hstop, hstop', hjoin⟩ | ⟨-, hjoin⟩
  · have hlast := (hsegments last (by simp)).lt side
    have hlt := hrun.lt side
    rw [ApartOn, List.pairwise_append] at hapart
    rw [ApartOn, hjoin, List.pairwise_append]
    refine ⟨hapart.1, List.pairwise_singleton _ _, ?_⟩
    intro left hleft right hright offset hholds hholds'
    rw [List.mem_singleton] at hright
    subst hright
    have hold := hapart.2.2 left hleft last (by simp) offset hholds
    have hadded := hnew left (List.mem_append_left _ hleft) offset hholds
    cases side with
    | source =>
      simp only [Side.span, Span.Holds] at *
      omega
    | generated =>
      simp only [Side.span, Span.Holds] at *
      omega
  · have hspan : side.span ⟨run.source, run.generated, .unformattable⟩ = side.span run := by
      cases side <;> rfl
    rw [ApartOn, hjoin, List.pairwise_append]
    refine ⟨hapart, List.pairwise_singleton _ _, ?_⟩
    intro left hleft right hright
    rw [List.mem_singleton] at hright
    rw [hright, hspan]
    exact hnew left hleft

/-! ### All stretches -/

theorem held_foldl_join (hsegments : ∀ segment ∈ segments, segment.Even)
    (hruns : ∀ run ∈ runs, run.Even) (offset : Nat) :
    Held side (runs.foldl join segments) offset ↔
      Held side segments offset ∨ Held side runs offset := by
  induction runs generalizing segments with
  | nil => simp [Held]
  | cons run runs ih =>
    have hrun := hruns run (by simp)
    rw [List.foldl_cons, ih (even_join hsegments hrun)
      (fun other hother => hruns other (List.mem_cons_of_mem _ hother)), held_join hsegments hrun]
    simp only [Held, List.mem_cons, or_and_right, exists_or, exists_eq_left, or_assoc]

theorem apartOn_foldl_join (hsegments : ∀ segment ∈ segments, segment.Even)
    (hruns : ∀ run ∈ runs, run.Even) (hapart : ApartOn side segments)
    (hapartRuns : ApartOn side runs)
    (hnew : ∀ run ∈ runs, ∀ offset, Held side segments offset → ¬ (side.span run).Holds offset) :
    ApartOn side (runs.foldl join segments) := by
  induction runs generalizing segments with
  | nil => exact hapart
  | cons run runs ih =>
    have hrun := hruns run (by simp)
    rw [ApartOn, List.pairwise_cons] at hapartRuns
    apply ih
    · exact even_join hsegments hrun
    · exact fun other hother => hruns other (List.mem_cons_of_mem _ hother)
    · refine apartOn_join hsegments hrun hapart ?_
      intro segment hmem offset hholds
      exact hnew run (by simp) offset ⟨segment, hmem, hholds⟩
    · exact hapartRuns.2
    · intro other hother offset hheld
      rcases (held_join hsegments hrun offset).mp hheld with hheld | hholds
      · exact hnew other (List.mem_cons_of_mem _ hother) offset hheld
      · exact hapartRuns.1 other hother offset hholds

theorem ApartOn.disjointOn (h : ApartOn side segments) : OffsetMapping.DisjointOn side segments := by
  refine List.Pairwise.imp ?_ h
  intro left right hapart hleft hright
  rw [Span.isEmpty_eq_false] at hleft hright
  exact hapart.disjoint hleft hright

/-! ### Where code follows at once -/

/-- The code of the right segment stands behind that of the left one. Where nothing is between the
two, the right segment comes from behind the left one in the document too. -/
def Follows (left right : Segment) : Prop :=
  left.generated.stop < right.generated.start ∨
    left.generated.stop = right.generated.start ∧ left.source.stop ≤ right.source.start

/-- As before, but where the code goes on at once the document does not. -/
def Skips (left right : Segment) : Prop :=
  left.generated.stop < right.generated.start ∨
    left.generated.stop = right.generated.start ∧ left.source.stop < right.source.start

theorem follows_join {later : Segment} (hrun : run.Even)
    (hsegments : ∀ segment ∈ segments, Follows segment later) (hlater : Follows run later) :
    ∀ segment ∈ join segments run, Follows segment later := by
  intro segment hmem
  rcases join_cases segments hrun with ⟨front, last, rfl, -, -, hjoin⟩ | ⟨-, hjoin⟩
  · rw [hjoin, List.mem_append, List.mem_singleton] at hmem
    rcases hmem with hmem | rfl
    · exact hsegments segment (List.mem_append_left _ hmem)
    · exact hlater
  · rw [hjoin, List.mem_append, List.mem_singleton] at hmem
    rcases hmem with hmem | rfl
    · exact hsegments segment hmem
    · exact hlater

theorem pairwise_skips_join (hsegments : ∀ segment ∈ segments, segment.Even) (hrun : run.Even)
    (hskips : segments.Pairwise Skips) (hfollows : ∀ segment ∈ segments, Follows segment run) :
    (join segments run).Pairwise Skips := by
  rcases join_cases segments hrun with ⟨front, last, rfl, -, -, hjoin⟩ | ⟨hapart, hjoin⟩
  · -- The longer segment starts where the last one did.
    rw [List.pairwise_append] at hskips
    rw [hjoin, List.pairwise_append]
    refine ⟨hskips.1, List.pairwise_singleton _ _, ?_⟩
    intro left hleft right hright
    rw [List.mem_singleton] at hright
    subst hright
    exact hskips.2.2 left hleft last (by simp)
  · rw [hjoin, List.pairwise_append]
    refine ⟨hskips, List.pairwise_singleton _ _, ?_⟩
    intro left hleft right hright
    rw [List.mem_singleton] at hright
    subst hright
    rcases hfollows left hleft with hlt | ⟨heq, hle⟩
    · exact Or.inl hlt
    refine Or.inr ⟨heq, Nat.lt_of_le_of_ne hle fun hsource => ?_⟩
    -- A segment that the stretch goes on from would be the last one, and the two would be joined.
    obtain ⟨front, last, rfl⟩ :=
      (List.eq_nil_or_concat' segments).resolve_left (List.ne_nil_of_mem hleft)
    have hlast := hfollows last (by simp)
    have hlt := (hsegments last (by simp)).lt .generated
    rcases List.mem_append.mp hleft with hleft | hleft
    · have hbefore := (List.pairwise_append.mp hskips).2.2 left hleft last (by simp)
      simp only [Follows, Skips, Side.span] at hlast hbefore hlt
      omega
    · rw [List.mem_singleton] at hleft
      subst hleft
      exact hapart left (by simp) ⟨hsource, heq⟩

theorem pairwise_skips_foldl_join (hsegments : ∀ segment ∈ segments, segment.Even)
    (hruns : ∀ run ∈ runs, run.Even) (hskips : segments.Pairwise Skips)
    (hfollows : runs.Pairwise Follows)
    (hnew : ∀ run ∈ runs, ∀ segment ∈ segments, Follows segment run) :
    (runs.foldl join segments).Pairwise Skips := by
  induction runs generalizing segments with
  | nil => exact hskips
  | cons run runs ih =>
    have hrun := hruns run (by simp)
    rw [List.pairwise_cons] at hfollows
    apply ih
    · exact even_join hsegments hrun
    · exact fun other hother => hruns other (List.mem_cons_of_mem _ hother)
    · exact pairwise_skips_join hsegments hrun hskips (hnew run (by simp))
    · exact hfollows.2
    · intro other hother
      exact follows_join hrun (hnew other (List.mem_cons_of_mem _ hother)) (hfollows.1 other hother)

theorem disjointOn_of_skips (h : segments.Pairwise Skips) :
    OffsetMapping.DisjointOn .generated segments := by
  refine h.imp ?_
  intro left right hskips _ _
  rcases hskips with hlt | ⟨heq, -⟩
  · exact Or.inl (Nat.le_of_lt hlt)
  · exact Or.inl (Nat.le_of_eq heq)

theorem skips_trichotomy (h : segments.Pairwise Skips) {left right : Segment}
    (hleft : left ∈ segments) (hright : right ∈ segments) :
    left = right ∨ Skips left right ∨ Skips right left := by
  obtain ⟨front, back, rfl⟩ := List.append_of_mem hleft
  rw [List.pairwise_append, List.pairwise_cons] at h
  obtain ⟨-, ⟨hback, -⟩, hfront⟩ := h
  rw [List.mem_append, List.mem_cons] at hright
  rcases hright with hright | rfl | hright
  · exact Or.inr (Or.inr (hfront right hright left List.mem_cons_self))
  · exact Or.inl rfl
  · exact Or.inr (Or.inl (hback right hright))

/-- A stretch and one that goes on behind it are added like one longer stretch. -/
theorem extend_extend (segments : List Segment) (source generated first second : Nat) :
    extend (extend segments source generated first) (source + first) (generated + first) second =
      extend segments source generated (first + second) := by
  -- Whatever the first stretch was added to now ends where the second begins.
  have hsecond : ∀ (front : List Segment) (start place : Nat) (capabilities : Capabilities),
      extend (front ++ [⟨⟨start, source + first⟩, ⟨place, generated + first⟩, capabilities⟩])
        (source + first) (generated + first) second =
      front ++ [⟨⟨start, source + (first + second)⟩, ⟨place, generated + (first + second)⟩,
        capabilities⟩] := by
    intro front start place capabilities
    simp [extend, Nat.add_assoc]
  rcases extend_cases segments source generated first with
    ⟨front, last, rfl, rfl, rfl, hextend⟩ | ⟨hapart, hextend⟩
  · rw [hextend, hsecond]
    simp [extend]
  · rw [hextend, Segment.ofLength, hsecond]
    rcases extend_cases segments source generated (first + second) with
      ⟨front, last, rfl, hstop, hstop', -⟩ | ⟨-, hextend'⟩
    · exact absurd ⟨hstop, hstop'⟩ (hapart last (by simp))
    · rw [hextend', Segment.ofLength]

end Recovery

end ComponentServer
