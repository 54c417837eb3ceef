import ComponentServer.Frontmatter
import ComponentServer.Proofs.Text.Stretch

/-!
# The fences cut the text

A scan that finds fences cuts the text at them, so the body and the start of the markup fall between
characters, the body in front of the markup.
-/

namespace ComponentServer

namespace Text

theorem test_of_cutWhere? {test : Text → Bool} {text before after : Text}
    (h : cutWhere? test text = some (before, after)) : test after = true := by
  induction text generalizing before with
  | nil =>
    rw [cutWhere?] at h
    split at h
    next htest =>
      cases h
      exact htest
    next => cases h
  | cons c rest ih =>
    rw [cutWhere?] at h
    split at h
    next htest =>
      cases h
      exact htest
    next =>
      obtain ⟨halves, hcut, heq⟩ := Option.map_eq_some_iff.mp h
      cases heq
      exact ih hcut

theorem append_of_cut? {needle text before after : Text} (h : cut? needle text = some (before, after)) :
    text = before ++ needle ++ after.drop needle.length := by
  have happend := cutWhere?_append h
  obtain ⟨rest, hrest⟩ := List.isPrefixOf_iff_prefix.mp (test_of_cutWhere? h)
  rw [← happend, ← hrest]
  simp

end Text

open Text

namespace Frontmatter

/-- What a scan finds, with the parts that the fences cut the text into. -/
theorem scan_cases (text : Text) :
    scan text = .absent ∨
    (∃ before rest, text = before ++ Fence.mark ++ rest ∧
      scan text = .opened (Fence.after before) (size text)) ∨
    (∃ before body rest, text = before ++ Fence.mark ++ body ++ Fence.mark ++ rest ∧
      scan text = .closed (Fence.after before) (Fence.after (before ++ Fence.mark ++ body))) := by
  unfold scan
  split
  · exact Or.inl rfl
  next before rest hfirst =>
    have htext := append_of_cut? hfirst
    refine Or.inr ?_
    simp only
    split
    · exact Or.inl ⟨before, _, htext, rfl⟩
    next body rest' hsecond =>
      have hrest := append_of_cut? hsecond
      refine Or.inr ⟨before, body, rest'.drop Fence.mark.length, ?_, rfl⟩
      rw [hrest] at htext
      simpa using htext

theorem isBoundary_markupStart (text : Text) :
    IsBoundary text ((scan text).markupStart (size text)) := by
  rcases scan_cases text with hscan | ⟨before, rest, -, hscan⟩ | ⟨before, body, rest, htext, hscan⟩
  · rw [hscan]
    exact isBoundary_zero text
  · rw [hscan]
    exact isBoundary_end text
  · rw [hscan]
    exact ⟨before ++ Fence.mark ++ body ++ Fence.mark, rest, htext, rfl⟩

/-- The body stands between characters, in front of the markup. -/
theorem body_placed {text : Text} {body : Span} (h : (scan text).body? = some body) :
    IsBoundary text body.start ∧ IsBoundary text body.stop ∧ body.start ≤ body.stop ∧
      body.stop ≤ (scan text).markupStart (size text) := by
  rcases scan_cases text with hscan | ⟨before, rest, htext, hscan⟩ | ⟨before, inner, rest, htext, hscan⟩
  · rw [hscan] at h
    cases h
  · rw [hscan] at h ⊢
    cases h
    have hstart : IsBoundary text (size (before ++ Fence.mark)) := ⟨_, rest, htext, rfl⟩
    exact ⟨hstart, isBoundary_end text, hstart.le_size, Nat.le_refl _⟩
  · rw [hscan] at h ⊢
    cases h
    refine ⟨⟨before ++ Fence.mark, inner ++ Fence.mark ++ rest, by simpa using htext, rfl⟩,
      ⟨before ++ Fence.mark ++ inner, Fence.mark ++ rest, by simpa using htext, rfl⟩, ?_, ?_⟩
    · simp only [Fence.after, size_append]
      omega
    · simp only [Fence.after, markupStart, size_append]
      omega

end Frontmatter

end ComponentServer
