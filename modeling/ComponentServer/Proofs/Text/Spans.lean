import Mathlib
import ComponentServer.Text.Basic

/-!
# Spans

Which offsets a span holds, when two spans share none, and spans that follow each other.
-/

namespace ComponentServer.Span

theorem isEmpty_eq_true {span : Span} : span.isEmpty = true ↔ span.stop ≤ span.start := by
  simp [isEmpty]

theorem isEmpty_eq_false {span : Span} : span.isEmpty = false ↔ span.start < span.stop := by
  simp [isEmpty]

/-- The offset lies in the span. -/
def Holds (span : Span) (offset : Nat) : Prop := span.start ≤ offset ∧ offset < span.stop

instance (span : Span) (offset : Nat) : Decidable (span.Holds offset) :=
  inferInstanceAs (Decidable (_ ∧ _))

theorem Holds.isEmpty_eq_false {span : Span} {offset : Nat} (h : span.Holds offset) :
    span.isEmpty = false :=
  Span.isEmpty_eq_false.mpr (Nat.lt_of_le_of_lt h.1 h.2)

/-- One span ends where the other starts or before it. -/
def Disjoint (left right : Span) : Prop := left.stop ≤ right.start ∨ right.stop ≤ left.start

instance (left right : Span) : Decidable (left.Disjoint right) :=
  inferInstanceAs (Decidable (_ ∨ _))

theorem Disjoint.symm {left right : Span} (h : left.Disjoint right) : right.Disjoint left :=
  Or.symm h

/-- No offset lies in both spans. -/
def Apart (left right : Span) : Prop := ∀ offset, left.Holds offset → ¬ right.Holds offset

theorem Apart.disjoint {left right : Span} (h : left.Apart right) (hleft : left.start < left.stop)
    (hright : right.start < right.stop) : left.Disjoint right := by
  have hstart := h (max left.start right.start)
  simp only [Holds] at hstart
  simp only [Disjoint]
  omega

theorem Disjoint.apart {left right : Span} (h : left.Disjoint right) : left.Apart right := by
  intro offset hleft hright
  simp only [Holds, Disjoint] at hleft hright h
  omega

/-- The spans follow each other between two offsets. -/
def InLine (first last : Nat) : List Span → Prop
  | [] => first ≤ last
  | span :: others => first ≤ span.start ∧ span.start ≤ span.stop ∧ InLine span.stop last others

namespace InLine

theorem le {first last : Nat} {spans : List Span} (h : InLine first last spans) : first ≤ last := by
  induction spans generalizing first with
  | nil => exact h
  | cons span others ih =>
    have hothers := ih h.2.2
    have hfirst := h.1
    have hspan := h.2.1
    omega

theorem append {first middle last : Nat} {front back : List Span} (hfront : InLine first middle front)
    (hback : InLine middle last back) : InLine first last (front ++ back) := by
  induction front generalizing first with
  | nil =>
    cases back with
    | nil => exact Nat.le_trans hfront hback
    | cons span others => exact ⟨Nat.le_trans hfront hback.1, hback.2⟩
  | cons span others ih => exact ⟨hfront.1, hfront.2.1, ih hfront.2.2⟩

theorem widen {first last first' last' : Nat} {spans : List Span} (h : InLine first last spans)
    (hfirst : first' ≤ first) (hlast : last ≤ last') : InLine first' last' spans := by
  have hfront : InLine first' first [] := hfirst
  have hback : InLine last last' [] := hlast
  simpa using hfront.append (h.append hback)

theorem bounds {first last : Nat} {spans : List Span} (h : InLine first last spans) :
    ∀ span ∈ spans, first ≤ span.start ∧ span.stop ≤ last := by
  induction spans generalizing first with
  | nil => simp
  | cons span others ih =>
    obtain ⟨hfirst, hspan, hothers⟩ := h
    have hle := le hothers
    intro other hmem
    rcases List.mem_cons.mp hmem with rfl | hmem
    · exact ⟨hfirst, hle⟩
    · have hbounds := ih hothers other hmem
      exact ⟨by omega, hbounds.2⟩

theorem pairwise_le {first last : Nat} {spans : List Span} (h : InLine first last spans) :
    spans.Pairwise fun left right => left.stop ≤ right.start := by
  induction spans generalizing first with
  | nil => exact List.Pairwise.nil
  | cons span others ih =>
    refine List.pairwise_cons.mpr ⟨?_, ih h.2.2⟩
    intro other hmem
    exact (h.2.2.bounds other hmem).1

theorem pairwise_disjoint {first last : Nat} {spans : List Span} (h : InLine first last spans) :
    spans.Pairwise Disjoint :=
  h.pairwise_le.imp Or.inl

end InLine

end ComponentServer.Span
