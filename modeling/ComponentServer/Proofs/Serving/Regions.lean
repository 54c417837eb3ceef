import ComponentServer.Proofs.Text.Lines
import ComponentServer.Serving.Diagnostics

/-!
# Where a compiler's diagnostics are shown

A compiler says where a problem is by a line, a column and a length, and nothing makes it say so
truly. What the editor gets lies in the document all the same: on the line that the compiler names,
from the first character boundary that is not in front of its column to the first one that is not in
front of the end, either of them at the end of the line when the line is too short. Without such a
line it is the start of the document.
-/

namespace ComponentServer

namespace Text

variable {text : Text}

/-! ### Along a text -/

theorem before_foldl_after (position : Position) (text : Text) :
    (text.foldl Position.after position).before position = false := by
  induction text generalizing position with
  | nil => simp [Position.before]
  | cons c rest ih =>
    have hstep : (position.after c).before position = false := by
      rw [Position.before_eq_false, Position.after]
      split
      · exact Or.inl (Nat.lt_succ_self _)
      · exact Or.inr ⟨rfl, Nat.le_add_right _ _⟩
    exact Position.before_eq_false_trans hstep (ih _)

/-- A later boundary does not have an earlier position. -/
theorem before_positionAt {first last : Nat} (hfirst : IsBoundary text first)
    (hlast : IsBoundary text last) (hle : first ≤ last) :
    (positionAt text last).before (positionAt text first) = false := by
  obtain ⟨before, after, rfl, rfl⟩ := hfirst
  obtain ⟨before', after', hcut, rfl⟩ := hlast
  obtain ⟨part, rfl, rfl⟩ := exists_between_of_size_le hcut hle
  rw [hcut, positionAt_append, ← hcut, positionAt_append, reach, reach, List.foldl_append]
  exact before_foldl_after _ part

theorem offsetAt?_positionAt {offset : Nat} (h : IsBoundary text offset) :
    offsetAt? text (positionAt text offset) = some offset := by
  obtain ⟨before, after, rfl, rfl⟩ := h
  rw [positionAt_append, offsetAt?_reach]

/-! ### Along a line -/

/-- The offset is the first boundary of the line that is not in front of the column, or the end of
the line when there is none. -/
def Nearest (text : Text) (line : Span) (column offset : Nat) : Prop :=
  IsLeast (placesFrom text line column) offset ∨
    placesFrom text line column = ∅ ∧ offset = line.stop

theorem exists_nearest {number : Nat} (hnumber : number < lineCount text) :
    ∃ line, IsLine text number line ∧ ∀ column, ∃ offset,
      offsetAt? text ⟨number, column⟩ = some offset ∧ Nearest text line column offset := by
  obtain ⟨before, line, after, hcut⟩ := exists_cutsLine hnumber
  exact ⟨_, ⟨before, line, after, hcut, rfl⟩,
    fun column => @CutsLine.nearest text before line after ⟨number, column⟩ hcut⟩

theorem Nearest.onLine {number column offset : Nat} {line : Span}
    (h : Nearest text line column offset) (hline : IsLine text number line) :
    IsBoundary text offset ∧ (positionAt text offset).line = number := by
  obtain ⟨before, body, after, hcut, rfl⟩ := hline
  have hplace : IsBoundary text offset ∧ size before ≤ offset ∧
      offset ≤ size before + size body := by
    rcases h with ⟨⟨hboundary, hstart, hstop, -⟩, -⟩ | ⟨-, rfl⟩
    · exact ⟨hboundary, hstart, hstop⟩
    · exact ⟨⟨before ++ body, after, hcut.text_eq, size_append _ _⟩, Nat.le_add_right _ _,
        Nat.le_refl _⟩
  obtain ⟨hboundary, hstart, hstop⟩ := hplace
  obtain ⟨front, hfront, rfl, -⟩ := hcut.exists_prefix hboundary hstart hstop
  exact ⟨hboundary, by rw [hcut.positionAt_eq hfront]⟩

end Text

open Text

namespace Diagnostic

variable {text : Text} {location : Location}

theorem spanOf?_eq_none (h : location.line = 0 ∨ lineCount text < location.line) :
    spanOf? text location = none := by
  have hnone : text.offsetAtOneBased? location.line location.column = none := by
    rw [offsetAtOneBased?]
    split
    next => rfl
    next hpos =>
      rw [offsetAt?_eq_none_iff]
      simp only
      omega
  simp [spanOf?, hnone]

theorem exists_spanOf? (hpos : 0 < location.line) (hle : location.line ≤ lineCount text) :
    ∃ line start stop, IsLine text (location.line - 1) line ∧
      Nearest text line (location.column - 1) start ∧
      Nearest text line (min (location.column + location.length) maxColumn - 1) stop ∧
      spanOf? text location = some ⟨start, max stop start⟩ := by
  have hnumber : location.line - 1 < lineCount text := by omega
  obtain ⟨line, hline, hnearest⟩ := exists_nearest hnumber
  obtain ⟨start, hstart, hstartNearest⟩ := hnearest (location.column - 1)
  obtain ⟨stop, hstop, hstopNearest⟩ :=
    hnearest (min (location.column + location.length) maxColumn - 1)
  refine ⟨line, start, stop, hline, hstartNearest, hstopNearest, ?_⟩
  simp [spanOf?, offsetAtOneBased?, Nat.ne_of_gt hpos, hstart, hstop]

/-- The editor is shown what the compiler reported, in a valid place. -/
structure Shows (text : Text) (reported : CompileDiagnostic) (shown : Diagnostic) : Prop where
  severity_eq : shown.severity = reported.severity
  /-- The hint follows the message behind an empty line. -/
  message : shown.message = reported.message ++ (reported.hint.map ("\n\n" ++ ·)).getD ""
  /-- The ends are the positions of character boundaries, on one line and in order. -/
  bounded : ∃ span : Span, IsBoundary text span.start ∧ IsBoundary text span.stop ∧
    shown.region = text.regionOf span
  oneLine : shown.region.start.line = shown.region.stop.line
  ordered : shown.region.stop.before shown.region.start = false
  /-- Without a line of the document the region is the start of the document. -/
  unlocated : (∀ location ∈ reported.location,
    location.line = 0 ∨ lineCount text < location.line) → shown.region = ⟨.zero, .zero⟩
  /-- Else it is on that line, as near to the columns as boundaries can be. -/
  located : ∀ location ∈ reported.location, 0 < location.line → location.line ≤ lineCount text →
    shown.region.start.line = location.line - 1 ∧
      ∃ line start stop, IsLine text (location.line - 1) line ∧
        Nearest text line (location.column - 1) start ∧
        Nearest text line (min (location.column + location.length) maxColumn - 1) stop ∧
        shown.region = text.regionOf ⟨start, max stop start⟩

theorem region_ofCompiler (text : Text) (reported : CompileDiagnostic) :
    (ofCompiler text reported).region =
      text.regionOf ((reported.location.bind (spanOf? text)).getD ⟨0, 0⟩) := rfl

theorem message_ofCompiler (text : Text) (reported : CompileDiagnostic) :
    (ofCompiler text reported).message =
      reported.message ++ (reported.hint.map ("\n\n" ++ ·)).getD "" := by
  simp only [ofCompiler]
  cases reported.hint with
  | none => exact String.append_empty.symm
  | some hint => exact String.append_assoc

theorem shows_of_unlocated {reported : CompileDiagnostic}
    (h : ∀ location ∈ reported.location, location.line = 0 ∨ lineCount text < location.line) :
    Shows text reported (ofCompiler text reported) := by
  have hnone : reported.location.bind (spanOf? text) = none :=
    Option.bind_eq_none_iff.mpr fun location hlocation => spanOf?_eq_none (h location hlocation)
  have hregion : (ofCompiler text reported).region = text.regionOf ⟨0, 0⟩ := by
    rw [region_ofCompiler, hnone, Option.getD_none]
  have hzero : text.regionOf ⟨0, 0⟩ = ⟨.zero, .zero⟩ := by
    rw [regionOf, positionAt_eq_reach, takeBytes_zero]
    rfl
  exact {
    severity_eq := rfl
    message := message_ofCompiler text reported
    bounded := ⟨⟨0, 0⟩, isBoundary_zero text, isBoundary_zero text, hregion⟩
    oneLine := by rw [hregion]; rfl
    ordered := by
      rw [hregion]
      exact before_positionAt (isBoundary_zero text) (isBoundary_zero text) (Nat.le_refl _)
    unlocated := fun _ => hregion.trans hzero
    located := by
      intro location hlocation hpos hle
      have hline := h location hlocation
      omega }

theorem shows_of_located {reported : CompileDiagnostic} {location : Location}
    (hlocation : reported.location = some location) (hpos : 0 < location.line)
    (hle : location.line ≤ lineCount text) : Shows text reported (ofCompiler text reported) := by
  obtain ⟨line, start, stop, hline, hstart, hstop, hspan⟩ := exists_spanOf? hpos hle
  have hregion : (ofCompiler text reported).region = text.regionOf ⟨start, max stop start⟩ := by
    rw [region_ofCompiler, hlocation, Option.bind_some, hspan, Option.getD_some]
  obtain ⟨hstartBoundary, hstartLine⟩ := hstart.onLine hline
  have hend : IsBoundary text (max stop start) ∧
      (positionAt text (max stop start)).line = location.line - 1 := by
    rcases Nat.le_total stop start with h | h
    · rw [Nat.max_eq_right h]
      exact ⟨hstartBoundary, hstartLine⟩
    · rw [Nat.max_eq_left h]
      exact hstop.onLine hline
  exact {
    severity_eq := rfl
    message := message_ofCompiler text reported
    bounded := ⟨_, hstartBoundary, hend.1, hregion⟩
    oneLine := by rw [hregion]; exact hstartLine.trans hend.2.symm
    ordered := by
      rw [hregion]
      exact before_positionAt hstartBoundary hend.1 (Nat.le_max_right _ _)
    unlocated := by
      intro h
      have hline := h location hlocation
      omega
    located := by
      intro other hother _ _
      obtain rfl : location = other := Option.some.inj (hlocation.symm.trans hother)
      exact ⟨by rw [hregion]; exact hstartLine, line, start, stop, hline, hstart, hstop, hregion⟩ }

/-- **Diagnostics of any compiler are shown in valid places**, one for each and in their order, for
every text and all lines, columns and lengths. -/
theorem forall₂_shows (text : Text) (reported : List CompileDiagnostic) :
    List.Forall₂ (Shows text) reported (reported.map (ofCompiler text)) := by
  rw [List.forall₂_map_right_iff, List.forall₂_same]
  intro diagnostic _
  by_cases h : ∀ location ∈ diagnostic.location,
      location.line = 0 ∨ lineCount text < location.line
  · exact shows_of_unlocated h
  · push Not at h
    obtain ⟨location, hlocation, hpos, hle⟩ := h
    exact shows_of_located hlocation (Nat.pos_of_ne_zero hpos) hle

end Diagnostic

end ComponentServer
