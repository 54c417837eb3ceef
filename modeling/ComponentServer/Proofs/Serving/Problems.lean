import ComponentServer.Proofs.Block.Extraction
import ComponentServer.Proofs.Frontmatter
import ComponentServer.Proofs.Serving.Regions

/-!
# What the built-in compiler reports

The compiler reports an opening fence without a second one and the scripts and styles that are not
closed, and the editor shows each where it stands. On the way a place is counted from one, its
length is the difference of two columns, and the end is added up again; along one line this leads
back to the same two boundaries. An opening tag that goes on to another line has no length, so only
its start is shown.
-/

namespace ComponentServer.Tsx

open Text

/-- What is wrong with a document, and where the editor is to show it. -/
structure Problem where
  region : Region
  code : Nat
  severity : Severity

/-- The opening fence, if there is no second one. -/
def openFences (source : Text) : List Problem :=
  match Frontmatter.scan source with
  | .opened fence _ => [⟨source.regionOf fence.span, 2001, .error⟩]
  | _ => []

/-- The region of a stretch that stays on its line; of any other, only where it starts. -/
def headOf (source : Text) (span : Span) : Region :=
  let region := source.regionOf span
  if region.start.line = region.stop.line then region else ⟨region.start, region.start⟩

@[simp]
theorem headOf_start (source : Text) (span : Span) :
    (headOf source span).start = positionAt source span.start := by
  rw [headOf, apply_ite Region.start, ite_self, regionOf]

/-- The opening tag of a block: its container up to its content. -/
def openingTagOf (block : Block) : Span := ⟨block.container.start, block.span.start⟩

/-- The opening tags of the scripts and styles that are not closed, in document order. -/
def unclosedTags (source : Text) : List Problem :=
  ((Parts.of source).blocks.filter (!·.closed)).map fun block =>
    ⟨headOf source (openingTagOf block), 2002, .warning⟩

/-- The diagnostic shows the problem. Its end is exact in front of the greatest column that a word
can hold, and else it is cut off there. -/
structure Problem.ShownBy (problem : Problem) (shown : Diagnostic) : Prop where
  code_eq : shown.code = some (problem.code : Int)
  severity_eq : shown.severity = problem.severity
  start_eq : shown.region.start = problem.region.start
  exact : problem.region.stop.column < Diagnostic.maxColumn → shown.region = problem.region
  within : problem.region.stop.before shown.region.stop = false
  /-- The columns can be subtracted. -/
  forward : problem.region.start.line = problem.region.stop.line ∧
    problem.region.start.column ≤ problem.region.stop.column

/-! ### There and back -/

variable {text : Text} {first last : Nat} {span : Span}

theorem column_positionAt_le (hfirst : IsBoundary text first) (hlast : IsBoundary text last)
    (hle : first ≤ last) (hline : (positionAt text first).line = (positionAt text last).line) :
    (positionAt text first).column ≤ (positionAt text last).column := by
  rcases Position.before_eq_false.mp (before_positionAt hfirst hlast hle) with hlt | ⟨-, hcolumn⟩
  · omega
  · exact hcolumn

/-- A later boundary has a later position. -/
theorem positionAt_before (hfirst : IsBoundary text first) (hlast : IsBoundary text last)
    (hlt : first < last) : (positionAt text first).before (positionAt text last) = true := by
  by_contra hnot
  have hle := offsetAt?_mono (Bool.eq_false_of_not_eq_true hnot) (offsetAt?_positionAt hlast)
    (offsetAt?_positionAt hfirst)
  omega

theorem line_positionAt_lt (h : IsBoundary text first) :
    (positionAt text first).line < lineCount text := by
  by_contra hmissing
  have hnone := offsetAt?_eq_none_iff.mpr (Nat.le_of_not_lt hmissing)
  rw [offsetAt?_positionAt h] at hnone
  cases hnone

/-- The location of a stretch of one line leads back to it. -/
theorem exists_spanOf?_oneLine (hfirst : IsBoundary text first) (hlast : IsBoundary text last)
    (hle : first ≤ last) (hline : (positionAt text first).line = (positionAt text last).line) :
    ∃ stop, Diagnostic.spanOf? text
        ⟨(positionAt text first).line + 1, (positionAt text first).column + 1,
          (positionAt text last).column - (positionAt text first).column⟩ = some ⟨first, stop⟩ ∧
      IsBoundary text stop ∧ stop ≤ last ∧
      ((positionAt text last).column < Diagnostic.maxColumn → stop = last) := by
  have hcolumn := column_positionAt_le hfirst hlast hle hline
  have hsum : (positionAt text first).column + 1 +
      ((positionAt text last).column - (positionAt text first).column) =
        (positionAt text last).column + 1 := by
    omega
  obtain ⟨line, -, hnearest⟩ := exists_nearest (line_positionAt_lt hfirst)
  obtain ⟨offset, hoffset, -⟩ :=
    hnearest (min ((positionAt text last).column + 1) Diagnostic.maxColumn - 1)
  refine ⟨max offset first, ?_, ?_, ?_, ?_⟩
  · simp [Diagnostic.spanOf?, offsetAtOneBased?, offsetAt?_positionAt hfirst, hsum, hoffset]
  · rcases Nat.le_total offset first with h | h
    · rwa [Nat.max_eq_right h]
    · rw [Nat.max_eq_left h]
      exact isBoundary_offsetAt? hoffset
  · have hbefore : (positionAt text last).before ⟨(positionAt text first).line,
        min ((positionAt text last).column + 1) Diagnostic.maxColumn - 1⟩ = false := by
      rw [Position.before_eq_false]
      exact Or.inr ⟨hline, by simp only; omega⟩
    exact Nat.max_le.mpr ⟨offsetAt?_mono hbefore hoffset (offsetAt?_positionAt hlast), hle⟩
  · intro hlt
    have hposition : (⟨(positionAt text first).line,
        min ((positionAt text last).column + 1) Diagnostic.maxColumn - 1⟩ : Position) =
          positionAt text last := by
      rw [hline, Nat.min_eq_left hlt, Nat.succ_sub_one]
    rw [hposition, offsetAt?_positionAt hlast, Option.some.injEq] at hoffset
    rw [← hoffset, Nat.max_eq_left hle]

/-- What is shown of a stretch is a stretch of one line, and the location says no more than that. -/
theorem exists_headOf_eq (hstart : IsBoundary text span.start) (hstop : IsBoundary text span.stop)
    (hle : span.start ≤ span.stop) :
    ∃ stop, IsBoundary text stop ∧ span.start ≤ stop ∧
      (positionAt text span.start).line = (positionAt text stop).line ∧
      headOf text span = text.regionOf ⟨span.start, stop⟩ ∧
      locate text span = ⟨(positionAt text span.start).line + 1,
        (positionAt text span.start).column + 1,
        (positionAt text stop).column - (positionAt text span.start).column⟩ := by
  by_cases hline : (positionAt text span.start).line = (positionAt text span.stop).line
  · refine ⟨span.stop, hstop, hle, hline, ?_, ?_⟩
    · simp [headOf, regionOf, hline]
    · simp [locate, regionOf, hline]
  · refine ⟨span.start, hstart, Nat.le_refl _, rfl, ?_, ?_⟩
    · simp [headOf, regionOf, hline]
    · simp [locate, regionOf, hline]

theorem signedCode_eq {code : Nat} (h : code < 2 ^ 31) : Diagnostic.signedCode code = code := by
  have hlow : -(((1 <<< 32 : Nat) : Int) / 2) ≤ code := by simp
  have hhigh : (code : Int) < (((1 <<< 32 : Nat) : Int) + 1) / 2 := by simp; omega
  exact Int.bmod_eq_of_le hlow hhigh

theorem shownBy_ofCompiler {reported : CompileDiagnostic} {problem : Problem}
    (hstart : IsBoundary text span.start) (hstop : IsBoundary text span.stop)
    (hle : span.start ≤ span.stop) (hlocation : reported.location = some (locate text span))
    (hregion : problem.region = headOf text span)
    (hcode : reported.code = problem.code) (hfits : problem.code < 2 ^ 31)
    (hseverity : reported.severity = problem.severity) :
    problem.ShownBy (Diagnostic.ofCompiler text reported) := by
  obtain ⟨last, hlast, hle', hline, hhead, hlocate⟩ := exists_headOf_eq hstart hstop hle
  obtain ⟨stop, hspan, hboundary, hbound, hexact⟩ := exists_spanOf?_oneLine hstart hlast hle' hline
  have hshown : (Diagnostic.ofCompiler text reported).region =
      text.regionOf ⟨span.start, stop⟩ := by
    rw [Diagnostic.region_ofCompiler, hlocation, Option.bind_some, hlocate, hspan, Option.getD_some]
  have hproblem : problem.region = text.regionOf ⟨span.start, last⟩ := hregion.trans hhead
  exact {
    code_eq := by rw [← signedCode_eq hfits, ← hcode]; rfl
    severity_eq := hseverity
    start_eq := by
      rw [hshown, hproblem]
      rfl
    exact := by
      rw [hshown, hproblem]
      intro hlt
      rw [hexact hlt]
    within := by
      rw [hshown, hproblem]
      exact before_positionAt hboundary hlast hbound
    forward := by
      rw [hproblem]
      exact ⟨hline, column_positionAt_le hstart hlast hle' hline⟩ }

/-! ### Fences and tags -/

/-- A fence stands on one line. -/
theorem headOf_fence (before rest : Text) :
    headOf (before ++ Fence.mark ++ rest) (Fence.after before).span =
      regionOf (before ++ Fence.mark ++ rest) (Fence.after before).span := by
  have hstart : positionAt (before ++ Fence.mark ++ rest) (size before) = reach before := by
    rw [List.append_assoc, positionAt_append]
  have hstop : positionAt (before ++ Fence.mark ++ rest) (size (before ++ Fence.mark)) =
      reach (before ++ Fence.mark) := positionAt_append _ rest
  have hmark : '\n' ∉ Fence.mark := by decide
  have hline : (reach (before ++ Fence.mark)).line = (reach before).line := by
    rw [reach, List.foldl_append, foldl_after_of_notMem _ hmark, reach]
  rw [headOf]
  exact if_pos (by simp only [regionOf, Fence.span, Fence.after, hstart, hstop, hline])

theorem forall₂_shownBy_openFences (source : Text) :
    List.Forall₂ Problem.ShownBy (openFences source)
      (((Parts.of source).frontmatterDiagnostics source).map (Diagnostic.ofCompiler source)) := by
  have hfrontmatter : (Parts.of source).frontmatter = Frontmatter.scan source := rfl
  rw [openFences, Parts.frontmatterDiagnostics, hfrontmatter]
  rcases Frontmatter.scan_cases source with hscan | ⟨before, rest, hcut, hscan⟩ |
    ⟨before, body, rest, -, hscan⟩
  · rw [hscan]
    exact List.Forall₂.nil
  · rw [hscan]
    have hfence : StandsAt source (size before) Fence.mark := ⟨before, rest, hcut, rfl⟩
    have hstop : IsBoundary source (size (before ++ Fence.mark)) := ⟨_, rest, hcut, rfl⟩
    have hle : size before ≤ size (before ++ Fence.mark) := by simp
    have hhead : regionOf source (Fence.after before).span =
        headOf source (Fence.after before).span := by
      rw [hcut, headOf_fence]
    refine .cons (shownBy_ofCompiler hfence.isBoundary_start hstop hle rfl hhead rfl ?_ rfl) .nil
    simp
  · rw [hscan]
    exact List.Forall₂.nil

/-- The opening tag of a block stands between characters, inside the container. -/
theorem openingTagOf_placed {text : Text} {start : Nat} {block : Block}
    (h : block ∈ Block.extract (Markup.Tree.parse text start) text) :
    IsBoundary text (openingTagOf block).start ∧ IsBoundary text (openingTagOf block).stop ∧
      (openingTagOf block).start < (openingTagOf block).stop ∧
      (openingTagOf block).stop ≤ block.container.stop := by
  obtain ⟨element, hmem, hblock⟩ := List.mem_filterMap.mp h
  have hplaced := Markup.Tree.placed_of_mem_elements hmem
  have hisOf := Block.isOf_of_ofElement? hplaced hblock
  obtain ⟨hlt, hle, hboundary⟩ := hplaced.opening _ hisOf.opening
  rw [openingTagOf, hisOf.container]
  exact ⟨hplaced.start, hboundary, hlt, hle⟩

theorem forall₂_shownBy_unclosedTags (source : Text) :
    List.Forall₂ Problem.ShownBy (unclosedTags source)
      (((Parts.of source).blockDiagnostics source).map (Diagnostic.ofCompiler source)) := by
  rw [unclosedTags, Parts.blockDiagnostics, List.map_map, List.forall₂_map_left_iff,
    List.forall₂_map_right_iff, List.forall₂_same]
  intro block hblock
  obtain ⟨hstart, hstop, hlt, -⟩ := openingTagOf_placed (List.mem_of_mem_filter hblock)
  exact shownBy_ofCompiler hstart hstop (Nat.le_of_lt hlt) rfl rfl rfl (by simp) rfl

theorem pairwise_before_unclosedTags (source : Text) :
    (unclosedTags source).Pairwise fun earlier later =>
      earlier.region.start.before later.region.start = true := by
  rw [unclosedTags, List.pairwise_map]
  refine ((Block.pairwise_container_extract _ _).filter _).imp_of_mem ?_
  intro earlier later hearlier hlater hle
  obtain ⟨hstart, -, hlt, hstop⟩ := openingTagOf_placed (List.mem_of_mem_filter hearlier)
  obtain ⟨hstart', -, -, -⟩ := openingTagOf_placed (List.mem_of_mem_filter hlater)
  rw [headOf_start, headOf_start]
  exact positionAt_before hstart hstart' (Nat.lt_of_lt_of_le hlt (hstop.trans hle))

/-- What is shown is one diagnostic for each problem: first the opening fence, if there is no second
one, then the opening tags of the blocks that are not closed, in document order. -/
structure ShowsProblems (source : Text) (shown : List Diagnostic) : Prop where
  matched : List.Forall₂ Problem.ShownBy (openFences source ++ unclosedTags source) shown
  ordered : (unclosedTags source).Pairwise fun earlier later =>
    earlier.region.start.before later.region.start = true

/-- **The diagnostics of the built-in compiler are shown where the problems are.** -/
theorem showsProblems_compile (inlineAttributes : List Text) (source fileName : Text) :
    ShowsProblems source ((compile inlineAttributes source fileName).diagnostics.map
      (Diagnostic.ofCompiler source)) where
  matched := by
    rw [compile, List.map_append]
    exact List.rel_append (forall₂_shownBy_openFences source) (forall₂_shownBy_unclosedTags source)
  ordered := pairwise_before_unclosedTags source

end ComponentServer.Tsx
