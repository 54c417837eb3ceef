import ComponentServer.Proofs.Tsx.Compiled
import ComponentServer.Proofs.Tsx.Emitted
import ComponentServer.Serving.Diagnostics

/-!
# Reported spans come back

A checker reports spans of the code, and both ends of a span are looked up like cursors. The end is
the offset behind the span, so where another segment starts there it answers instead of the one that
the span lies in. That happens where the code leaves something of the document out and goes on at
once: behind the opening tag of a script or style, at white space that is dropped, at a stray closing
tag. The span then runs on over what is left out. Everywhere else it comes back exactly.
-/

namespace ComponentServer

open Text Markup Recovery

/-! ### Code that goes on at once -/

namespace Tsx

namespace Piece

theorem runsFrom_append (offset : Nat) (front back : List Piece) :
    runsFrom offset (front ++ back) =
      runsFrom offset front ++ runsFrom (offset + size (code front)) back := by
  induction front generalizing offset with
  | nil => simp [runsFrom, code]
  | cons piece others ih =>
    have hcode : offset + size (code (piece :: others)) =
        offset + size piece.text + size (code others) := by
      simp [code, Nat.add_assoc]
    cases piece with
    | made words =>
      rw [List.cons_append, runsFrom, runsFrom, ih, hcode]
      rfl
    | copied start copy =>
      rw [List.cons_append, runsFrom, runsFrom, ih, hcode, List.append_assoc]
      rfl

/-- Made-up text follows every stretch of the code. -/
structure Spaced (pieces : List Piece) : Prop where
  apart : ∀ offset, (runsFrom offset pieces).Pairwise fun left right =>
    left.generated.stop < right.generated.start
  ended : ∀ offset, ∀ run ∈ runsFrom offset pieces,
    run.generated.stop < offset + size (code pieces)

namespace Spaced

theorem nil : Spaced [] := ⟨by simp [runsFrom], by simp [runsFrom]⟩

theorem append {front back : List Piece} (hfront : Spaced front) (hback : Spaced back) :
    Spaced (front ++ back) := by
  constructor
  · intro offset
    rw [runsFrom_append, List.pairwise_append]
    refine ⟨hfront.apart _, hback.apart _, ?_⟩
    intro left hleft right hright
    have hlt := hfront.ended offset left hleft
    have hle := (bounds_of_mem_runsFrom right hright).1
    omega
  · intro offset run hmem
    rw [runsFrom_append, List.mem_append] at hmem
    rw [code_append, size_append]
    rcases hmem with hmem | hmem
    · have hlt := hfront.ended offset run hmem
      omega
    · have hlt := hback.ended _ run hmem
      omega

/-- A copied piece on lines of its own. -/
theorem line (start : Nat) (copy : Text) : Spaced [.copied start copy, .made ['\n']] := by
  constructor
  · intro offset
    exact pairwise_runsFrom_copied (by simp [runsFrom]) (by simp [runsFrom])
  · intro offset run hmem
    rcases mem_runsFrom_copied.mp hmem with ⟨-, rfl⟩ | hmem
    · simp only [code, List.flatMap_cons, List.flatMap_nil, Piece.text, size_append, size_cons,
        Segment.ofLength, List.append_nil, size_nil]
      have hpos := Char.utf8Size_pos '\n'
      omega
    · simp [runsFrom] at hmem

theorem follows_append {front back : List Piece} (hfront : Spaced front)
    (hback : ∀ offset, (runsFrom offset back).Pairwise Follows) (offset : Nat) :
    (runsFrom offset (front ++ back)).Pairwise Follows := by
  rw [runsFrom_append, List.pairwise_append]
  refine ⟨(hfront.apart offset).imp Or.inl, hback _, ?_⟩
  intro left hleft right hright
  have hlt := hfront.ended offset left hleft
  have hle := (bounds_of_mem_runsFrom right hright).1
  exact Or.inl (by omega)

end Spaced

/-- Pieces that are copied in the order of the document follow each other on both sides. -/
theorem pairwise_follows_runsFrom {pieces : List Piece}
    (h : (pieces.filterMap span?).Pairwise fun left right => left.stop ≤ right.start)
    (offset : Nat) : (runsFrom offset pieces).Pairwise Follows := by
  refine (pairwise_generated_runsFrom.and (pairwise_source_runsFrom h)).imp ?_
  rintro left right ⟨hgenerated, hsource⟩
  rcases Nat.lt_or_eq_of_le hgenerated with hlt | heq
  · exact Or.inl hlt
  · exact Or.inr ⟨heq, hsource⟩

end Piece

namespace Parts

theorem spaced_frontmatterPieces (parts : Parts) (text : Text) :
    Piece.Spaced (parts.frontmatterPieces text) := by
  unfold frontmatterPieces
  split
  · exact .line _ _
  · exact .nil

theorem spaced_scriptPieces (parts : Parts) (inlineAttributes : List Text) :
    Piece.Spaced (parts.scriptPieces inlineAttributes) := by
  rw [scriptPieces]
  induction parts.blocks.filter (·.isInlineScript inlineAttributes) with
  | nil => exact .nil
  | cons block others ih => exact (Piece.Spaced.line _ _).append ih

/-- Only the markup holds copies with nothing between them, and it stands in the order of the
document. -/
theorem pairwise_follows_pieces (text fileName : Text) (inlineAttributes : List Text) :
    (Piece.runsFrom 0 ((Parts.of text).pieces text fileName inlineAttributes)).Pairwise
      Follows := by
  have hinOrder := inOrder_tree text
  have hordered : (Node.keptAll text (Parts.of text).tree.children).Pairwise
      fun left right => left.stop ≤ right.start :=
    hinOrder.inLine_stretchesAll.pairwise_le.sublist (Node.keptAll_sublist text _)
  have hmarkup : ∀ offset, (Piece.runsFrom offset (.made (opening fileName) ::
      (Piece.ofNodes text (Parts.of text).tree.children ++ [.made ending]))).Pairwise Follows := by
    intro offset
    apply Piece.pairwise_follows_runsFrom
    rw [Piece.filterMap_span?_made, List.filterMap_append,
      (Piece.reproduces_ofNodes hinOrder).spans_eq]
    simpa using hordered
  have hfront := ((Parts.of text).spaced_frontmatterPieces text).append
    ((Parts.of text).spaced_scriptPieces inlineAttributes)
  have hall := hfront.follows_append hmarkup 0
  simpa [pieces] using hall

end Parts

variable {text : Text} {inlineAttributes : List Text} {options : Virtual.Options}

theorem pairwise_skips_compiled (h : Fits inlineAttributes text options.fileName) :
    (Virtual.compiled (compiler inlineAttributes) text options).2.Pairwise Skips := by
  rw [compiled_eq h]
  exact pairwise_skips_foldl_join (by simp) Piece.even_runsFrom List.Pairwise.nil
    (Parts.pairwise_follows_pieces text options.fileName inlineAttributes) (by simp)

end Tsx

/-! ### Looking up a span -/

namespace OffsetMapping

variable {side : Side} {wanted : Option Capability} {offset : Nat}

theorem pick_eq_of_admits {segments : List Segment}
    (h : ∀ segment ∈ segments, segment.capabilities.admits wanted = true)
    (fallback : Option Segment) :
    pick side wanted offset fallback segments = pick side none offset fallback segments := by
  induction segments generalizing fallback with
  | nil => rfl
  | cons segment earlier ih =>
    have hhere : segment.capabilities.admits wanted = segment.capabilities.admits none :=
      h segment (by simp)
    have hearlier := ih fun other hother => h other (List.mem_cons_of_mem _ hother)
    simp only [pick, hhere, hearlier]

/-- Where all segments admit the answer, asking for it makes no difference. -/
theorem across?_eq_of_admits {segments : List Segment}
    (h : ∀ segment ∈ segments, segment.capabilities.admits wanted = true) :
    (ofSegments segments).across? side wanted offset =
      (ofSegments segments).across? side none offset := by
  rw [across?, across?, find?, find?, pick_eq_of_admits]
  intro segment hmem
  rw [List.mem_reverse] at hmem
  exact h segment ((ordered_perm segments side).mem_iff.mp ((List.takeWhile_sublist _).subset hmem))

end OffsetMapping

/-- The stretch of the document that a span inside the segment's code is copied from. -/
def Segment.sourceOf (segment : Segment) (span : Span) : Span :=
  ⟨segment.source.start + (span.start - segment.generated.start),
    segment.source.start + (span.stop - segment.generated.start)⟩

/-- What a span inside a segment of a file stands for. It comes back as `found`, which is the
stretch it was copied from unless another segment starts where the span ends. Then it runs on to the
source of that segment. -/
structure MapsBack (text : Text) (file : VirtualFile) (segment : Segment) (span found : Span) :
    Prop where
  across : file.mapping.spanAcross? .generated (some .diagnostics) span = some found
  published : ∀ diagnostic : CheckerDiagnostic, diagnostic.span = span →
    (Diagnostic.ofChecker? text file diagnostic).map Diagnostic.region = some (text.regionOf found)
  copied : ∀ place, span.Holds place → ∃ byte, (utf8 file.text)[place]? = some byte ∧
    (utf8 text)[segment.source.start + (place - segment.generated.start)]? = some byte
  start_eq : found.start = (segment.sourceOf span).start
  exact_iff : found = segment.sourceOf span ↔
    ∀ other ∈ file.mapping.stretches, other.generated.start ≠ span.stop
  overrun : ∀ other ∈ file.mapping.stretches, other.generated.start = span.stop →
    (segment.sourceOf span).stop < other.source.start ∧ found.stop = other.source.start

section

variable {segments : List Segment} {segment other : Segment} {span : Span} {code text : Text}
  {options : Virtual.Options}

theorem across?_primaryFile_diagnostics (hsound : ∀ segment ∈ segments, Sound text code segment)
    (place : Nat) :
    (Virtual.primaryFile options code segments).mapping.across? .generated (some .diagnostics)
        place =
      (Virtual.primaryFile options code segments).mapping.toSource? none place := by
  apply OffsetMapping.across?_eq_of_admits
  intro segment hmem
  rcases List.mem_append.mp hmem with hmem | hmem
  · rw [(hsound segment hmem).capabilities]
    rfl
  · rw [List.mem_singleton] at hmem
    rw [hmem]
    rfl

/-- The offset behind a span comes back behind its source, unless another segment starts there. -/
theorem toSource?_stop (hsound : ∀ segment ∈ segments, Sound text code segment)
    (hskips : segments.Pairwise Skips) (hmem : segment ∈ segments)
    (hlt : segment.generated.start < span.stop) (hstop : span.stop ≤ segment.generated.stop)
    (hfree : ∀ other ∈ segments, other.generated.start ≠ span.stop) :
    (Virtual.primaryFile options code segments).mapping.toSource? none span.stop =
      some (segment.sourceOf span).stop := by
  have heven := fun other hother => (hsound other hother).even
  have hdisjoint := disjointOn_of_skips hskips
  rcases Nat.lt_or_eq_of_le hstop with hinside | hends
  · exact OffsetMapping.toSource?_of_holds heven hdisjoint hmem ⟨Nat.le_of_lt hlt, hinside⟩
  · have hlength := (heven segment hmem).length_eq
    have hnonempty := (heven segment hmem).nonempty
    have hsource : (segment.sourceOf span).stop = segment.source.stop := by
      simp only [Segment.sourceOf, Span.length] at hlength ⊢
      omega
    rw [hsource]
    refine OffsetMapping.toSource?_of_ends heven hdisjoint ?_ hmem hends.symm
    rintro other hother ⟨hstart, hbehind⟩
    have hne := hfree other hother
    rcases skips_trichotomy hskips hmem hother with rfl | h | h
    · omega
    · simp only [Skips] at h
      omega
    · simp only [Skips] at h
      omega

/-- Where another segment starts behind a span, it answers there. Its source is further on than the
segment of the span. -/
theorem toSource?_stop_of_start (hsound : ∀ segment ∈ segments, Sound text code segment)
    (hskips : segments.Pairwise Skips) (hmem : segment ∈ segments)
    (hlt : segment.generated.start < span.stop) (hstop : span.stop ≤ segment.generated.stop)
    (hother : other ∈ segments) (hstart : other.generated.start = span.stop) :
    (Virtual.primaryFile options code segments).mapping.toSource? none span.stop =
        some other.source.start ∧
      (segment.sourceOf span).stop < other.source.start := by
  have heven := fun other hother => (hsound other hother).even
  have hnonempty := (heven other hother).lt .generated
  simp only [Side.span] at hnonempty
  constructor
  · have hback : (Virtual.primaryFile options code segments).mapping.toSource? none span.stop =
        some (other.source.start + (span.stop - other.generated.start)) :=
      OffsetMapping.toSource?_of_holds heven (disjointOn_of_skips hskips) hother
        ⟨Nat.le_of_eq hstart, by omega⟩
    rwa [hstart, Nat.sub_self, Nat.add_zero] at hback
  · have hlength := (heven segment hmem).length_eq
    simp only [Segment.sourceOf, Span.length] at hlength ⊢
    rcases skips_trichotomy hskips hmem hother with rfl | h | h
    · omega
    · simp only [Skips] at h
      omega
    · simp only [Skips] at h
      omega

theorem exists_toSource?_stop (options : Virtual.Options)
    (hsound : ∀ segment ∈ segments, Sound text code segment) (hskips : segments.Pairwise Skips)
    (hmem : segment ∈ segments) (hlt : segment.generated.start < span.stop)
    (hstop : span.stop ≤ segment.generated.stop) :
    ∃ stop,
      (Virtual.primaryFile options code segments).mapping.toSource? none span.stop = some stop ∧
      (segment.sourceOf span).stop ≤ stop ∧
      (stop = (segment.sourceOf span).stop ↔
        ∀ other ∈ segments, other.generated.start ≠ span.stop) ∧
      ∀ other ∈ segments, other.generated.start = span.stop →
        (segment.sourceOf span).stop < other.source.start ∧ stop = other.source.start := by
  by_cases hfree : ∀ other ∈ segments, other.generated.start ≠ span.stop
  · refine ⟨_, toSource?_stop hsound hskips hmem hlt hstop hfree, Nat.le_refl _,
      iff_of_true rfl hfree, ?_⟩
    intro other hother hstart
    exact absurd hstart (hfree other hother)
  · push Not at hfree
    obtain ⟨next, hnext, hstart⟩ := hfree
    obtain ⟨hback, hbehind⟩ := toSource?_stop_of_start hsound hskips hmem hlt hstop hnext hstart
    refine ⟨_, hback, Nat.le_of_lt hbehind, iff_of_false (Nat.ne_of_gt hbehind) ?_, ?_⟩
    · intro hfree
      exact hfree next hnext hstart
    · intro other hother hstart'
      obtain ⟨hback', hbehind'⟩ :=
        toSource?_stop_of_start hsound hskips hmem hlt hstop hother hstart'
      exact ⟨hbehind', Option.some.inj (hback.symm.trans hback')⟩

theorem region_of_spanAcross? {file : VirtualFile} {found : Span}
    (h : file.mapping.spanAcross? .generated (some .diagnostics) span = some found)
    {diagnostic : CheckerDiagnostic} (hspan : diagnostic.span = span) :
    (Diagnostic.ofChecker? text file diagnostic).map Diagnostic.region =
      some (text.regionOf found) := by
  have hsource : Diagnostic.sourceSpan? file.mapping diagnostic.span = some found := by
    rw [Diagnostic.sourceSpan?, hspan, h, Option.some_or]
  rw [Diagnostic.ofChecker?, hsource]
  rfl

/-- Inside a segment, the code and its source hold the same bytes. -/
theorem exists_byte_of_holds (hsound : ∀ segment ∈ segments, Sound text code segment)
    (hmem : segment ∈ segments) {place : Nat} (hholds : segment.generated.Holds place) :
    ∃ byte, (utf8 (Virtual.primaryFile options code segments).text)[place]? = some byte ∧
      (utf8 text)[segment.source.start + (place - segment.generated.start)]? = some byte := by
  have hties := Virtual.ties_primaryFile options hsound segment
    ((Virtual.segments_primaryFile_perm options code segments).mem_iff.mpr
      (List.mem_append_left _ hmem))
  have hlength := hties.faithful.length_eq
  have hinside := hties.faithful.source_inside
  obtain ⟨hstart, hstop⟩ := hholds
  simp only [Span.length] at hlength
  have hsource : segment.source.Holds
      (segment.source.start + (place - segment.generated.start)) :=
    ⟨Nat.le_add_right _ _, by omega⟩
  have hbyte := hties.utf8_getElem?_eq hsource
  have hplace : segment.generated.start +
      (segment.source.start + (place - segment.generated.start) - segment.source.start) =
        place := by
    omega
  have hlt : segment.source.start + (place - segment.generated.start) < (utf8 text).length := by
    rw [length_utf8]
    omega
  rw [hplace, List.getElem?_eq_getElem hlt] at hbyte
  exact ⟨_, hbyte, List.getElem?_eq_getElem hlt⟩

theorem exists_mapsBack_primaryFile (hsound : ∀ segment ∈ segments, Sound text code segment)
    (hskips : segments.Pairwise Skips) (hmem : segment ∈ segments)
    (hstart : segment.generated.start ≤ span.start) (hlt : span.start < span.stop)
    (hstop : span.stop ≤ segment.generated.stop) :
    ∃ found, MapsBack text (Virtual.primaryFile options code segments) segment span found := by
  have heven := fun other hother => (hsound other hother).even
  have hstretches : ∀ other,
      other ∈ (Virtual.primaryFile options code segments).mapping.stretches ↔ other ∈ segments :=
    fun other => (OffsetMapping.stretches_perm heven).mem_iff
  have hfront : (Virtual.primaryFile options code segments).mapping.toSource? none span.start =
      some (segment.sourceOf span).start :=
    OffsetMapping.toSource?_of_holds heven (disjointOn_of_skips hskips) hmem ⟨hstart, by omega⟩
  obtain ⟨stop, hback, hle, hexact, hoverrun⟩ :=
    exists_toSource?_stop options hsound hskips hmem (by omega) hstop
  have hmax : max stop (segment.sourceOf span).start = stop := by
    simp only [Segment.sourceOf] at hle ⊢
    omega
  have hacross : (Virtual.primaryFile options code segments).mapping.spanAcross? .generated
      (some .diagnostics) span = some ⟨(segment.sourceOf span).start, stop⟩ := by
    simp only [OffsetMapping.spanAcross?, across?_primaryFile_diagnostics hsound, hfront, hback,
      Option.bind_eq_bind, Option.bind_some, Option.pure_def, hmax]
  refine ⟨⟨(segment.sourceOf span).start, stop⟩, hacross, ?_, ?_, rfl, ?_, ?_⟩
  · intro diagnostic hspan
    exact region_of_spanAcross? hacross hspan
  · intro place hholds
    exact exists_byte_of_holds hsound hmem
      ⟨Nat.le_trans hstart hholds.1, Nat.lt_of_lt_of_le hholds.2 hstop⟩
  · simp only [hstretches]
    rw [← hexact, Segment.sourceOf, Span.mk.injEq]
    exact and_iff_right rfl
  · intro other hother
    exact hoverrun other ((hstretches other).mp hother)

end

/-- **Spans that the checker reports inside a segment.** For every document whose lines and columns,
and those of its code, fit words of 32 bits, every span of code inside a segment of the primary file
comes back. It comes back exactly if and only if no other segment starts where it ends; else it is
published up to the source of that segment, which is further on than what the span was copied
from. -/
theorem Tsx.exists_mapsBack_generate (text : Text) (inlineAttributes : List Text)
    (blocks : List Block) (options : Virtual.Options)
    (hfits : Fits inlineAttributes text options.fileName) (segment : Segment)
    (hsegment : segment ∈ (Virtual.generate (compiler inlineAttributes) text blocks
      options).primary.mapping.stretches) (span : Span)
    (hstart : segment.generated.start ≤ span.start) (hlt : span.start < span.stop)
    (hstop : span.stop ≤ segment.generated.stop) :
    ∃ found, MapsBack text
      (Virtual.generate (compiler inlineAttributes) text blocks options).primary segment span
      found := by
  have hsound := Virtual.sound_compiled (compiler inlineAttributes) text options
  have heven := fun other hother => (hsound other hother).even
  rw [Virtual.primary_generate] at hsegment ⊢
  have hmem := (OffsetMapping.stretches_perm heven).mem_iff.mp hsegment
  exact exists_mapsBack_primaryFile hsound (pairwise_skips_compiled hfits) hmem hstart hlt hstop

namespace Tsx

/-- White space between two tags, which the code drops. -/
def blankDocument : Text := "<p> </p>".toList

def blankOptions : Virtual.Options := ⟨['a'], 1, [], []⟩

def openingTag : Segment := .ofLength 0 97 3 .unformattable

def closingTag : Segment := .ofLength 4 100 4 .unformattable

theorem scan_blankDocument :
    Token.scan (dropBytes (floorBoundary blankDocument
      ((Frontmatter.scan blankDocument).markupStart (size blankDocument))) blankDocument) =
      [.startTag ⟨['<', 'p', '>'], ['p'], [], .bracket⟩, .text [' '],
        .endTag ['<', '/', 'p', '>'] ['p']] := by
  cbv

set_option maxRecDepth 10000 in
theorem fits_blankDocument : Fits [] blankDocument blankOptions.fileName := by
  refine ⟨by decide, ?_⟩
  simp only [compile, Parts.of, Tree.parse_eq_ofMarkup, Tree.ofMarkup, scan_blankDocument]
  decide +kernel

set_option maxRecDepth 10000 in
theorem segments_blankDocument :
    (Virtual.compiled (compiler []) blankDocument blankOptions).2 = [openingTag, closingTag] := by
  rw [compiled_eq fits_blankDocument]
  simp only [Parts.of, Tree.parse_eq_ofMarkup, Tree.ofMarkup, scan_blankDocument]
  decide +kernel

theorem stretches_blankDocument :
    (Virtual.generate (compiler []) blankDocument [] blankOptions).primary.mapping.stretches.Perm
      [openingTag, closingTag] := by
  have hsound := Virtual.sound_compiled (compiler []) blankDocument blankOptions
  rw [Virtual.primary_generate, ← segments_blankDocument]
  exact OffsetMapping.stretches_perm fun other hother => (hsound other hother).even

/-- The name of a tag comes back exactly. -/
theorem exists_mapsBack_generate_blankDocument :
    let file := (Virtual.generate (compiler []) blankDocument [] blankOptions).primary
    Fits [] blankDocument blankOptions.fileName ∧ openingTag ∈ file.mapping.stretches ∧
      ∃ found, MapsBack blankDocument file openingTag ⟨98, 99⟩ found := by
  have hmem : openingTag ∈ _ := stretches_blankDocument.mem_iff.mpr List.mem_cons_self
  exact ⟨fits_blankDocument, hmem, exists_mapsBack_generate blankDocument [] [] blankOptions
    fits_blankDocument openingTag hmem ⟨98, 99⟩ (by decide) (by decide) (by decide)⟩

/-- The whole opening tag comes back with the white space behind it. -/
theorem spanAcross?_blankDocument :
    let file := (Virtual.generate (compiler []) blankDocument [] blankOptions).primary
    openingTag ∈ file.mapping.stretches ∧
    openingTag.sourceOf openingTag.generated = ⟨0, 3⟩ ∧
    file.mapping.spanAcross? .generated (some .diagnostics) openingTag.generated = some ⟨0, 4⟩ := by
  intro file
  have hmem : openingTag ∈ file.mapping.stretches :=
    stretches_blankDocument.mem_iff.mpr List.mem_cons_self
  have hnext : closingTag ∈ file.mapping.stretches :=
    stretches_blankDocument.mem_iff.mpr (List.mem_cons_of_mem _ List.mem_cons_self)
  have hsound := Virtual.sound_compiled (compiler []) blankDocument blankOptions
  have hskips := pairwise_skips_compiled fits_blankDocument
  obtain ⟨⟨start, stop⟩, hback⟩ :
      ∃ found, MapsBack blankDocument file openingTag openingTag.generated found := by
    have hsegment : openingTag ∈ (Virtual.compiled (compiler []) blankDocument blankOptions).2 := by
      rw [segments_blankDocument]
      exact List.mem_cons_self
    have hfile : file = _ := Virtual.primary_generate []
    rw [hfile]
    exact exists_mapsBack_primaryFile hsound hskips hsegment (by decide) (by decide) (by decide)
  have hstart : start = 0 := hback.start_eq
  have hstop : stop = 4 := (hback.overrun closingTag hnext rfl).2
  rw [hstart, hstop] at hback
  exact ⟨hmem, rfl, hback.across⟩

end Tsx

end ComponentServer
