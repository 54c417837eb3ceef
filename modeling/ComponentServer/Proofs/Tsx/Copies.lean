import ComponentServer.Proofs.Mapping.Joined
import ComponentServer.Proofs.SourceMap.Written
import ComponentServer.Tsx.Piece

/-!
# Copied pieces come back

The anchors of a copied piece open each of its lines and end it. Taking them in one by one, recovery
opens a stretch where the piece starts, goes on at every line where it left off, and closes the
stretch where the piece ends: what is left of all the anchors of a piece is one stretch.
-/

namespace ComponentServer

open Text SourceMap

namespace Recovery

variable {source generated : Text}

/-- Takes in the mark of an anchor. -/
def State.take (source generated : Text) (state : State) (anchor : Anchor) : State :=
  state.add source generated anchor.line anchor.mark

theorem addLines_replicate_nil (state : State) (line count : Nat) (others : Mappings) :
    State.addLines source generated state line (List.replicate count [] ++ others) =
      State.addLines source generated state (line + count) others := by
  induction count generalizing line with
  | zero => rfl
  | succ count ih =>
    rw [List.replicate_succ, List.cons_append, State.addLines, List.foldl_nil, ih]
    congr 1
    omega

/-- Line by line, the marks of anchors are taken in as the anchors follow each other. -/
theorem addLines_linesFrom {anchors : List Anchor} (hordered : Anchor.Ordered anchors) {line : Nat}
    (hline : ∀ anchor ∈ anchors, line ≤ anchor.line) (state : State) (current : List Mark) :
    State.addLines source generated state line (linesFrom line current anchors) =
      anchors.foldl (State.take source generated)
        (current.foldl (fun state mark => state.add source generated line mark) state) := by
  induction anchors generalizing line state current with
  | nil => rfl
  | cons anchor others ih =>
    rw [Anchor.Ordered, List.pairwise_cons] at hordered
    have hle := hline anchor (by simp)
    rw [linesFrom]
    split
    next hlt =>
      have hnext : line + 1 + (anchor.line - line - 1) = anchor.line := by omega
      rw [State.addLines, addLines_replicate_nil, hnext, ih hordered.2 hordered.1]
      rfl
    next hge =>
      have hsame : anchor.line = line := by omega
      rw [ih hordered.2 (fun other hother => hline other (List.mem_cons_of_mem _ hother)),
        List.foldl_append, List.foldl_cons, List.foldl_cons, List.foldl_nil, State.take, hsame]

/-! ### One anchor -/

/-- An anchor where the front of the code leads ends the stretch in progress there. -/
theorem take_reach_none (state : State) (before after : Text) :
    state.take source (before ++ after) ⟨(reach before).line, (reach before).column, none⟩ =
      ⟨state.settle source (before ++ after) (size before), none⟩ := by
  have hoffset : offsetAt? (before ++ after) ⟨(reach before).line, (reach before).column⟩ =
      some (size before) := offsetAt?_reach before after
  simp only [State.take, State.add, Anchor.mark, hoffset]
  rfl

/-- One that points into the source opens the next stretch. -/
theorem take_reach_some (state : State) (before after front back : Text) :
    state.take (front ++ back) (before ++ after)
        ⟨(reach before).line, (reach before).column,
          some ((reach front).line, (reach front).column)⟩ =
      ⟨state.settle (front ++ back) (before ++ after) (size before),
        some (size before, size front)⟩ := by
  have hoffset : offsetAt? (before ++ after) ⟨(reach before).line, (reach before).column⟩ =
      some (size before) := offsetAt?_reach before after
  have hstart : offsetAt? (front ++ back) ⟨(reach front).line, (reach front).column⟩ =
      some (size front) := offsetAt?_reach front back
  simp only [State.take, State.add, Anchor.mark, Option.map_some, hoffset, Option.bind_eq_bind,
    Option.bind_some, hstart]
  rfl

theorem agreement_append (part left right : Text) :
    agreement (size part) (part ++ left) (part ++ right) = size part := by
  induction part with
  | nil =>
    cases left with
    | nil => rfl
    | cons a left =>
      cases right with
      | nil => rfl
      | cons b right =>
        have hpos := a.utf8Size_pos
        rw [size_nil, List.nil_append, List.nil_append, agreement, if_neg (by omega)]
  | cons c rest ih =>
    rw [List.cons_append, List.cons_append, agreement, if_pos ⟨rfl, by rw [size_cons]; omega⟩,
      size_cons, Nat.add_sub_cancel_left, ih]

/-- A stretch over a part that stands in both texts is kept whole. -/
theorem settle_copied {start : Nat} {part : Text} (hstands : StandsAt source start part)
    (hne : part ≠ []) (segments : List Segment) (before after : Text) :
    State.settle source (before ++ part ++ after) ⟨segments, some (size before, start)⟩
        (size (before ++ part)) =
      extend segments start (size before) (size part) := by
  obtain ⟨back, hback⟩ := hstands.dropBytes_eq
  have hfront : dropBytes (size before) (before ++ part ++ after) = part ++ after := by
    rw [List.append_assoc, dropBytes_append_size]
  have hlength : agreement (size (before ++ part) - size before)
      (dropBytes start source) (dropBytes (size before) (before ++ part ++ after)) = size part := by
    rw [hback, hfront, size_append, Nat.add_sub_cancel_left, agreement_append]
  have hpos := size_pos_iff.mpr hne
  rw [State.settle]
  simp only [hlength]
  rw [if_neg (by omega)]

end Recovery

namespace Tsx.Piece

open Recovery

variable {source : Text}

/-! ### One piece -/

/-- What a piece claims to be copied stands in the source where it says. -/
def CopiedFrom (source : Text) : Piece → Prop
  | .copied start text => StandsAt source start text
  | .made _ => True

/-- In the middle of a piece, with the stretch over `front` in progress, the other anchors of the
piece make one stretch of it all. -/
theorem foldl_take_copyAnchors (front rest before after : Text) (start : Nat) (opens : Bool)
    (segments : List Segment) (hstands : StandsAt source start (front ++ rest)) (hne : front ≠ []) :
    (copyAnchors source (start + size front) (reach (before ++ front)) opens rest).foldl
        (State.take source (before ++ front ++ rest ++ after))
        ⟨segments, some (size before, start)⟩ =
      ⟨extend segments start (size before) (size (front ++ rest)), none⟩ := by
  induction rest generalizing front before start opens segments with
  | nil =>
    rw [List.append_nil] at hstands
    rw [copyAnchors, List.foldl_cons, List.foldl_nil, List.append_nil, List.append_nil,
      take_reach_none, settle_copied hstands hne]
  | cons c rest ih =>
    have hposition : (reach (before ++ front)).after c = reach (before ++ (front ++ [c])) := by
      simp [reach, List.foldl_append]
    cases opens with
    | false =>
      -- Inside a line the stretch in progress grows by the character.
      have hsplit : front ++ c :: rest = front ++ [c] ++ rest := by simp
      have hcode : before ++ front ++ c :: rest ++ after =
          before ++ (front ++ [c]) ++ rest ++ after := by simp
      have hoffset : start + size front + c.utf8Size = start + size (front ++ [c]) := by
        simp [Nat.add_assoc]
      rw [copyAnchors, hposition, hoffset, hcode, hsplit]
      exact ih (front ++ [c]) before start (c == '\n') segments (hsplit ▸ hstands) (by simp)
    | true =>
      -- Behind a line break an anchor ends the stretch over `front` and opens the next one, which
      -- follows it on both sides and so is joined to it again.
      have hback : StandsAt source (start + size front) ([c] ++ rest) := hstands.right
      obtain ⟨left, right, hsource, hleft, hplace⟩ := hback.positionAt_eq
      have hcode : before ++ front ++ c :: rest ++ after =
          before ++ front ++ (c :: rest ++ after) := by simp
      have hcode' : before ++ front ++ (c :: rest ++ after) =
          before ++ front ++ [c] ++ rest ++ after := by simp
      have hposition' : reach (before ++ (front ++ [c])) = reach (before ++ front ++ [c]) := by
        rw [List.append_assoc]
      have hoffset : start + size front + c.utf8Size = start + size front + size [c] := by simp
      rw [copyAnchors, if_pos rfl, List.foldl_cons, hplace, hcode]
      have htake := take_reach_some ⟨segments, some (size before, start)⟩ (before ++ front)
        (c :: rest ++ after) left ([c] ++ rest ++ right)
      rw [← List.append_assoc left, ← hsource, hleft, settle_copied hstands.left hne] at htake
      rw [htake, hposition, hposition', hoffset, hcode',
        ih [c] (before ++ front) (start + size front) (c == '\n') _ hback (by simp), size_append,
        extend_extend]
      simp

theorem foldl_take_anchorsAt {start : Nat} {text : Text} (hstands : StandsAt source start text)
    (hne : text ≠ []) (before after : Text) (segments : List Segment) :
    ((copied start text).anchorsAt source (reach before)).foldl
        (State.take source (before ++ text ++ after)) ⟨segments, none⟩ =
      ⟨extend segments start (size before) (size text), none⟩ := by
  cases text with
  | nil => exact absurd rfl hne
  | cons c rest =>
    obtain ⟨left, right, hsource, hleft, hplace⟩ := hstands.positionAt_eq
    have hposition : (reach before).after c = reach (before ++ [c]) := by
      simp [reach, List.foldl_append]
    have hcode : before ++ c :: rest ++ after = before ++ (c :: rest ++ after) := by simp
    have hcode' : before ++ (c :: rest ++ after) = before ++ [c] ++ rest ++ after := by simp
    have hoffset : start + c.utf8Size = start + size [c] := by simp
    rw [anchorsAt, if_neg (by simp), copyAnchors, if_pos rfl, List.foldl_cons, hplace, hcode]
    have htake := take_reach_some ⟨segments, none⟩ before (c :: rest ++ after) left
      (c :: rest ++ right)
    rw [← List.append_assoc left, ← hsource, hleft] at htake
    rw [htake, hposition, hoffset, hcode']
    exact foldl_take_copyAnchors [c] rest before after start (c == '\n') segments hstands (by simp)

/-! ### All pieces -/

/-- The stretches of the copied pieces, which follow each other in the code from `offset` on. -/
def runsFrom (offset : Nat) : List Piece → List Segment
  | [] => []
  | .copied start text :: others =>
    (if text.isEmpty then [] else [.ofLength start offset (size text) .unformattable]) ++
      runsFrom (offset + size text) others
  | .made text :: others => runsFrom (offset + size text) others

/-- From the anchors of all pieces, recovery gets back the stretches of the copied ones. -/
theorem foldl_take_anchors (pieces : List Piece)
    (hcopied : ∀ piece ∈ pieces, piece.CopiedFrom source) (before : Text)
    (segments : List Segment) :
    (anchors source (reach before) pieces).foldl
        (State.take source (before ++ code pieces)) ⟨segments, none⟩ =
      ⟨(runsFrom (size before) pieces).foldl join segments, none⟩ := by
  induction pieces generalizing before segments with
  | nil => rfl
  | cons piece others ih =>
    have hothers := fun other hother => hcopied other (List.mem_cons_of_mem _ hother)
    have hposition : advance (reach before) piece.text = reach (before ++ piece.text) := by
      simp [advance, reach, List.foldl_append]
    have hcode : before ++ code (piece :: others) = before ++ piece.text ++ code others := by
      simp [code]
    rw [anchors, List.foldl_append, hposition, hcode]
    cases piece with
    | made text =>
      rw [anchorsAt, List.foldl_nil, runsFrom, ih hothers, size_append]
      rfl
    | copied start text =>
      have hstands : StandsAt source start text := hcopied _ List.mem_cons_self
      have hpiece : ((copied start text).anchorsAt source (reach before)).foldl
          (State.take source (before ++ text ++ code others)) ⟨segments, none⟩ =
          ⟨(if text.isEmpty then [] else
            [.ofLength start (size before) (size text) .unformattable]).foldl join segments,
              none⟩ := by
        by_cases hne : text = []
        · simp [anchorsAt, hne]
        · rw [foldl_take_anchorsAt hstands hne]
          simp [hne, join, Segment.ofLength, Span.length]
      rw [runsFrom, List.foldl_append, ← size_append]
      rw [← ih hothers, ← hpiece]
      rfl

theorem line_le_after (position : Position) (c : Char) : position.line ≤ (position.after c).line := by
  unfold Position.after
  split
  · exact Nat.le_succ _
  · exact Nat.le_refl _

theorem line_of_mem_copyAnchors {offset : Nat} {position : Position} {opens : Bool} {text : Text} :
    ∀ anchor ∈ copyAnchors source offset position opens text,
      position.line ≤ anchor.line ∧ anchor.line ≤ (advance position text).line := by
  induction text generalizing offset position opens with
  | nil => simp [copyAnchors, advance]
  | cons c rest ih =>
    have hstep := line_le_after position c
    have hrest := foldl_after_line (position.after c) rest
    intro anchor hmem
    rw [copyAnchors] at hmem
    rw [advance, List.foldl_cons]
    have hlater : ∀ other ∈ copyAnchors source (offset + c.utf8Size) (position.after c) (c == '\n')
        rest, position.line ≤ other.line ∧
          other.line ≤ (rest.foldl Position.after (position.after c)).line :=
      fun other hother => ⟨Nat.le_trans hstep (ih other hother).1, (ih other hother).2⟩
    split at hmem
    · rcases List.mem_cons.mp hmem with rfl | hmem
      · exact ⟨Nat.le_refl _, by simp only; omega⟩
      · exact hlater anchor hmem
    · exact hlater anchor hmem

theorem ordered_copyAnchors (source : Text) (offset : Nat) (position : Position) (opens : Bool)
    (text : Text) : Anchor.Ordered (copyAnchors source offset position opens text) := by
  induction text generalizing offset position opens with
  | nil => exact List.pairwise_singleton _ _
  | cons c rest ih =>
    rw [copyAnchors]
    split
    · refine List.pairwise_cons.mpr ⟨?_, ih _ _ _⟩
      intro anchor hmem
      exact Nat.le_trans (line_le_after position c) (line_of_mem_copyAnchors anchor hmem).1
    · exact ih _ _ _

theorem line_of_mem_anchorsAt {position : Position} {piece : Piece} :
    ∀ anchor ∈ piece.anchorsAt source position,
      position.line ≤ anchor.line ∧ anchor.line ≤ (advance position piece.text).line := by
  intro anchor hmem
  cases piece with
  | made text => simp [anchorsAt] at hmem
  | copied start text =>
    rw [anchorsAt] at hmem
    split at hmem
    · cases hmem
    · exact line_of_mem_copyAnchors anchor hmem

theorem le_line_of_mem_anchors {position : Position} {pieces : List Piece} :
    ∀ anchor ∈ anchors source position pieces, position.line ≤ anchor.line := by
  induction pieces generalizing position with
  | nil => simp [anchors]
  | cons piece others ih =>
    intro anchor hmem
    rcases List.mem_append.mp hmem with hmem | hmem
    · exact (line_of_mem_anchorsAt anchor hmem).1
    · have hle := ih anchor hmem
      rw [advance, foldl_after_line] at hle
      omega

theorem ordered_anchors (source : Text) (position : Position) (pieces : List Piece) :
    Anchor.Ordered (anchors source position pieces) := by
  induction pieces generalizing position with
  | nil => exact List.Pairwise.nil
  | cons piece others ih =>
    rw [anchors, Anchor.Ordered, List.pairwise_append]
    refine ⟨?_, ih _, ?_⟩
    · cases piece with
      | made text => exact List.Pairwise.nil
      | copied start text =>
        rw [anchorsAt]
        split
        · exact List.Pairwise.nil
        · exact ordered_copyAnchors _ _ _ _ _
    · intro earlier hearlier later hlater
      exact Nat.le_trans (line_of_mem_anchorsAt earlier hearlier).2
        (le_line_of_mem_anchors later hlater)

/-- In texts whose positions fit words, so do the anchors of a piece. -/
theorem fitsWords_copyAnchors {left right text before after : Text} {opens : Bool}
    (hsource : Addressable (left ++ text ++ right)) (hcode : Addressable (before ++ text ++ after)) :
    ∀ anchor ∈ copyAnchors (left ++ text ++ right) (size left) (reach before) opens text,
      anchor.FitsWords := by
  induction text generalizing left before opens with
  | nil =>
    rw [List.append_assoc] at hcode
    intro anchor hmem
    rw [copyAnchors, List.mem_singleton] at hmem
    subst hmem
    exact ⟨hcode.reach_lt.2, by simp⟩
  | cons c rest ih =>
    have hposition : (reach before).after c = reach (before ++ [c]) := by
      simp [reach, List.foldl_append]
    have hoffset : size left + c.utf8Size = size (left ++ [c]) := by simp
    have hshift : left ++ c :: rest ++ right = left ++ [c] ++ rest ++ right := by simp
    have hshift' : before ++ c :: rest ++ after = before ++ [c] ++ rest ++ after := by simp
    have hlater : ∀ anchor ∈ copyAnchors (left ++ c :: rest ++ right) (size left + c.utf8Size)
        ((reach before).after c) (c == '\n') rest, anchor.FitsWords := by
      rw [hposition, hoffset, hshift]
      exact ih (hshift ▸ hsource) (hshift' ▸ hcode)
    intro anchor hmem
    rw [copyAnchors] at hmem
    split at hmem
    · rcases List.mem_cons.mp hmem with rfl | hmem
      · rw [List.append_assoc] at hsource hcode ⊢
        rw [positionAt_append]
        refine ⟨hcode.reach_lt.2, ?_⟩
        rintro place ⟨⟩
        exact hsource.reach_lt
      · exact hlater anchor hmem
    · exact hlater anchor hmem

theorem fitsWords_anchors {pieces : List Piece} {before : Text} (hsource : Addressable source)
    (hcode : Addressable (before ++ code pieces))
    (hcopied : ∀ piece ∈ pieces, piece.CopiedFrom source) :
    ∀ anchor ∈ anchors source (reach before) pieces, anchor.FitsWords := by
  induction pieces generalizing before with
  | nil => simp [anchors]
  | cons piece others ih =>
    have hposition : advance (reach before) piece.text = reach (before ++ piece.text) := by
      simp [advance, reach, List.foldl_append]
    have hsplit : before ++ code (piece :: others) = before ++ piece.text ++ code others := by
      simp [code]
    rw [hsplit] at hcode
    intro anchor hmem
    rw [anchors, hposition, List.mem_append] at hmem
    rcases hmem with hmem | hmem
    · cases piece with
      | made text => simp [anchorsAt] at hmem
      | copied start text =>
        obtain ⟨left, right, rfl, rfl⟩ := hcopied _ List.mem_cons_self
        rw [anchorsAt] at hmem
        split at hmem
        · cases hmem
        · exact fitsWords_copyAnchors hsource hcode anchor hmem
    · exact ih hcode (fun other hother => hcopied other (List.mem_cons_of_mem _ hother)) anchor hmem

/-- **The source map of copied pieces gives them back**: it decodes, and the segments recovered from
it are the stretches of the pieces, joined where they follow each other on both sides. -/
theorem segments_of_anchors {pieces : List Piece} (hsource : Addressable source)
    (hcode : Addressable (code pieces)) (hcopied : ∀ piece ∈ pieces, piece.CopiedFrom source) :
    ∃ mappings, decode (encode (anchors source .zero pieces)) = .ok mappings ∧
      Recovery.segments source (code pieces) mappings = (runsFrom 0 pieces).foldl join [] := by
  have hordered := ordered_anchors source .zero pieces
  have hfits : ∀ anchor ∈ anchors source (reach []) pieces, anchor.FitsWords :=
    fitsWords_anchors hsource hcode hcopied
  refine ⟨_, decode_encode hfits hordered, ?_⟩
  have hfold := foldl_take_anchors pieces hcopied [] []
  rw [Recovery.segments, addLines_linesFrom hordered (fun _ _ => Nat.zero_le _)]
  exact congrArg State.segments hfold

end Tsx.Piece

end ComponentServer
