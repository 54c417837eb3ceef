import ComponentServer.Proofs.Markup.Exchange
import ComponentServer.Proofs.Text.Spans

/-!
# Every byte of the markup is accounted for

The tokens follow each other without a gap. Rendered from left to right, a tree gives back the spans
of its tokens one by one, except for two kinds of tokens that leave no trace in it: blank runs of
text, and closing tags that fit no open element. So each byte belongs to one span of the tree at
most, and a byte that belongs to none lies in a token of these two kinds. Such a run is a whole one:
it goes on to the next `<`, and as no run follows another, it begins where the markup does or behind
a comment or a tag.
-/

namespace ComponentServer

open Text

/-! ### Spans and gaps -/

namespace Span

/-- The spans, and gaps between them, follow each other from one offset to another. -/
inductive Tiled (gap : Span → Prop) : Nat → Nat → List Span → Prop
  | nil (offset : Nat) : Tiled gap offset offset []
  | span {first middle last : Nat} {spans : List Span} :
      first ≤ middle → Tiled gap middle last spans → Tiled gap first last (⟨first, middle⟩ :: spans)
  | gap {first middle last : Nat} {spans : List Span} :
      first ≤ middle → gap ⟨first, middle⟩ → Tiled gap middle last spans →
      Tiled gap first last spans

namespace Tiled

variable {gap gap' : Span → Prop} {first middle last : Nat} {spans front back : List Span}

theorem mono (h : Tiled gap first last spans) (hgap : ∀ span, gap span → gap' span) :
    Tiled gap' first last spans := by
  induction h with
  | nil offset => exact .nil offset
  | span hle _ ih => exact .span hle ih
  | gap hle hhere _ ih => exact .gap hle (hgap _ hhere) ih

theorem append (hfront : Tiled gap first middle front) (hback : Tiled gap middle last back) :
    Tiled gap first last (front ++ back) := by
  induction hfront with
  | nil offset => exact hback
  | span hle _ ih => exact .span hle (ih hback)
  | gap hle hhere _ ih => exact .gap hle hhere (ih hback)

theorem inLine (h : Tiled gap first last spans) : InLine first last spans := by
  induction h with
  | nil offset => exact Nat.le_refl offset
  | span hle _ ih => exact ⟨Nat.le_refl _, hle, ih⟩
  | gap hle _ _ ih => exact ih.widen hle (Nat.le_refl _)

/-- An offset that lies in none of the spans lies in a gap. -/
theorem exists_gap (h : Tiled gap first last spans) {offset : Nat} (hfirst : first ≤ offset)
    (hlast : offset < last) (hnone : ∀ span ∈ spans, ¬ span.Holds offset) :
    ∃ span, gap span ∧ span.Holds offset := by
  induction h with
  | nil => omega
  | @span first middle last spans hle _ ih =>
    have hhere := hnone ⟨first, middle⟩ (by simp)
    apply ih
    · simp only [Holds] at hhere
      omega
    · exact hlast
    · exact fun span hmem => hnone span (List.mem_cons_of_mem _ hmem)
  | @gap first middle last spans hle hgap _ ih =>
    by_cases hmiddle : offset < middle
    · exact ⟨_, hgap, hfirst, hmiddle⟩
    · exact ih (by omega) hlast hnone

end Tiled

theorem countP_holds_le_one {spans : List Span} (h : spans.Pairwise Disjoint) (offset : Nat) :
    spans.countP (·.Holds offset) ≤ 1 := by
  induction spans with
  | nil => simp
  | cons span others ih =>
    obtain ⟨hspan, hothers⟩ := List.pairwise_cons.mp h
    rw [List.countP_cons]
    by_cases hhere : span.Holds offset
    · have hnone : others.countP (·.Holds offset) = 0 := by
        rw [List.countP_eq_zero]
        intro other hmem
        simpa using (hspan other hmem).apart offset hhere
      simp [hnone, hhere]
    · simpa [hhere] using ih hothers

end Span

namespace Markup

/-! ### What belongs to a node -/

/-- The opening tag; one that is cut off goes on to the end of the element. -/
def Element.opening (element : Element) : Span :=
  ⟨element.span.start, element.startTagEnd.getD element.span.stop⟩

def Element.closing? (element : Element) : Option Span :=
  element.endTagStart.map fun start => ⟨start, element.span.stop⟩

/-- What belongs to the node itself: a comment, the tags of an element, and a text if texts count. -/
def Node.own (texts : Bool) : Node → List Span
  | .text span => if texts then [span] else []
  | .comment span _ => [span]
  | .element head _ => head.opening :: head.closing?.toList

def Tree.owned (tree : Tree) : List Span := tree.nodes.flatMap (Node.own true)

def Tree.marks (tree : Tree) : List Span := tree.nodes.flatMap (Node.own false)

/-- Nothing in the span belongs to a node. -/
def Tree.Passes (tree : Tree) (span : Span) : Prop :=
  ∀ offset, span.Holds offset → ∀ part ∈ tree.owned, ¬ part.Holds offset

/-- The part goes on through the first `mark`, or to the end if there is none. -/
def RunsThrough (mark : Char) (part after : Text) : Prop :=
  (∃ inner, part = inner ++ [mark] ∧ mark ∉ inner) ∨ (mark ∉ part ∧ after = [])

/-- No element of the name spans the offset. -/
def Tree.LacksAt (tree : Tree) (offset : Nat) (name : Text) : Prop :=
  ∀ element ∈ tree.elements, element.span.Holds offset →
    element.tag.equalsIgnoringCase name = false

/-- A closing tag that is passed over: no element of its name is around it. -/
def Tree.StrayTag (tree : Tree) (text : Text) (span : Span) : Prop :=
  ∃ before letter body after, text = before ++ ('<' :: '/' :: letter :: body) ++ after ∧
    span = ⟨size before, size (before ++ '<' :: '/' :: letter :: body)⟩ ∧
    letter.isAlpha = true ∧ RunsThrough '>' body after ∧
    tree.LacksAt (size before) ((letter :: body).takeWhile StartTag.inName) ∧ tree.Passes span

/-- A run of text begins at the start of the markup and behind a comment or a tag, be it stray. -/
def Tree.BeginsRun (tree : Tree) (text : Text) (offset : Nat) : Prop :=
  offset = tree.span.start ∨ (∃ mark ∈ tree.marks, mark.stop = offset) ∨
    ∃ stray, tree.StrayTag text stray ∧ stray.stop = offset

/-- A run of text that is passed over: from where it begins to a `<` or to the end of the text there
is white space only. -/
def Tree.BlankRun (tree : Tree) (text : Text) (span : Span) : Prop :=
  ∃ before run after, text = before ++ run ++ after ∧
    span = ⟨size before, size (before ++ run)⟩ ∧ tree.BeginsRun text (size before) ∧
    run.allBlank = true ∧ (∀ c ∈ after.head?, c = '<') ∧ tree.Passes span

/-- No byte is read twice, and what belongs to no node is a blank run or a stray closing tag. -/
structure Tree.Accounts (text : Text) (start : Nat) (tree : Tree) : Prop where
  region : tree.span = ⟨floorBoundary text start, size text⟩
  once : ∀ offset, tree.owned.countP (·.Holds offset) ≤ 1
  passed : ∀ offset, tree.span.Holds offset → (∀ span ∈ tree.owned, ¬ span.Holds offset) →
    ∃ gap : Span, gap.Holds offset ∧ (tree.BlankRun text gap ∨ tree.StrayTag text gap)

/-! ### From left to right -/

mutual

/-- What belongs to the node and to the nodes below it, in document order. -/
def Node.line (texts : Bool) : Node → List Span
  | .text span => if texts then [span] else []
  | .comment span _ => [span]
  | .element head children =>
    head.opening :: (Node.lineAll texts children ++ head.closing?.toList)

def Node.lineAll (texts : Bool) : List Node → List Span
  | [] => []
  | node :: others => node.line texts ++ Node.lineAll texts others

end

mutual

theorem Node.line_perm (texts : Bool) :
    ∀ node : Node, (node.line texts).Perm (node.preorder.flatMap (Node.own texts))
  | .text _ => by simp [line, preorder, own]
  | .comment _ _ => by simp [line, preorder, own]
  | .element head children => by
    rw [line, preorder, List.flatMap_cons, own, List.cons_append]
    refine List.Perm.cons _ ?_
    exact (List.Perm.append_right _ (Node.lineAll_perm texts children)).trans
      List.perm_append_comm

theorem Node.lineAll_perm (texts : Bool) : ∀ nodes : List Node,
    (Node.lineAll texts nodes).Perm ((Node.preorderAll nodes).flatMap (Node.own texts))
  | [] => List.Perm.refl _
  | node :: others => by
    rw [lineAll, preorderAll, List.flatMap_append]
    exact (Node.line_perm texts node).append (Node.lineAll_perm texts others)

end

/-- Tags come out as their spans; a closing tag that is missing has none. -/
def lineRendering (texts : Bool) : Rendering Span where
  nodes := Node.lineAll texts
  tag start stop := [⟨start, stop⟩]
  missing _ := []
  nodes_append front back := by
    induction front with
    | nil => rfl
    | cons node others ih => simp [Node.lineAll, ih]
  nodes_close element start stop _ := by
    simp [OpenElement.close, Node.lineAll, Node.line, Element.opening, Element.closing?]
  nodes_abandon element stop _ := by
    simp [OpenElement.abandon, Node.lineAll, Node.line, Element.opening, Element.closing?]

namespace Token

/-- The token leaves nothing in the tree when elements of the given names are open. -/
def LeavesNothing (names : List Text) : Token → Prop
  | .text run => run.allBlank = true
  | .endTag _ name => names.any (·.equalsIgnoringCase name) = false
  | _ => False

/-- The span of a token among `tokens` that leaves nothing. -/
def PassedOver (names : List Text) (start : Nat) (tokens : List Token) (span : Span) : Prop :=
  ∃ front token back, tokens = front ++ token :: back ∧
    token.LeavesNothing (front.foldl openNames names) ∧
    span = ⟨start + size (front.flatMap source),
      start + size (front.flatMap source) + size token.source⟩

variable {names : List Text} {start : Nat}

theorem lineAll_leaf (texts : Bool) (tag : StartTag) (start : Nat) :
    Node.lineAll texts [Builder.leaf tag start] = [⟨start, start + size tag.text⟩] := by
  cases hterminated : tag.terminated <;>
    simp [Builder.leaf, Node.lineAll, Node.line, Element.opening, Element.closing?, hterminated]

theorem lineAll_rawElement (texts : Bool) (tag : StartTag) (content : Text) (close : Option Text)
    (start : Nat) :
    Node.lineAll texts [Builder.rawElement tag content close start] =
      ⟨start, start + size tag.text⟩ ::
        (Node.lineAll texts (if content.isEmpty then []
          else [.text ⟨start + size tag.text, start + size tag.text + size content⟩]) ++
        (close.map fun _ => (⟨start + size tag.text + size content,
          start + size tag.text + size content + size (close.getD [])⟩ : Span)).toList) := by
  simp [Builder.rawElement, Node.lineAll, Node.line, Element.opening, Element.closing?,
    Option.map_map, Function.comp_def]

theorem tiled_leaf (gap : Span → Prop) (tag : StartTag) (start : Nat) :
    Span.Tiled gap start (start + size tag.text)
      (Node.lineAll true [Builder.leaf tag start]) := by
  rw [lineAll_leaf]
  exact .span (Nat.le_add_right _ _) (.nil _)

theorem tiled_rawElement (gap : Span → Prop) (tag : StartTag) (content : Text)
    (close : Option Text) (start : Nat) :
    Span.Tiled gap start (start + size (Token.raw tag content close).source)
      (Node.lineAll true [Builder.rawElement tag content close start]) := by
  have hcontent : Span.Tiled gap (start + size tag.text) (start + size tag.text + size content)
      (Node.lineAll true (if content.isEmpty then []
        else [.text ⟨start + size tag.text, start + size tag.text + size content⟩])) := by
    cases content with
    | nil => exact .nil _
    | cons c content => exact .span (Nat.le_add_right _ _) (.nil _)
  have hclose : Span.Tiled gap (start + size tag.text + size content)
      (start + size (Token.raw tag content close).source)
      ((close.map fun _ => (⟨start + size tag.text + size content,
        start + size tag.text + size content + size (close.getD [])⟩ : Span)).toList) := by
    have hsize : start + size (Token.raw tag content close).source =
        start + size tag.text + size content + size (close.getD []) := by
      simp only [source, size_append]
      omega
    rw [hsize]
    cases close with
    | none => exact .nil _
    | some whole => exact .span (Nat.le_add_right _ _) (.nil _)
  rw [lineAll_rawElement]
  exact .span (Nat.le_add_right _ _) (hcontent.append hclose)

theorem flatMap_missing (texts : Bool) (names : List Text) :
    names.flatMap (lineRendering texts).missing = [] := by
  simp [lineRendering]

/-- One token comes out as spans that cover it, or it leaves nothing. -/
theorem tiled_token (token : Token) :
    Span.Tiled (PassedOver names start [token]) start (start + size token.source)
      ((lineRendering true).token names start token) := by
  have hpassed : token.LeavesNothing names →
      Span.Tiled (PassedOver names start [token]) start (start + size token.source) [] := by
    intro hnothing
    refine .gap (Nat.le_add_right _ _) ⟨[], token, [], rfl, hnothing, ?_⟩ (.nil _)
    simp
  cases token with
  | text run =>
    rw [Rendering.token]
    split
    next hblank => exact hpassed hblank
    next => exact .span (Nat.le_add_right _ _) (.nil _)
  | comment whole closed => exact .span (Nat.le_add_right _ _) (.nil _)
  | raw tag content close => exact tiled_rawElement _ tag content close start
  | startTag tag =>
    rw [Rendering.token]
    split
    · exact tiled_leaf _ tag start
    · exact .span (Nat.le_add_right _ _) (.nil _)
  | endTag whole name =>
    rw [Rendering.token]
    split
    · rw [flatMap_missing, List.nil_append]
      exact .span (Nat.le_add_right _ _) (.nil _)
    next hany => exact hpassed (Bool.eq_false_of_not_eq_true hany)

theorem tiled_tokens (tokens : List Token) :
    Span.Tiled (PassedOver names start tokens) start (start + size (tokens.flatMap source))
      ((lineRendering true).tokens names start tokens) := by
  induction tokens generalizing names start with
  | nil =>
    rw [Rendering.tokens, flatMap_missing]
    exact .nil _
  | cons token others ih =>
    rw [Rendering.tokens, List.flatMap_cons, size_append, ← Nat.add_assoc]
    refine (Span.Tiled.mono (tiled_token token) ?_).append (Span.Tiled.mono ih ?_)
    · rintro span ⟨front, passed, back, hsplit, hnothing, rfl⟩
      obtain ⟨rfl, rfl, rfl⟩ : front = [] ∧ passed = token ∧ back = [] := by
        cases front with
        | nil => simpa using hsplit.symm
        | cons first front => simp at hsplit
      exact ⟨[], passed, others, rfl, hnothing, rfl⟩
    · rintro span ⟨front, passed, back, rfl, hnothing, rfl⟩
      refine ⟨token :: front, passed, back, rfl, hnothing, ?_⟩
      simp [Nat.add_assoc]

end Token

/-! ### Where nothing is left -/

theorem runsThrough_splitThrough (mark : Char) (input : Text) :
    RunsThrough mark (splitThrough mark input).1 (splitThrough mark input).2 := by
  induction input with
  | nil => exact Or.inr ⟨by simp [splitThrough], rfl⟩
  | cons c rest ih =>
    rw [splitThrough]
    by_cases hc : c = mark
    · rw [if_pos hc]
      exact Or.inl ⟨[], by rw [hc]; rfl, by simp⟩
    · rw [if_neg hc]
      rcases ih with ⟨inner, hinner, hnotMem⟩ | ⟨hnotMem, hrest⟩
      · exact Or.inl ⟨c :: inner, by simp [hinner], by simp [hnotMem, Ne.symm hc]⟩
      · exact Or.inr ⟨by simp [hnotMem, Ne.symm hc], hrest⟩

theorem RunsThrough.prepend {mark : Char} {front part after : Text}
    (h : RunsThrough mark part after) (hfront : mark ∉ front) :
    RunsThrough mark (front ++ part) after := by
  rcases h with ⟨inner, rfl, hinner⟩ | ⟨hpart, hafter⟩
  · exact Or.inl ⟨front ++ inner, by simp, by simp [hfront, hinner]⟩
  · exact Or.inr ⟨by simp [hfront, hpart], hafter⟩

theorem StartTag.inName_of_isAlpha {c : Char} (h : c.isAlpha = true) : inName c = true := by
  by_contra hnot
  simp only [inName, isTagBlank, Bool.not_eq_true, Bool.not_eq_false', Bool.or_eq_true,
    beq_iff_eq] at hnot
  rcases hnot with (((((((rfl | rfl) | rfl) | rfl) | rfl) | rfl) | rfl) | rfl) <;>
    exact absurd h (by decide)

namespace Token

theorem readNext_cases (c : Char) (rest : Text) :
    readNext c rest = readText c rest ∨ (∃ body, readNext c rest = readComment body) ∨
      (∃ body, readNext c rest = readDeclaration body) ∨
      (∃ body, readNext c rest = readStartTag body) ∨
      ∃ a body, c = '<' ∧ rest = '/' :: a :: body ∧ a.isAlpha = true ∧
        readNext c rest = readEndTag (a :: body) := by
  unfold readNext
  split
  next hc =>
    split
    · exact Or.inr (Or.inl ⟨_, rfl⟩)
    · exact Or.inr (Or.inr (Or.inl ⟨_, rfl⟩))
    next a body =>
      split
      next halpha => exact Or.inr (Or.inr (Or.inr (Or.inr ⟨a, body, hc, rfl, halpha, rfl⟩)))
      next => exact Or.inl rfl
    next a body _ _ _ =>
      split
      · exact Or.inr (Or.inr (Or.inr (Or.inl ⟨_, rfl⟩)))
      · exact Or.inl rfl
    · exact Or.inl rfl
  next => exact Or.inl rfl

theorem tag?_readStartTag (body : Text) : (readStartTag body).1.tag? ≠ none := by
  unfold readStartTag readRaw
  split
  · split <;> simp [tag?]
  · simp [tag?]

/-- A run of text stops in front of a `<`. -/
theorem eq_readText_of_readNext {c : Char} {rest run left : Text}
    (h : readNext c rest = (.text run, left)) : readText c rest = (.text run, left) := by
  rcases readNext_cases c rest with hread | ⟨body, hread⟩ | ⟨body, hread⟩ | ⟨body, hread⟩ |
    ⟨a, body, -, -, -, hread⟩
  · rw [← hread, h]
  · unfold readComment at hread
    split at hread <;> cases hread.symm.trans h
  · cases hread.symm.trans h
  · have htag := tag?_readStartTag body
    rw [← hread, h] at htag
    exact absurd rfl htag
  · cases hread.symm.trans h

theorem head?_left_of_readNext {c : Char} {rest run left : Text}
    (h : readNext c rest = (.text run, left)) : ∀ d ∈ left.head?, d = '<' := by
  intro d hd
  have hleft : left = rest.dropWhile (· != '<') :=
    (congrArg Prod.snd (eq_readText_of_readNext h)).symm
  have hstop := List.head?_dropWhile_not (· != '<') rest
  rw [hleft] at hd
  rw [hd] at hstop
  simpa using hstop

/-- A run of text that follows another starts with a `<`, so it is not blank. -/
theorem allBlank_eq_false_of_readNext {c d : Char} {rest rest' run run' left left' : Text}
    (h : readNext c rest = (.text run, left)) (hleft : left = d :: rest')
    (h' : readNext d rest' = (.text run', left')) : run'.allBlank = false := by
  have hd : d = '<' := head?_left_of_readNext h d (by rw [hleft]; rfl)
  have hrun : run' = d :: rest'.takeWhile (· != '<') := by
    have htext := congrArg Prod.fst (eq_readText_of_readNext h')
    exact (Token.text.inj htext).symm
  rw [hrun, hd, allBlank, List.all_cons]
  rfl

/-- Plain content that nothing closes goes on to the end. -/
theorem left_eq_nil_of_readNext {c : Char} {rest content left : Text} {tag : StartTag}
    (h : readNext c rest = (.raw tag content none, left)) : left = [] := by
  rcases readNext_cases c rest with hread | ⟨body, hread⟩ | ⟨body, hread⟩ | ⟨body, hread⟩ |
    ⟨a, body, -, -, -, hread⟩
  · cases hread.symm.trans h
  · unfold readComment at hread
    split at hread <;> cases hread.symm.trans h
  · cases hread.symm.trans h
  · unfold readStartTag readRaw at hread
    split at hread
    · split at hread
      · cases hread.symm.trans h
      · exact (congrArg Prod.snd (hread.symm.trans h)).symm
    · cases hread.symm.trans h
  · cases hread.symm.trans h

variable {names : List Text}

/-- What a token leaves in the tree ends where the token does. -/
theorem exists_mark {c : Char} {rest left : Text} {token : Token} (start : Nat)
    (h : readNext c rest = (token, left)) (hleft : left ≠ []) (htext : ∀ run, token ≠ .text run)
    (hleaves : ¬ token.LeavesNothing names) :
    ∃ mark ∈ (lineRendering false).token names start token,
      mark.stop = start + size token.source := by
  cases token with
  | text run => exact absurd rfl (htext run)
  | comment whole closed =>
    exact ⟨⟨start, start + size whole⟩, List.mem_singleton.mpr rfl, rfl⟩
  | raw tag content close =>
    cases close with
    | none => exact absurd (left_eq_nil_of_readNext h) hleft
    | some whole =>
      refine ⟨⟨start + size tag.text + size content,
        start + size tag.text + size content + size whole⟩, ?_, ?_⟩
      · have hline := lineAll_rawElement false tag content (some whole) start
        have htoken : (lineRendering false).token names start (.raw tag content (some whole)) =
            Node.lineAll false [Builder.rawElement tag content (some whole) start] := rfl
        rw [htoken, hline]
        simp
      · simp only [source, Option.getD_some, size_append]
        omega
  | startTag tag =>
    refine ⟨⟨start, start + size tag.text⟩, ?_, rfl⟩
    rw [Rendering.token]
    split
    · have hleaf : (lineRendering false).nodes [Builder.leaf tag start] =
          [⟨start, start + size tag.text⟩] := lineAll_leaf false tag start
      rw [hleaf]
      exact List.mem_singleton.mpr rfl
    · exact List.mem_singleton.mpr rfl
  | endTag whole name =>
    have hany : names.any (·.equalsIgnoringCase name) = true :=
      Bool.eq_true_of_not_eq_false hleaves
    refine ⟨⟨start, start + size whole⟩, ?_, rfl⟩
    rw [Rendering.token, if_pos hany, flatMap_missing]
    exact List.mem_singleton.mpr rfl

theorem token_eq_nil {token : Token} (h : token.LeavesNothing names) (texts : Bool) :
    (lineRendering texts).token names start token = [] := by
  cases token with
  | text run => exact if_pos h
  | endTag whole name => exact if_neg (by rw [h]; exact Bool.false_ne_true)
  | comment whole closed => cases h
  | startTag tag => cases h
  | raw tag content close => cases h

theorem tokens_append (texts : Bool) (names : List Text) (start : Nat) (front back : List Token) :
    (lineRendering texts).tokens names start (front ++ back) =
      (lineRendering texts).tokens names start front ++
        (lineRendering texts).tokens (front.foldl openNames names)
          (start + size (front.flatMap source)) back := by
  induction front generalizing names start with
  | nil => simp [Rendering.tokens, flatMap_missing]
  | cons token front ih =>
    rw [List.cons_append, Rendering.tokens, ih, Rendering.tokens, List.append_assoc]
    simp [Nat.add_assoc]

theorem takeWhile_name_append (body : Text) :
    (body.takeWhile StartTag.inName ++
      (splitThrough '>' (body.dropWhile StartTag.inName)).1).takeWhile StartTag.inName =
      body.takeWhile StartTag.inName := by
  have hname : ∀ c ∈ body.takeWhile StartTag.inName, StartTag.inName c = true :=
    fun c hc => List.mem_takeWhile_imp hc
  rw [List.takeWhile_append_of_pos hname]
  have hstop := List.head?_dropWhile_not StartTag.inName body
  cases hrest : body.dropWhile StartTag.inName with
  | nil => simp [splitThrough]
  | cons d rest =>
    rw [hrest] at hstop
    have hd : StartTag.inName d = false := by simpa using hstop
    rw [splitThrough]
    split <;> simp [hd]

theorem exists_readEndTag_of_readNext {c : Char} {rest whole name left : Text}
    (h : readNext c rest = (.endTag whole name, left)) :
    ∃ letter body, c = '<' ∧ rest = '/' :: letter :: body ∧ letter.isAlpha = true ∧
      readEndTag (letter :: body) = (.endTag whole name, left) := by
  rcases readNext_cases c rest with hread | ⟨body, hread⟩ | ⟨body, hread⟩ | ⟨body, hread⟩ |
    ⟨letter, body, hc, hrest, halpha, hread⟩
  · cases hread.symm.trans h
  · unfold readComment at hread
    split at hread <;> cases hread.symm.trans h
  · cases hread.symm.trans h
  · have htag := tag?_readStartTag body
    rw [← hread, h] at htag
    exact absurd rfl htag
  · exact ⟨letter, body, hc, hrest, halpha, hread.symm.trans h⟩

theorem exists_of_readNext_eq_endTag {c : Char} {rest whole name left : Text}
    (h : readNext c rest = (.endTag whole name, left)) :
    ∃ letter body, whole = '<' :: '/' :: letter :: body ∧ letter.isAlpha = true ∧
      RunsThrough '>' body left ∧ name = (letter :: body).takeWhile StartTag.inName := by
  obtain ⟨letter, body, -, -, halpha, hend⟩ := exists_readEndTag_of_readNext h
  have hletter := StartTag.inName_of_isAlpha halpha
  simp only [readEndTag, Prod.mk.injEq, Token.endTag.injEq] at hend
  obtain ⟨⟨rfl, rfl⟩, rfl⟩ := hend
  refine ⟨letter, body.takeWhile StartTag.inName ++
    (splitThrough '>' ((letter :: body).dropWhile StartTag.inName)).1, ?_, halpha, ?_, ?_⟩
  · simp [hletter]
  · refine (runsThrough_splitThrough '>' _).prepend ?_
    intro hmem
    exact absurd (List.mem_takeWhile_imp hmem) (by decide)
  · rw [← takeWhile_name_append (letter :: body)]
    simp [hletter]

end Token

/-! ### What is around a stray tag -/

/-- The node is no element of the name around the offset. -/
def Node.LacksAt (offset : Nat) (name : Text) (node : Node) : Prop :=
  ∀ head children, node = .element head children → head.span.Holds offset →
    head.tag.equalsIgnoringCase name = false

theorem Node.lacksAt_text (span : Span) {offset : Nat} {name : Text} :
    (Node.text span).LacksAt offset name := by
  intro head children helement
  cases helement

theorem Node.lacksAt_comment (span : Span) (closed : Bool) {offset : Nat} {name : Text} :
    (Node.comment span closed).LacksAt offset name := by
  intro head children helement
  cases helement

/-- The element has another name, unless it was opened behind the offset. -/
def OpenElement.LacksAt (offset : Nat) (name : Text) (element : OpenElement) : Prop :=
  element.start ≤ offset → element.tag.equalsIgnoringCase name = false

theorem Node.InOrder.every_lacksAt {text : Text} {nodes : List Node} {first last offset : Nat}
    (h : InOrder text first last nodes) (hle : last ≤ offset) (name : Text) :
    Node.Every (Node.LacksAt offset name) nodes := by
  rintro node hmem head children rfl hholds
  have hbounds := h.bounds_of_mem_preorderAll _ hmem
  simp only [Node.span] at hbounds
  have hstop := hholds.2
  omega

namespace Builder

variable {text : Text} {offset : Nat} {name : Text}

/-- When the builder has come to a closing tag that fits no open element, nothing of its name is
around it. -/
theorem ComeTo.every_lacksAt {first here : Nat} {top : List Node} {stack : List OpenElement}
    (h : ComeTo text first top here stack) (hle : here ≤ offset)
    (hany : stack.any (·.tag.equalsIgnoringCase name) = false) :
    Every (Node.LacksAt offset name) (OpenElement.LacksAt offset name) ⟨top, stack⟩ := by
  induction stack generalizing here with
  | nil => exact ⟨Node.InOrder.every_lacksAt h hle name, by simp⟩
  | cons element outer ih =>
    obtain ⟨helement, hchildren, houter⟩ := h
    rw [List.any_cons, Bool.or_eq_false_iff] at hany
    have hlt := helement.lt
    have hinner := hchildren.le
    obtain ⟨htop, hstack⟩ := ih houter (by omega) hany.2
    refine ⟨htop, ?_⟩
    intro other hother
    rcases List.mem_cons.mp hother with rfl | hother
    · exact ⟨fun _ => hany.1, hchildren.every_lacksAt hle name⟩
    · exact hstack other hother

/-- What is opened behind the offset is not around it. -/
theorem every_lacksAt_add {builder : Builder} {start : Nat} (token : Token)
    (hlt : offset < start)
    (h : Every (Node.LacksAt offset name) (OpenElement.LacksAt offset name) builder) :
    Every (Node.LacksAt offset name) (OpenElement.LacksAt offset name)
      (builder.add start token) := by
  have happend : ∀ (element : OpenElement) nodes, element.LacksAt offset name →
      (element.append nodes).LacksAt offset name := fun _ _ => id
  have hlater : ∀ head children, start ≤ head.span.start →
      (Node.element head children).LacksAt offset name := by
    rintro head children hle _ _ ⟨⟩ hholds
    have hstart := hholds.1
    omega
  cases token with
  | text run =>
    rw [Builder.add]
    split
    · exact h
    · exact every_append happend h (.single_text (Node.lacksAt_text _))
  | comment whole closed =>
    exact every_append happend h (.single_comment (Node.lacksAt_comment _ _))
  | endTag whole closing =>
    rw [Builder.add, Builder.close]
    split
    · refine every_closeIn happend ?_ ?_ h .nil
      · rintro element hopened - _ _ ⟨⟩ hholds
        exact hopened hholds.1
      · rintro element hopened _ _ ⟨⟩ hholds
        exact hopened hholds.1
    · exact h
  | raw tag content close =>
    exact every_append happend h
      (every_rawElement (hlater _ _ (Nat.le_refl _)) fun _ => Node.lacksAt_text _)
  | startTag tag =>
    rw [Builder.add]
    split
    · exact every_append happend h (.single_element (hlater _ _ (Nat.le_refl _)) .nil)
    · refine ⟨h.top, ?_⟩
      intro element hmem
      rcases List.mem_cons.mp hmem with rfl | hmem
      · refine ⟨?_, .nil⟩
        intro hle
        simp only at hle
        omega
      · exact h.stack element hmem

theorem every_lacksAt_addAll {builder : Builder} {start : Nat} (tokens : List Token)
    (hlt : offset < start)
    (h : Every (Node.LacksAt offset name) (OpenElement.LacksAt offset name) builder) :
    Every (Node.LacksAt offset name) (OpenElement.LacksAt offset name)
      (builder.addAll start tokens) := by
  induction tokens generalizing builder start with
  | nil => exact h
  | cons token others ih => exact ih (by omega) (every_lacksAt_add token hlt h)

theorem addAll_append (builder : Builder) (start : Nat) (front back : List Token) :
    builder.addAll start (front ++ back) =
      (builder.addAll start front).addAll (start + size (front.flatMap Token.source)) back := by
  induction front generalizing builder start with
  | nil => simp [addAll]
  | cons token others ih => simp [addAll, ih, Nat.add_assoc]

theorem tags_addAll {builder : Builder} {names : List Text} {rendered : List Span} (start : Nat)
    {tokens : List Token} (h : (lineRendering true).Renders rendered names builder)
    (hcomplete : ∀ token ∈ tokens, token.Complete) :
    (builder.addAll start tokens).stack.map OpenElement.tag =
      tokens.foldl Token.openNames names := by
  induction tokens generalizing builder names rendered start with
  | nil => exact h.names
  | cons token others ih =>
    exact ih _ (h.add start (hcomplete token (by simp)))
      fun other hother => hcomplete other (List.mem_cons_of_mem _ hother)

end Builder

/-- Nothing of the name of a passed-over closing tag is around it in the tree. -/
theorem Tree.lacksAt_ofMarkup {before markup whole name : Text} {front back : List Token}
    (hscan : Token.scan markup = front ++ .endTag whole name :: back)
    (hnothing : (Token.endTag whole name).LeavesNothing (front.foldl Token.openNames [])) :
    (Tree.ofMarkup (size before) markup).LacksAt (size (before ++ front.flatMap Token.source))
      name := by
  obtain ⟨c, following, left, -, hread, -⟩ := Token.exists_of_scan_eq_append hscan
  have hempty : Builder.empty.Placed (before ++ markup) (size before) (size before) :=
    Nat.le_refl (size before)
  have hrenders : (lineRendering true).Renders [] [] Builder.empty :=
    ⟨by simp [Rendering.built, Rendering.stack, Builder.empty], rfl, by simp [Builder.empty]⟩
  have hcomplete : ∀ token ∈ front, token.Complete := by
    intro token hmem
    apply Token.complete_of_mem_scan markup
    rw [hscan]
    exact List.mem_append_left _ hmem
  have hany : (Builder.empty.addAll (size before) front).stack.any
      (·.tag.equalsIgnoringCase name) = false := by
    have htags := Builder.tags_addAll (size before) hrenders hcomplete
    rw [← hnothing, ← htags, List.any_map]
    rfl
  have hhere := (hempty.addAll hscan).every_lacksAt (Nat.le_refl _) hany
  have hpos : 0 < size whole := by
    have hne := Token.readNext_source_ne_nil c following
    rw [hread] at hne
    exact size_pos_iff.mpr hne
  have hall : Builder.Every (Node.LacksAt (size (before ++ front.flatMap Token.source)) name)
      (OpenElement.LacksAt (size (before ++ front.flatMap Token.source)) name)
      (Builder.empty.addAll (size before) (Token.scan markup)) := by
    rw [hscan, Builder.addAll_append, Builder.addAll, Builder.add, Builder.close,
      if_neg (by simp [hany]), Token.source, ← size_append]
    exact Builder.every_lacksAt_addAll back (by omega) hhere
  have hnodes : Node.Every (Node.LacksAt (size (before ++ front.flatMap Token.source)) name)
      (Tree.ofMarkup (size before) markup).children := by
    refine Builder.every_finishIn (fun _ _ => id) ?_ hall .nil
    rintro element hopened _ _ ⟨⟩ hholds
    exact hopened hholds.1
  intro element hmem hholds
  rw [Tree.elements, Tree.nodes_eq_preorderAll, List.mem_filterMap] at hmem
  obtain ⟨node, hnode, helement⟩ := hmem
  cases node with
  | text span => cases helement
  | comment span closed => cases helement
  | element head children =>
    cases helement
    exact hnodes _ hnode _ _ rfl hholds

/-- What belongs to the nodes is what the tokens come out as. -/
theorem Tree.own_perm_ofMarkup (texts : Bool) (start : Nat) (markup : Text) :
    ((ofMarkup start markup).nodes.flatMap (Node.own texts)).Perm
      ((lineRendering texts).tokens [] start (Token.scan markup)) := by
  rw [Tree.nodes_eq_preorderAll, ← (lineRendering texts).nodes_ofMarkup]
  exact (Node.lineAll_perm texts _).symm

section PassedOver

variable {before markup : Text} {front back : List Token} {token : Token}

/-- What stands in front of a token that leaves nothing ends in front of it, and what stands behind
it starts behind it. -/
theorem Tree.passes_ofMarkup (hscan : Token.scan markup = front ++ token :: back)
    (hnothing : token.LeavesNothing (front.foldl Token.openNames [])) :
    let here := size (before ++ front.flatMap Token.source)
    (ofMarkup (size before) markup).Passes ⟨here, here + size token.source⟩ := by
  rintro here offset ⟨hle, hlt⟩ part hmem ⟨hpart, hpart'⟩
  have hperm := own_perm_ofMarkup true (size before) markup
  rw [hscan, Token.tokens_append, Rendering.tokens, Token.token_eq_nil hnothing,
    List.nil_append, ← size_append] at hperm
  rcases List.mem_append.mp (hperm.mem_iff.mp hmem) with hfront | hback
  · have hbounds := (Token.tiled_tokens front).inLine.bounds part hfront
    rw [← size_append] at hbounds
    exact absurd (Nat.lt_of_lt_of_le hpart' hbounds.2) (Nat.not_lt.mpr hle)
  · have hbounds := (Token.tiled_tokens back).inLine.bounds part hback
    exact absurd (Nat.le_trans hbounds.1 hpart) (Nat.not_le.mpr hlt)

theorem Tree.strayTag_ofMarkup {whole name : Text}
    (hscan : Token.scan markup = front ++ .endTag whole name :: back)
    (hnothing : (Token.endTag whole name).LeavesNothing (front.foldl Token.openNames [])) :
    let here := before ++ front.flatMap Token.source
    (ofMarkup (size before) markup).StrayTag (before ++ markup)
      ⟨size here, size here + size whole⟩ := by
  obtain ⟨c, following, left, hfollowing, hread, -⟩ := Token.exists_of_scan_eq_append hscan
  obtain ⟨letter, body, rfl, halpha, hthrough, rfl⟩ := Token.exists_of_readNext_eq_endTag hread
  have happend := Token.readNext_append c following
  rw [hread, Token.source] at happend
  refine ⟨before ++ front.flatMap Token.source, letter, body, left, ?_, ?_, halpha, hthrough,
    lacksAt_ofMarkup hscan hnothing, passes_ofMarkup hscan hnothing⟩
  · rw [hfollowing, List.append_assoc _ _ left, happend, List.append_assoc]
  · rw [size_append _ ('<' :: _)]

/-- In front of a blank run stands no other run, so a comment or a tag does, or nothing. -/
theorem Tree.beginsRun_ofMarkup {run : Text}
    (hscan : Token.scan markup = front ++ .text run :: back) (hblank : run.allBlank = true) :
    (ofMarkup (size before) markup).BeginsRun (before ++ markup)
      (size (before ++ front.flatMap Token.source)) := by
  rcases List.eq_nil_or_concat front with rfl | ⟨front, last, rfl⟩
  · exact Or.inl (by simp [ofMarkup])
  rw [List.concat_eq_append, List.append_assoc, List.singleton_append] at hscan
  have hstop : size (before ++ (front.concat last).flatMap Token.source) =
      size (before ++ front.flatMap Token.source) + size last.source := by
    simp [Nat.add_assoc]
  obtain ⟨c, following, left, -, hread, hleft⟩ := Token.exists_of_scan_eq_append hscan
  obtain ⟨d, rest, left', rfl, hread', -⟩ := Token.exists_of_scan_eq_cons hleft
  have htext : ∀ other, last ≠ .text other := by
    rintro other rfl
    have hvisible := Token.allBlank_eq_false_of_readNext hread rfl hread'
    rw [hblank] at hvisible
    cases hvisible
  rw [hstop]
  by_cases hnothing : last.LeavesNothing (front.foldl Token.openNames [])
  · cases last with
    | text other => exact absurd rfl (htext other)
    | endTag whole name => exact Or.inr (Or.inr ⟨_, strayTag_ofMarkup hscan hnothing, rfl⟩)
    | comment whole closed => cases hnothing
    | startTag tag => cases hnothing
    | raw tag content close => cases hnothing
  · obtain ⟨mark, hmark, hmarkStop⟩ :=
      Token.exists_mark (size (before ++ front.flatMap Token.source)) hread
        (List.cons_ne_nil _ _) htext hnothing
    refine Or.inr (Or.inl ⟨mark, ?_, hmarkStop⟩)
    apply (own_perm_ofMarkup false (size before) markup).mem_iff.mpr
    rw [hscan, Token.tokens_append, Rendering.tokens, ← size_append]
    exact List.mem_append_right _ (List.mem_append_left _ hmark)

/-- A token that leaves nothing in the tree is a blank run or a stray closing tag. -/
theorem Tree.passed_ofMarkup (hscan : Token.scan markup = front ++ token :: back)
    (hnothing : token.LeavesNothing (front.foldl Token.openNames [])) :
    let here := before ++ front.flatMap Token.source
    let gap : Span := ⟨size here, size here + size token.source⟩
    (ofMarkup (size before) markup).BlankRun (before ++ markup) gap ∨
      (ofMarkup (size before) markup).StrayTag (before ++ markup) gap := by
  cases token with
  | text run =>
    obtain ⟨c, following, left, hfollowing, hread, -⟩ := Token.exists_of_scan_eq_append hscan
    have happend := Token.readNext_append c following
    rw [hread, Token.source] at happend
    refine Or.inl ⟨before ++ front.flatMap Token.source, run, left, ?_, ?_,
      beginsRun_ofMarkup hscan hnothing, hnothing, Token.head?_left_of_readNext hread,
      passes_ofMarkup hscan hnothing⟩
    · rw [hfollowing, List.append_assoc _ run left, happend, List.append_assoc]
    · rw [size_append _ run, Token.source]
  | endTag whole name => exact Or.inr (strayTag_ofMarkup hscan hnothing)
  | comment whole closed => cases hnothing
  | startTag tag => cases hnothing
  | raw tag content close => cases hnothing

end PassedOver

/-- **No markup is lost or read twice.** -/
theorem Tree.accounts_parse (text : Text) (start : Nat) :
    (Tree.parse text start).Accounts text start := by
  obtain ⟨before, markup, rfl, hsize⟩ := isBoundary_floorBoundary text start
  have hparse : Tree.parse (before ++ markup) start = Tree.ofMarkup (size before) markup := by
    rw [Tree.parse_eq_ofMarkup, ← hsize, dropBytes_append_size]
  have hperm := own_perm_ofMarkup true (size before) markup
  have htiled := @Token.tiled_tokens [] (size before) (Token.scan markup)
  rw [Token.flatMap_source_scan] at htiled
  rw [hparse]
  refine ⟨?_, ?_, ?_⟩
  · rw [← hsize, size_append]
    rfl
  · intro offset
    rw [Tree.owned, hperm.countP_eq]
    exact Span.countP_holds_le_one htiled.inLine.pairwise_disjoint offset
  · rintro offset ⟨hfirst, hlast⟩ hnone
    obtain ⟨gap, ⟨front, token, back, hscan, hnothing, rfl⟩, hholds⟩ :=
      htiled.exists_gap hfirst hlast fun span hmem => hnone span (hperm.mem_iff.mpr hmem)
    refine ⟨_, hholds, ?_⟩
    rw [← size_append]
    exact Tree.passed_ofMarkup hscan hnothing

end Markup

end ComponentServer
