import ComponentServer.Proofs.Block
import ComponentServer.Proofs.Frontmatter
import ComponentServer.Proofs.Text.Cut
import ComponentServer.Tsx.Compile

/-!
# The code follows the tokens

Offsets tell the compiler where a piece of the document stands, but the code says nothing about them.
That of the markup can be written down token by token, from the texts of the tokens and the names of
the elements that are open; the content of a script or style is not among these texts. In front of it
stand the frontmatter, which its fences cut off from all that follows, and the inline scripts.
-/

namespace ComponentServer

open Text Markup

/-! ### One token -/

namespace Markup.Token

/-- The closing tag that an element of the name lacks. -/
def madeClosing (name : Text) : Text := "</".toList ++ name ++ ['>']

/-- The code of a token, with elements of the given names open. -/
def code (names : List Text) : Token → Text
  | .text run => if run.allBlank then [] else run
  | .comment whole _ =>
    "\x7b/*".toList ++ Tsx.Piece.guardComment whole ++ "*/\x7d".toList
  | .startTag tag =>
    if !tag.terminated then tag.text ++ " />".toList
    else if tag.selfClosing then tag.text
    else if isVoidTag tag.name then Tsx.Piece.dropBracket tag.text ++ "/>".toList
    else tag.text
  | .endTag whole name =>
    if names.any (·.equalsIgnoringCase name) then
      (names.takeWhile (!·.equalsIgnoringCase name)).flatMap madeClosing ++ whole
    else []
  | .raw tag _ close => tag.text ++ close.getD (madeClosing tag.name)

/-- The code of tokens up to the end of the input, where all open elements are closed. -/
def codeAll (names : List Text) : List Token → Text
  | [] => names.flatMap madeClosing
  | token :: others => token.code names ++ codeAll (token.openNames names) others

/-- Plain content leaves no trace in the code. -/
theorem codeAll_exchange (names : List Text) (before after : List Token) (tag : StartTag)
    (content other : Text) (close : Option Text) :
    codeAll names (before ++ .raw tag content close :: after) =
      codeAll names (before ++ .raw tag other close :: after) := by
  induction before generalizing names with
  | nil => rfl
  | cons token before ih => rw [List.cons_append, List.cons_append, codeAll, codeAll, ih]

end Markup.Token

namespace Tsx.Piece

theorem ofNodes_append (source : Text) (front back : List Node) :
    ofNodes source (front ++ back) = ofNodes source front ++ ofNodes source back := by
  induction front with
  | nil => rfl
  | cons node others ih => rw [List.cons_append, ofNodes, ofNodes, ih, List.append_assoc]

@[simp]
theorem code_append (front back : List Piece) : code (front ++ back) = code front ++ code back := by
  simp [code]

/-- The code of nodes goes from left to right. -/
def rendering (source : Text) : Rendering Char where
  nodes nodes := code (ofNodes source nodes)
  tag start stop := source.slice ⟨start, stop⟩
  missing := Token.madeClosing
  nodes_append front back := by rw [ofNodes_append, code_append]
  nodes_close element start stop h := by
    simp [ofNodes, ofNode, OpenElement.close, Element.isVoid, Element.isRaw, h.notVoid, h.notRaw,
      code, copy, text]
  nodes_abandon element stop h := by
    simp [ofNodes, ofNode, OpenElement.abandon, Element.isVoid, Element.isRaw, h.notVoid, h.notRaw,
      code, text, Token.madeClosing]

variable {source : Text} {start : Nat} {tag : StartTag} {content : Text} {close : Option Text}

theorem nodes_leaf (hstands : StandsAt source start tag.text) (hleaf : tag.isLeaf = true)
    (names : List Text) :
    (rendering source).nodes [Builder.leaf tag start] = (Token.startTag tag).code names := by
  have hslice := hstands.slice_eq
  cases hterminated : tag.terminated with
  | false =>
    simp [rendering, Builder.leaf, ofNodes, ofNode, Piece.code, copy, text, Token.code, hterminated,
      hslice]
  | true =>
    cases hself : tag.selfClosing with
    | true =>
      simp [rendering, Builder.leaf, ofNodes, ofNode, Piece.code, text, Token.code, hterminated,
        hself, hslice]
    | false =>
      have hvoid : isVoidTag tag.name = true := by
        simpa [StartTag.isLeaf, hterminated, hself] using hleaf
      simp [rendering, Builder.leaf, ofNodes, ofNode, Piece.code, text, Token.code, Element.isVoid,
        hterminated, hself, hvoid, hslice]

theorem nodes_rawElement (hraw : isRawTag tag.name = true)
    (hstands : StandsAt source start (tag.text ++ content ++ close.getD [])) (names : List Text) :
    (rendering source).nodes [Builder.rawElement tag content close start] =
      (Token.raw tag content close).code names := by
  have hopening := hstands.left.left.slice_eq
  have hclosing := hstands.right.slice_eq
  rw [size_append, ← Nat.add_assoc] at hclosing
  have hvoid := isVoidTag_eq_false_of_isRawTag hraw
  cases close with
  | none =>
    simp [rendering, Builder.rawElement, ofNodes, ofNode, Piece.code, text, Token.code,
      Token.madeClosing, Element.isVoid, Element.isRaw, hvoid, hraw, hopening]
  | some closing =>
    simp only [Option.getD_some] at hclosing
    simp [rendering, Builder.rawElement, ofNodes, ofNode, Piece.code, copy, text, Token.code,
      Element.isVoid, Element.isRaw, hvoid, hraw, hopening, hclosing]

/-! ### A whole text -/

theorem rendering_token {names : List Text} {token : Markup.Token} (hcomplete : token.Complete)
    (hstands : StandsAt source start token.source) :
    (rendering source).token names start token = token.code names := by
  have hslice := hstands.slice_eq
  cases token with
  | text run =>
    rw [Token.source] at hslice
    simp [Rendering.token, Token.code, rendering, ofNodes, ofNode, Piece.code, copy, text, hslice]
  | comment whole closed =>
    rw [Token.source] at hslice
    simp [Rendering.token, Token.code, rendering, ofNodes, ofNode, Piece.code, text, hslice]
  | endTag whole name =>
    rw [Token.source] at hslice
    simp [Rendering.token, Token.code, rendering, hslice]
  | raw tag content close =>
    have hraw : isRawTag tag.name = true := by
      have hopens := hcomplete.2
      simp only [StartTag.opensRaw, Bool.and_eq_true] at hopens
      exact hopens.1.1
    exact nodes_rawElement hraw hstands names
  | startTag tag =>
    rw [Token.source] at hslice
    rw [Rendering.token]
    split
    next hleaf => exact nodes_leaf hstands hleaf names
    next hopen =>
      simp only [StartTag.isLeaf, Bool.or_eq_true, not_or, Bool.not_eq_true, Bool.not_eq_false']
        at hopen
      simp [Token.code, rendering, hopen, hslice]

theorem rendering_tokens {names : List Text} {before : Text} {tokens : List Markup.Token}
    (hcomplete : ∀ token ∈ tokens, token.Complete) :
    (rendering (before ++ tokens.flatMap Token.source)).tokens names (size before) tokens =
      Token.codeAll names tokens := by
  induction tokens generalizing names before with
  | nil => rfl
  | cons token others ih =>
    have hothers := @ih (token.openNames names) (before ++ token.source)
      fun other hother => hcomplete other (List.mem_cons_of_mem _ hother)
    rw [size_append, List.append_assoc, ← List.flatMap_cons] at hothers
    rw [Rendering.tokens, Token.codeAll, hothers, rendering_token (hcomplete token (by simp))]
    exact ⟨before, others.flatMap Token.source, by simp, rfl⟩

/-- The code of a parsed text is that of its tokens. -/
theorem code_ofMarkup (before markup : Text) :
    code (ofNodes (before ++ markup) (Tree.ofMarkup (size before) markup).children) =
      Token.codeAll [] (Token.scan markup) := by
  have htokens := @rendering_tokens [] before _ (Token.complete_of_mem_scan markup)
  rw [Token.flatMap_source_scan] at htokens
  rw [← htokens]
  exact (rendering (before ++ markup)).nodes_ofMarkup (size before) markup

end Tsx.Piece

/-! ### Documents with a closed frontmatter -/

namespace Frontmatter

/-- Code between two fences, with the fences. -/
def fenced (before body : Text) : Text := before ++ Fence.mark ++ body ++ Fence.mark

/-- Two fences hide what follows them from the scan. -/
theorem exists_of_isClosed {text : Text} (h : (scan text).isClosed = true) :
    ∃ before body markup, text = fenced before body ++ markup ∧
      ∀ other, scan (fenced before body ++ other) =
        .closed (Fence.after before) (Fence.after (before ++ Fence.mark ++ body)) := by
  unfold scan at h
  split at h
  · cases h
  next before rest hfirst =>
    simp only at h
    split at h
    · cases h
    next body following hsecond =>
      have htext : text = fenced before body ++ following.drop Fence.mark.length := by
        have hrest := append_of_cut? hfirst
        rw [append_of_cut? hsecond] at hrest
        simpa [fenced] using hrest
      refine ⟨before, body, _, htext, fun other => ?_⟩
      have hfront : fenced before body ++ other =
          before ++ (Fence.mark ++ (body ++ (Fence.mark ++ other))) := by
        simp [fenced]
      rw [hfront, scan, cut?_append hfirst]
      simp only [List.drop_left, cut?_append hsecond]

end Frontmatter

namespace Tsx.Parts

open Frontmatter (fenced)

variable {before body : Text}

theorem of_fenced {markup : Text} (h : Frontmatter.scan (fenced before body ++ markup) =
      .closed (Fence.after before) (Fence.after (before ++ Fence.mark ++ body))) :
    of (fenced before body ++ markup) =
      ⟨.closed (Fence.after before) (Fence.after (before ++ Fence.mark ++ body)),
        Tree.ofMarkup (size (fenced before body)) markup,
        Token.blocks (size (fenced before body)) (Token.scan markup)⟩ := by
  have hboundary : IsBoundary (fenced before body ++ markup) (size (fenced before body)) :=
    ⟨_, markup, rfl, rfl⟩
  have hparse : Tree.parse (fenced before body ++ markup) (size (fenced before body)) =
      Tree.ofMarkup (size (fenced before body)) markup := by
    rw [Tree.parse_eq_ofMarkup, floorBoundary_of_isBoundary hboundary, dropBytes_append_size]
  have hstart : (Frontmatter.scan (fenced before body ++ markup)).markupStart
      (size (fenced before body ++ markup)) = size (fenced before body) := by
    rw [h]
    rfl
  rw [of, hstart, Block.extract_parse, hparse, h, Block.extractSlices_ofMarkup]

def scriptCode (inlineAttributes : List Text) (block : Block) : Text :=
  if block.isInlineScript inlineAttributes then block.content ++ ['\n'] else []

theorem code_scriptPieces (parts : Parts) (inlineAttributes : List Text) :
    Piece.code (parts.scriptPieces inlineAttributes) =
      parts.blocks.flatMap (scriptCode inlineAttributes) := by
  rw [scriptPieces]
  induction parts.blocks with
  | nil => rfl
  | cons block others ih =>
    rw [List.flatMap_cons, ← ih, List.filter_cons, scriptCode]
    split
    · simp [Piece.code, Piece.text]
    · simp

theorem code_compile_fenced {markup : Text} (fileName : Text) (inlineAttributes : List Text)
    (h : Frontmatter.scan (fenced before body ++ markup) =
      .closed (Fence.after before) (Fence.after (before ++ Fence.mark ++ body))) :
    (compile inlineAttributes (fenced before body ++ markup) fileName).code =
      body ++ ['\n'] ++ (Token.blocks (size (fenced before body)) (Token.scan markup)).flatMap
        (scriptCode inlineAttributes) ++ opening fileName ++ Token.codeAll [] (Token.scan markup) ++
        ending := by
  have hstands : StandsAt (fenced before body ++ markup) (size (before ++ Fence.mark)) body :=
    ⟨before ++ Fence.mark, Fence.mark ++ markup, by simp [fenced], rfl⟩
  have hbody : Piece.code ((of (fenced before body ++ markup)).frontmatterPieces
      (fenced before body ++ markup)) = body ++ ['\n'] := by
    have hslice := hstands.slice_eq
    rw [← size_append] at hslice
    rw [of_fenced h, frontmatterPieces]
    simp only [Frontmatter.body?, Fence.after, Piece.code, Piece.copy, Piece.text,
      List.flatMap_cons, List.flatMap_nil, List.append_nil, hslice]
  have hmarkup := Piece.code_ofMarkup (fenced before body) markup
  simp only [compile, pieces, Piece.code_append, hbody, code_scriptPieces]
  rw [of_fenced h, hmarkup]
  simp [Piece.code, Piece.text]

end Tsx.Parts

end ComponentServer
