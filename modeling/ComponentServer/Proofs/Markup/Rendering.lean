import ComponentServer.Block
import ComponentServer.Proofs.Markup.Layout

/-!
# Trees are rendered token by token

What a tree is good for goes through it from left to right: the code that is made of it, the blocks
that are taken out of it. The builder completes elements out of order, but the order from left to
right is that of the tokens, so such a rendering of the tree can be had from the tokens alone. All
that has to be remembered between them is which elements are open.
-/

namespace ComponentServer.Markup

open Text

/-- An element that may have children. -/
structure OpenElement.Ordinary (element : OpenElement) : Prop where
  notVoid : isVoidTag element.tag = false
  notRaw : isRawTag element.tag = false

/-- A way to render nodes from left to right. An ordinary element comes out as its opening tag, its
children, and its closing tag or what stands in for a missing one. -/
structure Rendering (α : Type) where
  nodes : List Node → List α
  /-- A tag between two offsets. -/
  tag : Nat → Nat → List α
  /-- The closing tag that an element of the name lacks. -/
  missing : Text → List α
  nodes_append : ∀ front back, nodes (front ++ back) = nodes front ++ nodes back
  nodes_close : ∀ (element : OpenElement) (start stop : Nat), element.Ordinary →
    nodes [element.close start stop] =
      tag element.start element.startTagEnd ++ nodes element.children ++ tag start stop
  nodes_abandon : ∀ (element : OpenElement) (stop : Nat), element.Ordinary →
    nodes [element.abandon stop] =
      tag element.start element.startTagEnd ++ nodes element.children ++ missing element.tag

/-- Nothing can follow in the element of the tag. -/
def StartTag.isLeaf (tag : StartTag) : Bool :=
  !tag.terminated || tag.selfClosing || isVoidTag tag.name

theorem StartTag.ordinary_of_isLeaf_eq_false {tag : StartTag} (hleaf : tag.isLeaf = false)
    (hraw : tag.opensRaw = false) : isVoidTag tag.name = false ∧ isRawTag tag.name = false := by
  simp only [isLeaf, Bool.or_eq_false_iff, Bool.not_eq_false'] at hleaf
  exact ⟨hleaf.2, by simpa [opensRaw, hleaf.1.1, hleaf.1.2] using hraw⟩

namespace Token

/-- The names of the elements that are open behind the token, innermost first. -/
def openNames (names : List Text) : Token → List Text
  | .startTag tag => if tag.isLeaf then names else tag.name :: names
  | .endTag _ name =>
    if names.any (·.equalsIgnoringCase name) then
      (names.dropWhile (!·.equalsIgnoringCase name)).tail
    else names
  | _ => names

/-- The token has the plain content that its tag opens, and only then. -/
def Complete : Token → Prop
  | .startTag tag => tag.text ≠ [] ∧ tag.opensRaw = false
  | .raw tag _ _ => tag.text ≠ [] ∧ tag.opensRaw = true
  | _ => True

end Token

namespace Rendering

variable {α : Type} (rendering : Rendering α)

/-- The token that starts at `start`, with elements of the given names open. -/
def token (names : List Text) (start : Nat) : Token → List α
  | .text run => if run.allBlank then [] else rendering.nodes [.text ⟨start, start + size run⟩]
  | .comment whole closed => rendering.nodes [.comment ⟨start, start + size whole⟩ closed]
  | .raw tag content close => rendering.nodes [Builder.rawElement tag content close start]
  | .startTag tag =>
    if tag.isLeaf then rendering.nodes [Builder.leaf tag start]
    else rendering.tag start (start + size tag.text)
  | .endTag whole name =>
    if names.any (·.equalsIgnoringCase name) then
      (names.takeWhile (!·.equalsIgnoringCase name)).flatMap rendering.missing ++
        rendering.tag start (start + size whole)
    else []

/-- Tokens that follow each other from `start` on, to the end of the input. -/
def tokens (names : List Text) (start : Nat) : List Token → List α
  | [] => names.flatMap rendering.missing
  | token :: others =>
    rendering.token names start token ++
      tokens (token.openNames names) (start + size token.source) others

/-- The open elements of a stack as far as they are there, outermost first. -/
def stack : List OpenElement → List α
  | [] => []
  | element :: outer =>
    stack outer ++ (rendering.tag element.start element.startTagEnd ++
      rendering.nodes element.children)

def built (builder : Builder) : List α :=
  rendering.nodes builder.top ++ rendering.stack builder.stack

variable {rendering} {top nodes : List Node} {opened : List OpenElement} {start stop : Nat}
  {name : Text}

@[simp]
theorem nodes_nil : rendering.nodes [] = [] := by
  have happend := rendering.nodes_append [] []
  simpa using happend

theorem built_append :
    rendering.built (Builder.append ⟨top, opened⟩ nodes) =
      rendering.built ⟨top, opened⟩ ++ rendering.nodes nodes := by
  cases opened with
  | nil => simp [Builder.append, built, stack, rendering.nodes_append]
  | cons element outer =>
    simp [Builder.append, OpenElement.append, built, stack, rendering.nodes_append]

theorem nodes_close_append {element : OpenElement} (h : element.Ordinary) :
    rendering.nodes [(element.append nodes).close start stop] =
      rendering.tag element.start element.startTagEnd ++ rendering.nodes element.children ++
        rendering.nodes nodes ++ rendering.tag start stop := by
  rw [rendering.nodes_close (element.append nodes) start stop ⟨h.notVoid, h.notRaw⟩]
  simp [OpenElement.append, rendering.nodes_append]

theorem nodes_abandon_append {element : OpenElement} (h : element.Ordinary) :
    rendering.nodes [(element.append nodes).abandon stop] =
      rendering.tag element.start element.startTagEnd ++ rendering.nodes element.children ++
        rendering.nodes nodes ++ rendering.missing element.tag := by
  rw [rendering.nodes_abandon (element.append nodes) stop ⟨h.notVoid, h.notRaw⟩]
  simp [OpenElement.append, rendering.nodes_append]

/-- A closing tag comes out behind what the elements inside its own are missing. -/
theorem built_closeIn (hordinary : ∀ element ∈ opened, element.Ordinary)
    (hany : opened.any (·.tag.equalsIgnoringCase name) = true) :
    rendering.built (Builder.closeIn name start stop top nodes opened) =
      rendering.built ⟨top, opened⟩ ++ rendering.nodes nodes ++
        ((opened.map OpenElement.tag).takeWhile (!·.equalsIgnoringCase name)).flatMap
          rendering.missing ++ rendering.tag start stop := by
  induction opened generalizing nodes with
  | nil => simp at hany
  | cons element outer ih =>
    have helement := hordinary element (by simp)
    rw [Builder.closeIn]
    split
    next hname =>
      rw [built_append, nodes_close_append helement]
      simp [built, stack, hname]
    next hname =>
      rw [ih (fun other hother => hordinary other (List.mem_cons_of_mem _ hother))
        (by simpa [hname] using hany), nodes_abandon_append helement]
      simp [built, stack, hname]

theorem tags_closeIn (hany : opened.any (·.tag.equalsIgnoringCase name) = true) :
    (Builder.closeIn name start stop top nodes opened).stack.map OpenElement.tag =
      ((opened.map OpenElement.tag).dropWhile (!·.equalsIgnoringCase name)).tail := by
  induction opened generalizing nodes with
  | nil => simp at hany
  | cons element outer ih =>
    rw [Builder.closeIn]
    split
    next hname =>
      cases outer with
      | nil => simp [Builder.append, hname]
      | cons next outer => simp [Builder.append, OpenElement.append, hname]
    next hname =>
      rw [ih (by simpa [hname] using hany)]
      simp [hname]

theorem nodes_finishIn (hordinary : ∀ element ∈ opened, element.Ordinary) :
    rendering.nodes (Builder.finishIn stop top nodes opened) =
      rendering.built ⟨top, opened⟩ ++ rendering.nodes nodes ++
        (opened.map OpenElement.tag).flatMap rendering.missing := by
  induction opened generalizing nodes with
  | nil => simp [Builder.finishIn, built, stack, rendering.nodes_append]
  | cons element outer ih =>
    rw [Builder.finishIn, ih fun other hother => hordinary other (List.mem_cons_of_mem _ hother),
      nodes_abandon_append (hordinary element (by simp))]
    simp [built, stack]

/-! ### The run of the builder -/

theorem ordinary_append (hordinary : ∀ element ∈ opened, element.Ordinary) :
    ∀ element ∈ (Builder.append ⟨top, opened⟩ nodes).stack, element.Ordinary := by
  cases opened with
  | nil => exact hordinary
  | cons element outer =>
    intro other hother
    rcases List.mem_cons.mp hother with rfl | hother
    · have helement := hordinary element (by simp)
      exact ⟨helement.notVoid, helement.notRaw⟩
    · exact hordinary other (List.mem_cons_of_mem _ hother)

theorem ordinary_closeIn (hordinary : ∀ element ∈ opened, element.Ordinary) :
    ∀ element ∈ (Builder.closeIn name start stop top nodes opened).stack, element.Ordinary := by
  induction opened generalizing nodes with
  | nil => simp [Builder.closeIn]
  | cons element outer ih =>
    have houter : ∀ other ∈ outer, other.Ordinary := fun other hother =>
      hordinary other (List.mem_cons_of_mem _ hother)
    rw [Builder.closeIn]
    split
    · exact ordinary_append houter
    · exact ih houter

/-- The builder has come out as `rendered`, and elements of the given names are open in it. -/
structure Renders (rendering : Rendering α) (rendered : List α) (names : List Text)
    (builder : Builder) : Prop where
  built : rendering.built builder = rendered
  names : builder.stack.map OpenElement.tag = names
  ordinary : ∀ element ∈ builder.stack, element.Ordinary

variable {rendered : List α} {names : List Text} {builder : Builder}

theorem Renders.append (h : rendering.Renders rendered names builder) (nodes : List Node) :
    rendering.Renders (rendered ++ rendering.nodes nodes) names (builder.append nodes) := by
  obtain ⟨top, opened⟩ := builder
  refine ⟨by rw [built_append, h.built], ?_, ordinary_append h.ordinary⟩
  rw [← h.names]
  cases opened <;> rfl

/-- One token comes out behind what is there. -/
theorem Renders.add (h : rendering.Renders rendered names builder) (start : Nat) {token : Token}
    (hcomplete : token.Complete) :
    rendering.Renders (rendered ++ rendering.token names start token) (token.openNames names)
      (builder.add start token) := by
  cases token with
  | text run =>
    rw [Builder.add, Rendering.token]
    split
    · simpa [Token.openNames] using h
    · exact h.append _
  | comment whole closed => exact h.append _
  | raw tag content close => exact h.append _
  | startTag tag =>
    have hleaf : (!tag.terminated || tag.selfClosing || isVoidTag tag.name) = tag.isLeaf := rfl
    rw [Builder.add, Rendering.token, Token.openNames, hleaf]
    split
    · exact h.append _
    next hopen =>
      refine ⟨?_, by simp [Builder.push, h.names], ?_⟩
      · rw [← h.built]
        simp [Rendering.built, Builder.push, stack]
      · intro element hmem
        rcases List.mem_cons.mp hmem with rfl | hmem
        · obtain ⟨hvoid, hraw⟩ := StartTag.ordinary_of_isLeaf_eq_false
            (Bool.eq_false_of_not_eq_true hopen) hcomplete.2
          exact ⟨hvoid, hraw⟩
        · exact h.ordinary element hmem
  | endTag whole name =>
    have hnames : builder.stack.any (·.tag.equalsIgnoringCase name) =
        names.any (·.equalsIgnoringCase name) := by
      rw [← h.names, List.any_map]
      rfl
    rw [Builder.add, Builder.close, Rendering.token, Token.openNames, hnames]
    split
    next hany =>
      rw [← hnames] at hany
      refine ⟨?_, by rw [tags_closeIn hany, h.names], ordinary_closeIn h.ordinary⟩
      rw [built_closeIn h.ordinary hany, h.names, h.built]
      simp
    next => simpa using h

theorem nodes_finish_addAll (h : rendering.Renders rendered names builder) (start stop : Nat)
    {tokens : List Token} (hcomplete : ∀ token ∈ tokens, token.Complete) :
    rendering.nodes ((builder.addAll start tokens).finish stop) =
      rendered ++ rendering.tokens names start tokens := by
  induction tokens generalizing builder rendered names start with
  | nil =>
    rw [Builder.addAll, Builder.finish, nodes_finishIn h.ordinary, h.names, h.built]
    simp [Rendering.tokens]
  | cons token others ih =>
    rw [Builder.addAll, ih (h.add start (hcomplete token (by simp))) _
      fun other hother => hcomplete other (List.mem_cons_of_mem _ hother)]
    simp [Rendering.tokens]

end Rendering

theorem Token.complete_of_mem_scan (markup : Text) :
    ∀ token ∈ Token.scan markup, token.Complete := by
  fun_induction Token.scan markup with
  | case1 => simp
  | case2 c rest next ih =>
    intro token hmem
    rcases List.mem_cons.mp hmem with rfl | hmem
    · have hread := Token.wellRead_readNext c rest
      have hsource := Token.readNext_source_ne_nil c rest
      cases htoken : (Token.readNext c rest).1 with
      | startTag tag =>
        rw [htoken] at hread hsource
        exact ⟨hsource, hread.1⟩
      | raw tag content close =>
        rw [htoken] at hread
        exact ⟨hread.2.1, hread.1⟩
      | text run => trivial
      | comment whole closed => trivial
      | endTag whole name => trivial
    · exact ih token hmem

/-- A tree comes out as its tokens do. -/
theorem Rendering.nodes_ofMarkup {α : Type} (rendering : Rendering α) (start : Nat) (markup : Text) :
    rendering.nodes (Tree.ofMarkup start markup).children =
      rendering.tokens [] start (Token.scan markup) := by
  have hempty : rendering.Renders [] [] Builder.empty :=
    ⟨by simp [built, stack, Builder.empty], rfl, by simp [Builder.empty]⟩
  exact nodes_finish_addAll hempty start _ (Token.complete_of_mem_scan markup)

end ComponentServer.Markup
