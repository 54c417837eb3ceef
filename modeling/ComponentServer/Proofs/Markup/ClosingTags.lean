import ComponentServer.Proofs.Markup.Ancestry
import ComponentServer.Proofs.Markup.Tiling

/-!
# Which closing tag closes an element

Closing tags are found in two ways. An open element is closed by a tag of its name, compared as a
whole. Plain content ends at the first `</` that is followed by the element's name, whatever comes
next, so that a style can be closed by `</styles>`. In either way the element ends where the closing
tag that stands there ends, and the name in that tag starts with the name of the element; it is
another name just if the element is a script or a style and the name goes on.
-/

namespace ComponentServer.Markup

open Text

variable {text : Text}

/-- A closing tag stands in the text at the offset: behind `</` the parser reads the name and goes on
through the next `>`. -/
def EndTagAt (text : Text) (offset : Nat) (whole name : Text) : Prop :=
  ∃ before body rest, text = before ++ '<' :: '/' :: body ∧ size before = offset ∧
    Token.readEndTag body = (.endTag whole name, rest)

theorem EndTagAt.standsAt {offset : Nat} {whole name : Text} (h : EndTagAt text offset whole name) :
    StandsAt text offset whole := by
  obtain ⟨before, body, rest, rfl, rfl, hread⟩ := h
  have happend := Token.readEndTag_append body
  rw [hread] at happend
  refine ⟨before, rest, ?_, rfl⟩
  rw [List.append_assoc, show whole ++ rest = ['<', '/'] ++ body from happend]
  rfl

/-- The name in a closing tag starts with the name of the element that it closes. The two names are the
same unless the element has plain content and the name in the tag is longer. -/
structure Element.ClosesWith (element : Element) (name : Text) : Prop where
  starts : startsIgnoringCase element.tag name = true
  same_iff : element.tag.equalsIgnoringCase name = true ↔
    ¬ (element.isRaw = true ∧ element.tag.length < name.length)

/-- How the elements of a tree are closed, in the text and in the code that is made of it. -/
structure Tree.ClosingTags (text : Text) (tree : Tree) : Prop where
  /-- A closing tag that was found is copied. -/
  found : ∀ head children outer, tree.Has (.element head children) →
    head.endTagStart = some outer →
    ∃ whole name, EndTagAt text outer whole name ∧ head.span.stop = outer + size whole ∧
      head.ClosesWith name ∧
      (Tsx.Piece.ofNode text (.element head children)).getLast? = some (.copied outer whole)
  /-- An element that takes content and was not closed is closed by a tag of its own name. -/
  missing : ∀ head children, tree.Has (.element head children) → head.endTagStart = none →
    head.startTagEnd ≠ none → head.selfClosing = false → head.isVoid = false →
    (Tsx.Piece.ofNode text (.element head children)).getLast? =
      some (.made (['<', '/'] ++ head.tag ++ ['>']))

/-! ### Names -/

theorem startsIgnoringCase_of_equals {needle name : Text}
    (h : needle.equalsIgnoringCase name = true) : startsIgnoringCase needle name = true :=
  startsIgnoringCase_iff.mpr ⟨name, [], by simp, (equalsIgnoringCase_iff.mp h).symm⟩

theorem length_eq_of_lower_eq {left right : Text} (h : lower left = lower right) :
    left.length = right.length := by
  have hlength := congrArg List.length h
  rwa [lower, lower, List.length_map, List.length_map] at hlength

/-- A name that starts with another is the same just if it does not go on. -/
theorem equalsIgnoringCase_iff_of_starts {needle name : Text}
    (h : startsIgnoringCase needle name = true) :
    needle.equalsIgnoringCase name = true ↔ ¬ needle.length < name.length := by
  obtain ⟨part, following, rfl, hpart⟩ := startsIgnoringCase_iff.mp h
  have hlength := length_eq_of_lower_eq hpart
  rw [equalsIgnoringCase_iff, List.length_append]
  constructor
  · intro hsame
    have hwhole := length_eq_of_lower_eq hsame
    rw [List.length_append] at hwhole
    omega
  · intro hshort
    have hnil : following = [] := List.eq_nil_of_length_eq_zero (by omega)
    rw [hnil, List.append_nil, hpart]

theorem StartTag.inName_toLower (c : Char) : inName c.toLower = inName c := by
  by_cases halpha : c.isAlpha = true
  · rw [inName_of_isAlpha halpha, inName_of_isAlpha (by rwa [Char.isAlpha_toLower_eq_isAlpha])]
  · rw [(toLower_eq_iff (Bool.eq_false_of_not_eq_true halpha)).mpr rfl]

theorem StartTag.inName_of_lower_eq {name written : Text} (h : lower written = lower name)
    (hname : ∀ c ∈ name, inName c = true) : ∀ c ∈ written, inName c = true := by
  intro c hc
  have hmem : c.toLower ∈ lower name := by
    rw [← h]
    exact List.mem_map_of_mem hc
  obtain ⟨d, hd, hlower⟩ := List.mem_map.mp hmem
  calc inName c = inName c.toLower := (inName_toLower c).symm
    _ = inName d.toLower := by rw [hlower]
    _ = inName d := inName_toLower d
    _ = true := hname d hd

/-! ### Closing tags of open elements -/

theorem Token.ReadAt.endTagAt {start : Nat} {whole name : Text}
    (h : (Token.endTag whole name).ReadAt text start) : EndTagAt text start whole name := by
  obtain ⟨before, c, rest, htext, hsize, htoken⟩ := h
  have hread : readNext c rest = (.endTag whole name, (readNext c rest).2) :=
    Prod.ext htoken.symm rfl
  obtain ⟨letter, body, rfl, rfl, -, hend⟩ := exists_readEndTag_of_readNext hread
  exact ⟨before, letter :: body, _, htext, hsize, hend⟩

/-! ### Closing tags of plain content -/

theorem splitThrough_fst_append {mark : Char} {front : Text} (h : mark ∉ front) (following : Text) :
    (splitThrough mark (front ++ following)).1 = front ++ (splitThrough mark following).1 := by
  have happend := splitThrough_append mark (front ++ following)
  rw [Token.splitThrough_append_of_not_mem h] at happend
  refine List.append_cancel_right (happend.trans ?_)
  rw [List.append_assoc, splitThrough_append]

/-- What plain content ends at is read as a closing tag whose name starts with that of the element. -/
theorem Token.readEndTag_of_starts {tag rest : Text}
    (htag : ∀ c ∈ tag, StartTag.inName c = true)
    (h : startsIgnoringCase (['<', '/'] ++ tag) rest = true) :
    ∃ body name, rest = '<' :: '/' :: body ∧ startsIgnoringCase tag name = true ∧
      readEndTag body = (.endTag (splitThrough '>' rest).1 name, (splitThrough '>' rest).2) := by
  obtain ⟨part, following, rfl, hpart⟩ := startsIgnoringCase_iff.mp h
  obtain ⟨opening, written, rfl, hopening, hwritten⟩ :
      ∃ opening written, part = opening ++ written ∧ lower opening = ['<', '/'] ∧
        lower written = lower tag := by
    rw [lower, lower, List.map_append] at hpart
    obtain ⟨opening, written, rfl, hopening, hwritten⟩ := List.map_eq_append_iff.mp hpart
    exact ⟨opening, written, rfl, hopening, hwritten⟩
  obtain rfl : opening = ['<', '/'] := by
    obtain ⟨c, rest, rfl, hc, hrest⟩ := List.map_eq_cons_iff.mp hopening
    obtain ⟨d, rest', rfl, hd, hrest'⟩ := List.map_eq_cons_iff.mp hrest
    rw [List.map_eq_nil_iff] at hrest'
    rw [(toLower_eq_iff (by decide)).mp hc, (toLower_eq_iff (by decide)).mp hd, hrest']
  have hname := StartTag.inName_of_lower_eq hwritten htag
  have hbracket : ∀ name : Text, (∀ c ∈ name, StartTag.inName c = true) → '>' ∉ name :=
    fun name hall hmem => absurd (hall '>' hmem) (by decide)
  have hlonger : '>' ∉ ['<', '/'] ++ (written ++ following.takeWhile StartTag.inName) := by
    simp only [List.mem_append, not_or]
    exact ⟨by decide, hbracket _ hname, hbracket _ fun c hc => List.mem_takeWhile_imp hc⟩
  have hsplit : ['<', '/'] ++ written ++ following =
      ['<', '/'] ++ (written ++ following.takeWhile StartTag.inName) ++
        following.dropWhile StartTag.inName := by
    simp [List.takeWhile_append_dropWhile]
  refine ⟨written ++ following, written ++ following.takeWhile StartTag.inName, rfl, ?_, ?_⟩
  · exact startsIgnoringCase_iff.mpr ⟨written, _, rfl, hwritten⟩
  · rw [readEndTag, List.takeWhile_append_of_pos hname, List.dropWhile_append_of_pos hname, hsplit,
      splitThrough_fst_append hlonger, splitThrough_append_of_not_mem hlonger]

theorem Token.ReadAt.endTagAt_raw {start : Nat} {tag : StartTag} {content whole : Text}
    (h : (Token.raw tag content (some whole)).ReadAt text start) :
    isRawTag tag.name = true ∧ ∃ name, startsIgnoringCase tag.name name = true ∧
      EndTagAt text (start + size tag.text + size content) whole name := by
  obtain ⟨before, c, following, rfl, rfl, htoken⟩ := h
  have hread : readNext c following = (.raw tag content (some whole), (readNext c following).2) :=
    Prod.ext htoken.symm rfl
  obtain ⟨rfl, rfl, hraw, hreadRaw, -⟩ := exists_of_readNext_eq_raw hread
  have hopening := StartTag.text_append_rest following
  simp only [StartTag.opensRaw, Bool.and_eq_true] at hraw
  refine ⟨hraw.1.1, ?_⟩
  unfold readRaw at hreadRaw
  split at hreadRaw
  next content' rest hcut =>
    simp only [Prod.mk.injEq, Token.raw.injEq, true_and, Option.some.injEq] at hreadRaw
    obtain ⟨⟨rfl, rfl⟩, -⟩ := hreadRaw
    have hname : ∀ c ∈ (StartTag.read following).1.name, StartTag.inName c = true :=
      fun c hc => List.mem_takeWhile_imp hc
    obtain ⟨body, name, hrest, hstarts, hend⟩ :=
      readEndTag_of_starts hname (test_of_cutWhere? hcut)
    refine ⟨name, hstarts, before ++ (StartTag.read following).1.text ++ content', body, _, ?_, ?_,
      hend⟩
    · rw [← hopening, ← cutWhere?_append hcut, hrest]
      simp
    · simp only [size_append]
  next => cases congrArg (fun read => read.1) hreadRaw

/-! ### Elements -/

/-- The closing tag of an element, seen from the tokens that the element was made of. -/
theorem Node.Origin.exists_endTagAt {head : Element} {children : List Node} {outer : Nat}
    (h : (Node.element head children).Origin text) (houter : head.endTagStart = some outer) :
    ∃ whole name, EndTagAt text outer whole name ∧ head.span.stop = outer + size whole ∧
      head.ClosesWith name := by
  cases h with
  | leaf hread => cases houter
  | abandoned stop hopened => cases houter
  | @closed element start whole name hopened hread hname =>
    cases houter
    refine ⟨whole, name, hread.endTagAt, rfl, startsIgnoringCase_of_equals hname, ?_⟩
    have hlength := length_eq_of_lower_eq (equalsIgnoringCase_iff.mp hname)
    simp only [hname, true_iff, not_and]
    omega
  | @raw start tag content close hread =>
    obtain ⟨whole, rfl, rfl⟩ := Option.map_eq_some_iff.mp houter
    obtain ⟨hraw, name, hstarts, hend⟩ := hread.endTagAt_raw
    refine ⟨whole, name, hend, rfl, hstarts, ?_⟩
    rw [equalsIgnoringCase_iff_of_starts hstarts]
    simp only [Element.isRaw, hraw, true_and]

/-- The code of an element that takes content ends with its closing tag, found or made. -/
theorem Element.getLast?_ofNode {head : Element} {inner : Nat} (hinner : head.startTagEnd = some inner)
    (hself : head.selfClosing = false) (hvoid : head.isVoid = false) (children : List Node) :
    (Tsx.Piece.ofNode text (.element head children)).getLast? =
      some (match head.endTagStart with
        | some outer =>
          if head.closed then Tsx.Piece.copy text ⟨outer, head.span.stop⟩
          else .made (['<', '/'] ++ head.tag ++ ['>'])
        | none => .made (['<', '/'] ++ head.tag ++ ['>'])) := by
  simp only [Tsx.Piece.ofNode, hinner, hself, hvoid, Bool.false_eq_true, if_false]
  exact List.getLast?_concat

/-- Only an element that takes content can have a closing tag. -/
theorem Element.Placed.takesContent_of_endTagStart {head : Element} (h : head.Placed text) {outer : Nat}
    (houter : head.endTagStart = some outer) :
    head.closed = true ∧ head.selfClosing = false ∧ head.isVoid = false ∧
      ∃ inner, head.startTagEnd = some inner := by
  obtain ⟨hlt, -, hclosed, inner, hinner, hle⟩ := h.closing outer houter
  have hcontent : ¬ (head.selfClosing = true ∨ head.isVoid = true) := by
    intro hbare
    have hstop := h.bare hbare inner hinner
    omega
  simp only [not_or, Bool.not_eq_true] at hcontent
  exact ⟨hclosed, hcontent.1, hcontent.2, inner, hinner⟩

/-- **Closing tags belong to their elements, but for plain content that is followed by a longer
name.** -/
theorem Tree.closingTags_parse (text : Text) (start : Nat) :
    (Tree.parse text start).ClosingTags text where
  found := by
    intro head children outer hhas houter
    have horigin := Tree.origin_of_mem_nodes (Tree.mem_nodes_iff.mpr hhas)
    obtain ⟨whole, name, hend, hstop, hcloses⟩ := horigin.exists_endTagAt houter
    refine ⟨whole, name, hend, hstop, hcloses, ?_⟩
    obtain ⟨hclosed, hself, hvoid, inner, hinner⟩ :=
      (Tree.placed_of_has hhas).1.takesContent_of_endTagStart houter
    rw [Element.getLast?_ofNode hinner hself hvoid, houter]
    simp only [hclosed, if_true, Tsx.Piece.copy, hstop, hend.standsAt.slice_eq]
  missing := by
    intro head children _ houter hinner hself hvoid
    obtain ⟨inner, hinner⟩ := Option.ne_none_iff_exists'.mp hinner
    rw [Element.getLast?_ofNode hinner hself hvoid, houter]

/-! The search for `</style` stops at a longer name, and the style is closed there. -/

def longerNameDocument : Text := "<style></styles></style>".toList

def earlyClosedStyle : Element := ⟨"style".toList, [], ⟨0, 16⟩, some 7, some 7, true, false⟩

theorem parse_longerNameDocument :
    Tree.parse longerNameDocument 0 = ⟨⟨0, 24⟩, [.element earlyClosedStyle []]⟩ := by
  have hscan : Token.scan (dropBytes (floorBoundary longerNameDocument 0) longerNameDocument) =
      [.raw ⟨"<style>".toList, "style".toList, [], .bracket⟩ [] (some "</styles>".toList),
        .endTag "</style>".toList "style".toList] := by
    cbv
  simp only [Tree.parse_eq_ofMarkup, Tree.ofMarkup, hscan]
  rfl

theorem closedBy_otherName :
    (Tree.parse longerNameDocument 0).Has (.element earlyClosedStyle []) ∧
    earlyClosedStyle.endTagStart = some 7 ∧
    EndTagAt longerNameDocument 7 "</styles>".toList "styles".toList ∧
    earlyClosedStyle.tag.equalsIgnoringCase "styles".toList = false ∧
    Tsx.Piece.code (Tsx.Piece.ofNode longerNameDocument (.element earlyClosedStyle [])) =
      "<style></styles>".toList := by
  have hread : Token.readEndTag "styles></style>".toList =
      (.endTag "</styles>".toList "styles".toList, "</style>".toList) := by
    cbv
  refine ⟨?_, rfl, ⟨"<style>".toList, _, _, rfl, rfl, hread⟩, rfl, ?_⟩
  · rw [parse_longerNameDocument]
    exact ⟨_, List.mem_singleton_self _, Or.inl rfl⟩
  · rfl

end ComponentServer.Markup
