import ComponentServer.Proofs.Markup.Locality
import ComponentServer.Proofs.Markup.Rendering
import ComponentServer.Proofs.Markup.WellFormed

/-!
# Plain content can be exchanged

The content of a script or style may hold anything but its own closing tag: tags, quotes, braces and
brackets in it are read neither by the tokens in front of it, which look one character ahead at most,
nor by those behind it, which start at the closing tag. That closing tag is found again because its
`<` cannot be in the middle of another one.
-/

namespace ComponentServer.Markup

open Text

theorem StartTag.text_read (input : Text) :
    (read input).1.text =
      '<' :: (read input).1.name ++ (TagBody.read [] (input.dropWhile inName)).text :=
  rfl

namespace Token

variable {tag : StartTag} {content back rest : Text} {close : Option Text}

theorem readRaw_exchange (hname : '<' ∉ tag.name)
    (h : readRaw tag (content ++ back) = (.raw tag content close, rest)) {other : Text}
    (hfree : FreeOf (['<', '/'] ++ tag.name) other) :
    readRaw tag (other ++ back) = (.raw tag other close, rest) := by
  cases hcut : cutIgnoringCase? (['<', '/'] ++ tag.name) (content ++ back) with
  | none =>
    simp only [readRaw, hcut, Prod.mk.injEq, Token.raw.injEq, true_and] at h
    obtain ⟨⟨hcontent, rfl⟩, rfl⟩ := h
    have hback : back = [] := by simpa using hcontent
    simp only [hback, List.append_nil, readRaw, freeOf_iff.mp hfree]
  | some halves =>
    obtain ⟨found, rest'⟩ := halves
    have happend := cutWhere?_append hcut
    simp only [readRaw, hcut, Prod.mk.injEq, Token.raw.injEq, true_and] at h
    obtain ⟨⟨rfl, rfl⟩, rfl⟩ := h
    have hback : rest' = back := List.append_cancel_left happend
    subst hback
    have hslash : '<' ∉ '/' :: tag.name := by simpa using hname
    have hagain : cutIgnoringCase? (['<', '/'] ++ tag.name) (other ++ rest') =
        some (other, rest') :=
      hfree.cutIgnoringCase?_append hslash (test_of_cutWhere? hcut)
    simp only [readRaw, hagain]

/-- A raw token comes from an opening tag. -/
theorem exists_of_readNext_eq_raw {c : Char} {input : Text}
    (h : readNext c input = (.raw tag content close, rest)) :
    c = '<' ∧ (StartTag.read input).1 = tag ∧ tag.opensRaw = true ∧
      readRaw tag (StartTag.read input).2 = (.raw tag content close, rest) ∧
      ∃ a body, input = a :: body ∧ a.isAlpha = true := by
  have htag : (StartTag.read input).1 = tag := (eq_read_of_tag? (by rw [h]; rfl)).symm
  unfold readNext at h
  split at h
  next hc =>
    split at h
    · unfold readComment at h
      split at h <;> cases (congrArg Prod.fst h)
    · cases (congrArg Prod.fst h)
    · split at h <;> cases (congrArg Prod.fst h)
    · rename_i a body _ _ _
      split at h
      next halpha =>
        unfold readStartTag at h
        split at h
        next hraw =>
          rw [htag] at hraw h
          exact ⟨hc, htag, hraw, h, a, body, rfl, halpha⟩
        next => cases (congrArg Prod.fst h)
      next => cases (congrArg Prod.fst h)
    · cases (congrArg Prod.fst h)
  next => cases (congrArg Prod.fst h)

theorem readNext_of_isAlpha {a : Char} (h : a.isAlpha = true) (body : Text) :
    readNext '<' (a :: body) = readStartTag (a :: body) := by
  have hdeclaration : a ≠ '!' := by
    rintro rfl
    exact absurd h (by decide)
  have hend : a ≠ '/' := by
    rintro rfl
    exact absurd h (by decide)
  rw [readNext_startTag hdeclaration hend, if_pos h]

/-- Reading an opening tag with plain content goes the same way when the content is exchanged. -/
theorem readNext_exchange {c : Char} {opening : Text} (htext : tag.text = c :: opening)
    (hends : tag.ending = .bracket)
    (h : readNext c (opening ++ (content ++ back)) = (.raw tag content close, rest)) {other : Text}
    (hfree : FreeOf (['<', '/'] ++ tag.name) other) :
    readNext c (opening ++ (other ++ back)) = (.raw tag other close, rest) := by
  obtain ⟨rfl, htag, hraw, hread, a, body, hinput, halpha⟩ := exists_of_readNext_eq_raw h
  have hleft : (StartTag.read (opening ++ (content ++ back))).2 = [] ++ (content ++ back) := by
    have happend := StartTag.text_append_rest (opening ++ (content ++ back))
    rw [htag, htext, List.cons_append, List.cons.injEq] at happend
    exact List.append_cancel_left happend.2
  have hagain := StartTag.read_append hleft (Or.inl (htag ▸ hends)) (other ++ back)
  have hname : '<' ∉ tag.name := htag ▸ StartTag.not_mem_name (by decide) _
  rw [hleft] at hread
  cases opening with
  | nil =>
    -- A tag without a name opens no plain content.
    have hempty : tag.name = [] := by
      rw [← htag, StartTag.text_read, List.cons_append, List.cons.injEq, htag] at htext
      exact (List.append_eq_nil_iff.mp htext.2).1
    rw [StartTag.opensRaw, hempty] at hraw
    cases hraw
  | cons b inner =>
    obtain rfl := (List.cons.inj hinput).1
    rw [htag] at hagain
    rw [List.cons_append, readNext_of_isAlpha halpha, readStartTag, ← List.cons_append, hagain,
      if_pos hraw]
    exact readRaw_exchange hname hread hfree

theorem scan_cons_of_readNext {c : Char} {input : Text} {token : Token}
    (h : readNext c input = (token, rest)) : scan (c :: input) = token :: scan rest := by
  rw [scan, h]

theorem exists_of_scan_eq_cons {input : Text} {token : Token} {tokens : List Token}
    (h : scan input = token :: tokens) :
    ∃ c following left, input = c :: following ∧ readNext c following = (token, left) ∧
      scan left = tokens := by
  cases input with
  | nil => simp [scan] at h
  | cons c following =>
    rw [scan, List.cons.injEq] at h
    exact ⟨c, following, _, rfl, Prod.ext h.1 rfl, h.2⟩

/-- Where a token of the scan was read. -/
theorem exists_of_scan_eq_append {markup : Text} {token : Token} {before after : List Token}
    (h : scan markup = before ++ token :: after) :
    ∃ c following left, markup = before.flatMap source ++ c :: following ∧
      readNext c following = (token, left) ∧ scan left = after := by
  induction before generalizing markup with
  | nil => exact exists_of_scan_eq_cons h
  | cons first before ih =>
    obtain ⟨c, following, left, rfl, hread, hbefore⟩ := exists_of_scan_eq_cons h
    obtain ⟨d, following', left', rfl, hread', hafter⟩ := ih hbefore
    have happend := readNext_append c following
    rw [hread] at happend
    exact ⟨d, following', left', by simp [← happend], hread', hafter⟩

theorem scan_front_exchange {before after : List Token}
    (h : scan (before.flatMap source ++ tag.text ++ (content ++ back)) =
      before ++ .raw tag content close :: after)
    (hends : tag.ending = .bracket) {other : Text} (hfree : FreeOf (['<', '/'] ++ tag.name) other) :
    scan (before.flatMap source ++ tag.text ++ (other ++ back)) =
      before ++ .raw tag other close :: after := by
  have htext : tag.text ≠ [] := by
    have hcomplete := complete_of_mem_scan (before.flatMap source ++ tag.text ++ (content ++ back))
    rw [h] at hcomplete
    exact (hcomplete (.raw tag content close) (by simp)).1
  induction before with
  | nil =>
    obtain ⟨c, following, left, hinput, hread, hafter⟩ := exists_of_scan_eq_cons h
    obtain ⟨d, opening, htag⟩ := List.exists_cons_of_ne_nil htext
    rw [List.flatMap_nil, List.nil_append, htag, List.cons_append] at hinput ⊢
    obtain ⟨rfl, rfl⟩ := List.cons.inj hinput
    rw [scan_cons_of_readNext (readNext_exchange htag hends hread hfree), hafter, List.nil_append]
  | cons token before ih =>
    obtain ⟨c, following, left, hinput, hread, hbefore⟩ := exists_of_scan_eq_cons h
    have happend := readNext_append c following
    have hne := readNext_source_ne_nil c following
    rw [hread] at happend hne
    obtain ⟨d, opening, hsource⟩ := List.exists_cons_of_ne_nil hne
    -- What the token leaves starts in front of the content, and so does what it looked at.
    have hfront : ∀ text, (token :: before).flatMap source ++ tag.text ++ text =
        d :: ((opening ++ (before.flatMap source ++ tag.text)) ++ text) := by
      intro text
      simp [hsource]
    rw [hfront, List.cons.injEq] at hinput
    obtain ⟨rfl, rfl⟩ := hinput
    obtain rfl : left = (before.flatMap source ++ tag.text) ++ (content ++ back) := by
      rw [hsource, List.cons_append, List.cons.injEq, List.append_assoc] at happend
      exact List.append_cancel_left happend.2
    have hagain := oneAhead_readNext d (congrArg Prod.snd hread)
      (List.append_ne_nil_of_right_ne_nil _ htext) (other ++ back)
    rw [hread] at hagain
    rw [hfront, scan_cons_of_readNext hagain, ih hbefore, List.cons_append]

/-- The tokens around a raw element stay when its content is exchanged. -/
theorem scan_exchange {markup : Text} {before after : List Token}
    (h : scan markup = before ++ .raw tag content close :: after) (hends : tag.ending = .bracket)
    {other : Text} (hfree : FreeOf (['<', '/'] ++ tag.name) other) :
    scan ((before ++ .raw tag other close :: after).flatMap source) =
      before ++ .raw tag other close :: after := by
  have hsplit : ∀ part, (before ++ .raw tag part close :: after).flatMap source =
      before.flatMap source ++ tag.text ++ (part ++ (close.getD [] ++ after.flatMap source)) := by
    intro part
    simp [source]
  have hmarkup := flatMap_source_scan markup
  rw [h, hsplit] at hmarkup
  rw [hsplit]
  exact scan_front_exchange (hmarkup ▸ h) hends hfree

end Token

end ComponentServer.Markup
