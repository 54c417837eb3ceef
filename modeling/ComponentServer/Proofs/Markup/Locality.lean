import ComponentServer.Proofs.Frontmatter
import ComponentServer.Proofs.Markup.Layout
import ComponentServer.Proofs.Text.Cut

/-!
# Reading looks one character ahead

What a reader makes of its input depends on what it takes and on the character behind that, so
whatever stands further behind can be exchanged. Only the blanks behind the name of an attribute are
looked through at once, but a tag never ends there.
-/

namespace ComponentServer.Markup

open Text

/-- Where the reader leaves something of `front`, it does not see what follows `front`. -/
def OneAhead {α : Type} (read : Text → α × Text) : Prop :=
  ∀ ⦃front behind left : Text⦄, (read (front ++ behind)).2 = left ++ behind → left ≠ [] →
    ∀ other, read (front ++ other) = ((read (front ++ behind)).1, left ++ other)

namespace OneAhead

variable {α β : Type} {read : Text → α × Text}

theorem map (h : OneAhead read) (f : α → β) :
    OneAhead fun input => (f (read input).1, (read input).2) := by
  intro front behind left hleft hne other
  simp only [h hleft hne other]

/-- Readers that go on where others stop. -/
theorem comp {next : Text → β × Text} (h : OneAhead read) (hnext : OneAhead next)
    (hsuffix : ∀ input, (next input).2 <:+ input) :
    OneAhead fun input =>
      (((read input).1, (next (read input).2).1), (next (read input).2).2) := by
  intro front behind left hleft hne other
  obtain ⟨taken, htaken⟩ := hsuffix (read (front ++ behind)).2
  have hread : (read (front ++ behind)).2 = (taken ++ left) ++ behind := by
    rw [← htaken, hleft, List.append_assoc]
  have hother := h hread (by simp [hne]) other
  have hnextLeft : (next ((taken ++ left) ++ behind)).2 = left ++ behind := by
    rw [← hread]
    exact hleft
  simp only [hother, hnext hnextLeft hne other, hread]

end OneAhead

/-- A reader that leaves more than what follows `front` has not used `front` up. -/
theorem ne_nil_of_suffix {front behind left rest : Text} (hsuffix : rest <:+ front ++ behind)
    (hrest : rest = left ++ behind) (hne : left ≠ []) : front ≠ [] := by
  rintro rfl
  have hle := hsuffix.length_le
  have hpos := List.length_pos_iff.mpr hne
  rw [hrest, List.length_append, List.nil_append] at hle
  omega

/-! ### Splitting -/

theorem oneAhead_span (p : Char → Bool) :
    OneAhead fun input => (input.takeWhile p, input.dropWhile p) := by
  intro front behind left hleft hne other
  induction front with
  | nil => exact absurd rfl (ne_nil_of_suffix (List.dropWhile_suffix p) hleft hne)
  | cons c rest ih =>
    by_cases hp : p c = true
    · simp only [List.cons_append, List.takeWhile_cons, List.dropWhile_cons, hp, if_true] at hleft ⊢
      obtain ⟨htake, hdrop⟩ := Prod.mk.inj (ih hleft)
      rw [htake, hdrop]
    · simp only [List.cons_append, List.dropWhile_cons, hp] at hleft
      have hsame : c :: rest = left := List.append_cancel_right (by simpa using hleft)
      subst hsame
      simp [hp]

theorem splitThrough_suffix (mark : Char) (input : Text) :
    (splitThrough mark input).2 <:+ input :=
  ⟨_, splitThrough_append mark input⟩

theorem oneAhead_splitThrough (mark : Char) : OneAhead (splitThrough mark) := by
  intro front behind left hleft hne other
  induction front with
  | nil => exact absurd rfl (ne_nil_of_suffix (splitThrough_suffix mark _) hleft hne)
  | cons c rest ih =>
    simp only [List.cons_append, splitThrough] at hleft ⊢
    split at hleft
    next hmark =>
      have hsame : rest = left := List.append_cancel_right hleft
      simp [hmark, hsame]
    next hmark => simp [hmark, ih hleft]

theorem splitGroup_suffix (state : GroupState) (depth : Nat) (input : Text) :
    (splitGroup state depth input).2 <:+ input :=
  ⟨_, splitGroup_append state depth input⟩

theorem oneAhead_splitGroup (state : GroupState) (depth : Nat) :
    OneAhead (splitGroup state depth) := by
  intro front behind left hleft hne other
  induction front generalizing state depth with
  | nil => exact absurd rfl (ne_nil_of_suffix (splitGroup_suffix state depth _) hleft hne)
  | cons c rest ih =>
    cases state with
    | quoted quote =>
      simp only [List.cons_append, splitGroup] at hleft ⊢
      rw [ih _ _ hleft]
    | escaped quote =>
      simp only [List.cons_append, splitGroup] at hleft ⊢
      rw [ih _ _ hleft]
    | code =>
      simp only [List.cons_append, splitGroup] at hleft ⊢
      split at hleft
      next hcloses =>
        have hsame : rest = left := List.append_cancel_right hleft
        simp [hcloses, hsame]
      next hgoes =>
        rw [if_neg hgoes, if_neg hgoes, ih _ _ hleft]

theorem splitValue_suffix (input : Text) : (splitValue input).2 <:+ input :=
  ⟨_, splitValue_append input⟩

theorem oneAhead_splitValue : OneAhead splitValue := by
  intro front behind left hleft hne other
  cases front with
  | nil => exact absurd rfl (ne_nil_of_suffix (splitValue_suffix _) hleft hne)
  | cons c rest =>
    simp only [List.cons_append, splitValue] at hleft ⊢
    split at hleft
    next hquote => simp [hquote, oneAhead_splitThrough c hleft hne other]
    next hquote =>
      split at hleft
      next hbrace => simp [hbrace, isQuote, oneAhead_splitGroup .code 1 hleft hne other]
      next hbrace =>
        simp only [hquote, hbrace, if_false, Bool.false_eq_true]
        exact @oneAhead_span (fun d => !(isTagBlank d || d == '>')) (c :: rest) behind left hleft
          hne other

/-- What follows the `=` of an attribute. -/
theorem oneAhead_assigned :
    OneAhead fun input : Text =>
      ((input.takeWhile isTagBlank, (splitValue (input.dropWhile isTagBlank)).1),
        (splitValue (input.dropWhile isTagBlank)).2) :=
  (oneAhead_span isTagBlank).comp oneAhead_splitValue splitValue_suffix

/-! ### Opening tags -/

/-- The blanks behind a name are looked through, so something else has to stand in front of what can
be exchanged. -/
theorem Assignment.read_append {front behind left : Text}
    (hleft : (read (front ++ behind)).rest = left ++ behind)
    (hmark : ∃ c ∈ left, isTagBlank c = false) (other : Text) :
    read (front ++ other) = { read (front ++ behind) with rest := left ++ other } := by
  have hfront : (read (front ++ behind)).text ++ left = front := by
    have happend := text_append_rest (front ++ behind)
    rw [hleft, ← List.append_assoc] at happend
    exact List.append_cancel_right happend
  have hdropped : front.dropWhile isTagBlank ≠ [] := by
    obtain ⟨c, hc, hblank⟩ := hmark
    intro hnil
    rw [List.dropWhile_eq_nil_iff] at hnil
    have hall := hnil c (by rw [← hfront]; exact List.mem_append_right _ hc)
    rw [hblank] at hall
    cases hall
  -- The blanks in front of the mark are the same whatever follows.
  have hspan : ∀ more, (front ++ more).takeWhile isTagBlank = front.takeWhile isTagBlank ∧
      (front ++ more).dropWhile isTagBlank = front.dropWhile isTagBlank ++ more := by
    intro more
    have hswap := @oneAhead_span isTagBlank front [] (front.dropWhile isTagBlank) (by simp) hdropped
      more
    simpa using Prod.mk.inj hswap
  cases hmarked : front.dropWhile isTagBlank with
  | nil => exact absurd hmarked hdropped
  | cons mark assigned =>
    by_cases hequals : mark = '='
    · subst hequals
      have hread : ∀ more, read (front ++ more) =
          { text := front.takeWhile isTagBlank ++ '=' :: (assigned ++ more).takeWhile isTagBlank ++
              (splitValue ((assigned ++ more).dropWhile isTagBlank)).1
            value := some (splitValue ((assigned ++ more).dropWhile isTagBlank)).1
            rest := (splitValue ((assigned ++ more).dropWhile isTagBlank)).2 } := by
        intro more
        obtain ⟨htake, hdrop⟩ := hspan more
        rw [hmarked, List.cons_append] at hdrop
        simp only [read, hdrop, htake]
      rw [hread] at hleft
      have hne : left ≠ [] := by
        rintro rfl
        simp at hmark
      obtain ⟨hvalue, hrest⟩ := Prod.mk.inj (oneAhead_assigned hleft hne other)
      obtain ⟨hblanks, hvalue⟩ := Prod.mk.inj hvalue
      rw [hread, hread, hblanks, hvalue, hrest]
    · have hread : ∀ more, read (front ++ more) = ⟨[], none, front ++ more⟩ := by
        intro more
        obtain ⟨-, hdrop⟩ := hspan more
        rw [hmarked, List.cons_append] at hdrop
        unfold read
        split
        next assigned' heq =>
          rw [hdrop] at heq
          cases heq
          exact absurd rfl hequals
        next => rfl
      rw [hread] at hleft
      have hsame : front = left := List.append_cancel_right hleft
      rw [hread, hread, hsame]

namespace TagBody

/-- Where a tag ends there is a bracket. -/
theorem ending_cases (attributes : List Attribute) (input : Text) :
    (read attributes input).ending = .inputEnd ∨ '>' ∈ (read attributes input).text ∨
      (read attributes input).ending = .nextTag ∧
        ∃ following, (read attributes input).rest = '<' :: following := by
  fun_induction read attributes input with
  | case1 => exact Or.inl rfl
  | case2 => simp
  | case3 => simp
  | case4 => simp
  | case5 attributes rest group _ _ _ ih =>
    exact ih.imp_right (Or.imp_left (List.mem_append_right _))
  | case6 attributes c rest _ _ _ hbrace hname name assignment ih =>
    exact ih.imp_right (Or.imp_left (List.mem_append_right _))
  | case7 attributes c rest _ _ _ hbrace hname ih =>
    exact ih.imp_right (Or.imp_left (List.mem_append_right _))

/-- If the tag has its own bracket or leaves something, then more than blanks stands in front of what
can be exchanged. -/
theorem exists_mark {attributes : List Attribute} {front behind left : Text}
    (hleft : (read attributes (front ++ behind)).rest = left ++ behind)
    (hends : (read attributes (front ++ behind)).ending = .bracket ∨ left ≠ []) :
    ∃ c ∈ front, isTagBlank c = false := by
  have hfront : (read attributes (front ++ behind)).text ++ left = front := by
    have happend := text_append_rest attributes (front ++ behind)
    rw [hleft, ← List.append_assoc] at happend
    exact List.append_cancel_right happend
  rcases ending_cases attributes (front ++ behind) with hend | hbracket | ⟨hnext, following, hrest⟩
  · rw [rest_eq_nil attributes _ hend] at hleft
    obtain ⟨hnil, -⟩ := List.append_eq_nil_iff.mp hleft.symm
    simp [hend, hnil] at hends
  · exact ⟨'>', by rw [← hfront]; exact List.mem_append_left _ hbracket, by decide⟩
  · have hne : left ≠ [] := by simpa [hnext] using hends
    obtain ⟨c, left', rfl⟩ := List.exists_cons_of_ne_nil hne
    rw [hrest, List.cons_append] at hleft
    cases hleft
    exact ⟨'<', by rw [← hfront]; simp, by decide⟩

theorem read_brace (attributes : List Attribute) (rest : Text) :
    read attributes ('\x7b' :: rest) =
      (read (setAttribute attributes ⟨'\x7b' :: (splitGroup .code 1 rest).1, none⟩)
        (splitGroup .code 1 rest).2).prepend ('\x7b' :: (splitGroup .code 1 rest).1) := by
  rw [read] <;> simp

theorem read_name (attributes : List Attribute) {c : Char} (hbrace : c ≠ '\x7b')
    (hname : inName c = true) (rest : Text) :
    read attributes (c :: rest) =
      (read (setAttribute attributes ⟨c :: rest.takeWhile inName,
        (Assignment.read (rest.dropWhile inName)).value⟩)
        (Assignment.read (rest.dropWhile inName)).rest).prepend
          (c :: rest.takeWhile inName ++ (Assignment.read (rest.dropWhile inName)).text) := by
  have hmark : ¬ c = '>' ∧ ¬ c = '/' ∧ ¬ c = '<' := by
    refine ⟨?_, ?_, ?_⟩ <;> rintro rfl <;> exact absurd hname (by decide)
  rw [read]
  · simp [hbrace, hname]
  · exact hmark.1
  · intro _ hslash
    exact absurd hslash hmark.2.1
  · exact hmark.2.2

theorem read_other (attributes : List Attribute) {c : Char} (hbrace : c ≠ '\x7b')
    (hname : inName c = false) {rest : Text} (hbracket : c ≠ '>') (hnext : c ≠ '<')
    (hslash : c = '/' → rest.head? ≠ some '>') :
    read attributes (c :: rest) = (read attributes rest).prepend [c] := by
  rw [read]
  · simp [hbrace, hname]
  · exact hbracket
  · rintro rest' hc rfl
    exact hslash hc rfl
  · exact hnext

/-- What a tag takes and what it leaves of `front` make up `front`. -/
theorem front_eq {attributes : List Attribute} {input behind left : Text}
    (hleft : (read attributes input).rest = left ++ behind) :
    input = ((read attributes input).text ++ left) ++ behind := by
  rw [List.append_assoc, ← hleft, text_append_rest]

/-- The rest of an opening tag is read the same whatever follows what it leaves. -/
theorem read_append (attributes : List Attribute) {front behind left : Text}
    (hleft : (read attributes (front ++ behind)).rest = left ++ behind)
    (hends : (read attributes (front ++ behind)).ending = .bracket ∨ left ≠ []) (other : Text) :
    read attributes (front ++ other) =
      { read attributes (front ++ behind) with rest := left ++ other } := by
  generalize hinput : front ++ behind = input at hleft hends
  fun_induction read attributes input generalizing front with
  | case1 attributes =>
    obtain ⟨hnil, -⟩ := List.append_eq_nil_iff.mp hleft.symm
    simp [hnil] at hends
  | case2 attributes rest =>
    simp only at hleft
    rw [hleft, ← List.cons_append] at hinput
    rw [List.append_cancel_right hinput]
    simp [read]
  | case3 attributes rest =>
    simp only at hleft
    rw [hleft, ← List.cons_append, ← List.cons_append] at hinput
    rw [List.append_cancel_right hinput]
    simp [read]
  | case4 attributes rest =>
    simp only at hleft
    rw [hleft] at hinput
    obtain ⟨c, left, rfl⟩ := List.exists_cons_of_ne_nil (by simpa using hends)
    cases hleft
    rw [List.append_cancel_right hinput]
    simp [read]
  | case5 attributes rest =>
    rename_i ih
    simp only [prepend] at hleft hends
    obtain ⟨inner, hinner⟩ : ∃ inner, (splitGroup .code 1 rest).2 = inner ++ behind :=
      ⟨_, front_eq hleft⟩
    obtain ⟨mark, hmark, -⟩ := exists_mark (hinner ▸ hleft) (hinner ▸ hends)
    have hrest : rest = ((splitGroup .code 1 rest).1 ++ inner) ++ behind := by
      rw [List.append_assoc, ← hinner, splitGroup_append]
    have hfront : front = '\x7b' :: ((splitGroup .code 1 rest).1 ++ inner) := by
      rw [hrest, ← List.cons_append] at hinput
      exact List.append_cancel_right hinput
    have hgroup := oneAhead_splitGroup .code 1 (hrest ▸ hinner) (List.ne_nil_of_mem hmark) other
    rw [← hrest] at hgroup
    rw [hfront, List.cons_append, read_brace, hgroup, ih hinner.symm hleft hends]
    rfl
  | case6 attributes c rest =>
    rename_i hbrace hname name assignment ih
    simp only [prepend] at hleft hends
    obtain ⟨inner, hinner⟩ : ∃ inner, (Assignment.read (rest.dropWhile inName)).rest =
        inner ++ behind := ⟨_, front_eq hleft⟩
    have hmark := exists_mark (hinner ▸ hleft) (hinner ▸ hends)
    obtain ⟨after, hafter⟩ : ∃ after, rest.dropWhile inName = after ++ behind ∧ after ≠ [] := by
      obtain ⟨mark, hmem, -⟩ := hmark
      refine ⟨(Assignment.read (rest.dropWhile inName)).text ++ inner, ?_, ?_⟩
      · rw [List.append_assoc, ← hinner, Assignment.text_append_rest]
      · simp [List.ne_nil_of_mem hmem]
    have hrest : rest = (rest.takeWhile inName ++ after) ++ behind := by
      rw [List.append_assoc, ← hafter.1, List.takeWhile_append_dropWhile]
    have hfront : front = c :: (rest.takeWhile inName ++ after) := by
      rw [hrest, ← List.cons_append] at hinput
      exact List.append_cancel_right hinput
    obtain ⟨htake, hdrop⟩ := Prod.mk.inj (@oneAhead_span inName (rest.takeWhile inName ++ after)
      behind after (hrest ▸ hafter.1) hafter.2 other)
    have hassignment := Assignment.read_append (hafter.1 ▸ hinner) hmark other
    simp only [← hrest] at htake
    rw [← hafter.1] at hassignment
    rw [hfront, List.cons_append, read_name attributes hbrace hname, htake, hdrop, hassignment,
      ih hinner.symm hleft hends]
    rfl
  | case7 attributes c rest =>
    rename_i hbracket hslash hnext hbrace hname ih
    simp only [prepend] at hleft hends
    obtain ⟨inner, rfl⟩ : ∃ inner, rest = inner ++ behind := ⟨_, front_eq hleft⟩
    obtain ⟨mark, hmark, -⟩ := exists_mark hleft hends
    have hfront : front = c :: inner := by
      rw [← List.cons_append] at hinput
      exact List.append_cancel_right hinput
    rw [hfront, List.cons_append, read_other attributes hbrace (by simpa using hname) hbracket hnext,
      ih rfl hleft hends]
    · rfl
    · rintro rfl hhead
      obtain ⟨d, inner, rfl⟩ := List.exists_cons_of_ne_nil (List.ne_nil_of_mem hmark)
      rw [List.cons_append, List.head?_cons, Option.some.injEq] at hhead
      subst hhead
      exact hslash _ rfl rfl

end TagBody

namespace StartTag

theorem read_append {front behind left : Text} (hleft : (read (front ++ behind)).2 = left ++ behind)
    (hends : (read (front ++ behind)).1.ending = .bracket ∨ left ≠ []) (other : Text) :
    read (front ++ other) = ((read (front ++ behind)).1, left ++ other) := by
  obtain ⟨inner, hinner⟩ : ∃ inner, (front ++ behind).dropWhile inName = inner ++ behind :=
    ⟨_, TagBody.front_eq hleft⟩
  have hbody : (TagBody.read [] (inner ++ behind)).rest = left ++ behind := hinner ▸ hleft
  have hends' : (TagBody.read [] (inner ++ behind)).ending = .bracket ∨ left ≠ [] :=
    hinner ▸ hends
  obtain ⟨mark, hmark, -⟩ := TagBody.exists_mark hbody hends'
  obtain ⟨htake, hdrop⟩ := Prod.mk.inj (oneAhead_span inName hinner (List.ne_nil_of_mem hmark) other)
  simp only [read, htake, hdrop, hinner, TagBody.read_append [] hbody hends' other]

theorem not_mem_name {c : Char} (hc : inName c = false) (input : Text) :
    c ∉ (read input).1.name := by
  intro hmem
  have hname := List.mem_takeWhile_imp hmem
  rw [hc] at hname
  cases hname

end StartTag

/-! ### Tokens -/

namespace Token

theorem oneAhead_readText (c : Char) : OneAhead (readText c) :=
  (oneAhead_span (· != '<')).map fun run => Token.text (c :: run)

theorem oneAhead_readDeclaration : OneAhead readDeclaration :=
  (oneAhead_splitThrough '>').map fun part => Token.comment (['<', '!'] ++ part) true

theorem oneAhead_readEndTag : OneAhead readEndTag :=
  ((oneAhead_span StartTag.inName).comp (oneAhead_splitThrough '>') (splitThrough_suffix '>')).map
    fun parts => Token.endTag (['<', '/'] ++ parts.1 ++ parts.2) parts.1

theorem oneAhead_readComment : OneAhead readComment := by
  intro front behind left hleft hne other
  cases hcut : cut? ['-', '-', '>'] (front ++ behind) with
  | none =>
    simp only [readComment, hcut] at hleft
    exact absurd (List.append_eq_nil_iff.mp hleft.symm).1 hne
  | some halves =>
    obtain ⟨inner, rest⟩ := halves
    have hread : ∀ {text following : Text},
        cut? ['-', '-', '>'] text = some (inner, ['-', '-', '>'] ++ following) →
        readComment text =
          (.comment (['<', '!', '-', '-'] ++ inner ++ ['-', '-', '>']) true, following) := by
      intro text following hfound
      simp only [readComment, hfound]
      rfl
    simp only [readComment, hcut] at hleft
    have hinput := append_of_cut? hcut
    rw [List.length_cons, List.length_cons, List.length_singleton, hleft, ← List.append_assoc]
      at hinput
    obtain rfl := List.append_cancel_right hinput
    have hrest : rest = ['-', '-', '>'] ++ (left ++ behind) := by
      have happend := cutWhere?_append hcut
      simp only [List.append_assoc] at happend
      exact List.append_cancel_left happend
    have hagain := cut?_append hcut (left ++ other)
    rw [← List.append_assoc, ← List.append_assoc] at hagain
    rw [hrest] at hcut
    rw [hread hcut, hread hagain]

theorem readRaw_suffix (tag : StartTag) (input : Text) : (readRaw tag input).2 <:+ input := by
  unfold readRaw
  split
  next content rest hcut =>
    exact (splitThrough_suffix '>' rest).trans ⟨content, cutWhere?_append hcut⟩
  next => exact List.nil_suffix

theorem splitThrough_append_of_not_mem {mark : Char} {front : Text} (h : mark ∉ front)
    (following : Text) : (splitThrough mark (front ++ following)).2 =
      (splitThrough mark following).2 := by
  induction front with
  | nil => rfl
  | cons c rest ih =>
    rw [List.mem_cons, not_or] at h
    simp [splitThrough, Ne.symm h.1, ih h.2]

theorem oneAhead_readRaw {tag : StartTag} (hname : '>' ∉ tag.name) : OneAhead (readRaw tag) := by
  intro front behind left hleft hne other
  have hread : ∀ {content rest : Text},
      cutIgnoringCase? (['<', '/'] ++ tag.name) (content ++ rest) = some (content, rest) →
      readRaw tag (content ++ rest) =
        (.raw tag content (some (splitThrough '>' rest).1), (splitThrough '>' rest).2) := by
    intro content rest hcut
    simp only [readRaw, hcut]
  cases hcut : cutIgnoringCase? (['<', '/'] ++ tag.name) (front ++ behind) with
  | none =>
    simp only [readRaw, hcut] at hleft
    exact absurd (List.append_eq_nil_iff.mp hleft.symm).1 hne
  | some halves =>
    obtain ⟨content, rest⟩ := halves
    simp only [readRaw, hcut] at hleft
    -- The name has no bracket, so the closing tag goes on behind it.
    obtain ⟨found, following, rfl, hfound⟩ := startsIgnoringCase_iff.mp (test_of_cutWhere? hcut)
    have hbracket : '>' ∉ found := by
      rw [← mem_lower_iff (by decide), hfound, mem_lower_iff (by decide)]
      simpa using hname
    obtain ⟨taken, htaken⟩ := splitThrough_suffix '>' following
    rw [splitThrough_append_of_not_mem hbracket] at hleft
    have hfollowing : following = (taken ++ left) ++ behind := by
      rw [← htaken, hleft, List.append_assoc]
    have hfront : ∀ more, front ++ more = content ++ (found ++ ((taken ++ left) ++ more)) := by
      intro more
      have happend := cutWhere?_append hcut
      rw [hfollowing] at happend
      simp only [← List.append_assoc] at happend ⊢
      rw [List.append_cancel_right happend]
    have hlength : (['<', '/'] ++ tag.name).length ≤ found.length := by
      have hsame := congrArg List.length hfound
      simp only [lower, List.length_map] at hsame
      omega
    rw [hfollowing, hfront] at hcut
    have hclose : (splitThrough '>' ((found ++ (taken ++ left)) ++ behind)).2 = left ++ behind := by
      rw [List.append_assoc, splitThrough_append_of_not_mem hbracket, ← hfollowing, hleft]
    have hswap := oneAhead_splitThrough '>' hclose hne other
    rw [List.append_assoc found, List.append_assoc found] at hswap
    rw [hfront, hfront, hread hcut, hread (cutIgnoringCase?_append hcut hlength _), hswap]

theorem oneAhead_readStartTag : OneAhead readStartTag := by
  intro front behind left hleft hne other
  by_cases hraw : (StartTag.read (front ++ behind)).1.opensRaw = true
  · simp only [readStartTag, hraw, if_true] at hleft ⊢
    obtain ⟨taken, htaken⟩ := readRaw_suffix (StartTag.read (front ++ behind)).1
      (StartTag.read (front ++ behind)).2
    have hinner : (StartTag.read (front ++ behind)).2 = (taken ++ left) ++ behind := by
      rw [List.append_assoc, ← hleft, htaken]
    rw [StartTag.read_append hinner (Or.inr (by simp [hne])) other]
    simp only [hraw, if_true]
    rw [hinner] at hleft ⊢
    exact oneAhead_readRaw (StartTag.not_mem_name (by decide) _) hleft hne other
  · simp only [readStartTag, hraw, Bool.false_eq_true, if_false] at hleft ⊢
    rw [StartTag.read_append hleft (Or.inr hne) other]
    simp only [hraw, Bool.false_eq_true, if_false]

theorem readNext_comment (body : Text) :
    readNext '<' ('!' :: '-' :: '-' :: body) = readComment body := by
  simp [readNext]

theorem readNext_declaration {body : Text} (h : ∀ rest, body ≠ '-' :: '-' :: rest) :
    readNext '<' ('!' :: body) = readDeclaration body := by
  rw [readNext, if_pos rfl]
  exact h

theorem readNext_endTag (a : Char) (body : Text) :
    readNext '<' ('/' :: a :: body) =
      if a.isAlpha then readEndTag (a :: body) else readText '<' ('/' :: a :: body) := by
  simp [readNext]

theorem readNext_startTag {a : Char} (hdeclaration : a ≠ '!') (hend : a ≠ '/') (body : Text) :
    readNext '<' (a :: body) =
      if a.isAlpha then readStartTag (a :: body) else readText '<' (a :: body) := by
  rw [readNext, if_pos rfl] <;> simp [hdeclaration, hend]

theorem readComment_suffix (body : Text) : (readComment body).2 <:+ body := by
  unfold readComment
  split
  next inner rest hcut => exact (List.drop_suffix 3 rest).trans ⟨inner, cutWhere?_append hcut⟩
  next => exact List.nil_suffix

theorem readNext_suffix (c : Char) (rest : Text) : (readNext c rest).2 <:+ rest := by
  have happend := readNext_append c rest
  obtain ⟨d, source, hsource⟩ := List.exists_cons_of_ne_nil (readNext_source_ne_nil c rest)
  rw [hsource, List.cons_append, List.cons.injEq] at happend
  exact ⟨source, happend.2⟩

/-- A mark that follows the `<` is taken with it. -/
theorem readNext_slash_suffix (body : Text) : (readNext '<' ('/' :: body)).2 <:+ body := by
  have htext : (readText '<' ('/' :: body)).2 <:+ body := by
    simp only [readText, List.dropWhile_cons]
    exact List.dropWhile_suffix _
  cases body with
  | nil => simpa [readNext] using htext
  | cons a body =>
    rw [readNext_endTag]
    split
    · exact (splitThrough_suffix '>' _).trans (List.dropWhile_suffix _)
    · exact htext

theorem readNext_bang_suffix (dashes body : Text) (hdashes : dashes = [] ∨ dashes = ['-']) :
    (readNext '<' ('!' :: (dashes ++ body))).2 <:+ body := by
  by_cases hcomment : ∃ rest, dashes ++ body = '-' :: '-' :: rest
  · obtain ⟨rest, hrest⟩ := hcomment
    rw [hrest, readNext_comment]
    refine (readComment_suffix rest).trans ?_
    rcases hdashes with rfl | rfl
    · exact ⟨['-', '-'], hrest.symm⟩
    · exact ⟨['-'], (List.cons.inj hrest).2.symm⟩
  · rw [readNext_declaration fun rest hbody => hcomment ⟨rest, hbody⟩]
    rcases hdashes with rfl | rfl
    · exact splitThrough_suffix '>' body
    · exact splitThrough_suffix '>' body

/-- The two characters behind a `<!` tell a comment from a declaration. -/
theorem oneAhead_readNext_bang : OneAhead fun body => readNext '<' ('!' :: body) := by
  intro front behind left hleft hne other
  by_cases hcomment : ∃ body, front = '-' :: '-' :: body
  · obtain ⟨body, rfl⟩ := hcomment
    simp only [List.cons_append, readNext_comment] at hleft ⊢
    exact oneAhead_readComment hleft hne other
  · have hlong : ¬ (front = [] ∨ front = ['-']) := by
      intro hdashes
      exact ne_nil_of_suffix (readNext_bang_suffix front behind hdashes) hleft hne rfl
    have hdeclaration : ∀ more rest, front ++ more ≠ '-' :: '-' :: rest := by
      intro more rest hbody
      match front with
      | [] => exact hlong (Or.inl rfl)
      | [a] =>
        cases hbody
        exact hlong (Or.inr rfl)
      | a :: b :: front =>
        cases hbody
        exact hcomment ⟨front, rfl⟩
    simp only [readNext_declaration (hdeclaration _)] at hleft ⊢
    exact oneAhead_readDeclaration hleft hne other

theorem oneAhead_readNext (c : Char) : OneAhead (readNext c) := by
  intro front behind left hleft hne other
  by_cases hc : c = '<'
  · subst hc
    cases front with
    | nil => exact absurd rfl (ne_nil_of_suffix (readNext_suffix '<' _) hleft hne)
    | cons a front =>
      by_cases hbang : a = '!'
      · subst hbang
        exact oneAhead_readNext_bang hleft hne other
      · by_cases hslash : a = '/'
        · subst hslash
          cases front with
          | nil => exact absurd rfl (ne_nil_of_suffix (readNext_slash_suffix behind) hleft hne)
          | cons a front =>
            simp only [List.cons_append, readNext_endTag] at hleft ⊢
            split at hleft
            next halpha =>
              simp only [halpha, if_true]
              exact @oneAhead_readEndTag (a :: front) behind left hleft hne other
            next halpha =>
              simp only [halpha, Bool.false_eq_true, if_false]
              exact @oneAhead_readText '<' ('/' :: a :: front) behind left hleft hne other
        · simp only [List.cons_append, readNext_startTag hbang hslash] at hleft ⊢
          split at hleft
          next halpha =>
            simp only [halpha, if_true]
            exact @oneAhead_readStartTag (a :: front) behind left hleft hne other
          next halpha =>
            simp only [halpha, Bool.false_eq_true, if_false]
            exact @oneAhead_readText '<' (a :: front) behind left hleft hne other
  · simp only [readNext, hc, if_false] at hleft ⊢
    exact oneAhead_readText c hleft hne other

end Token

end ComponentServer.Markup
