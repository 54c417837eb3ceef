import ComponentServer.Proofs.Text.Cut
import ComponentServer.Proofs.Virtual.Files

/-!
# Where the first statement starts

White space and comments are told by what the code has at their end: a line comment goes on to the
next newline and a block comment to the next `*/`, or either to the end of the code. Such a stretch
can be taken away in one way only, so the offset of the first statement is the one offset with
nothing but white space and comments in front of it and neither of them behind it.
-/

namespace ComponentServer.Virtual

open Text

/-- White space and comments, in code that goes on with `rest`. -/
inductive Trivia : (skipped rest : Text) → Prop
  | nil (rest : Text) : Trivia [] rest
  | blank {c : Char} {skipped rest : Text} (hblank : isBlank c = true)
      (hskipped : Trivia skipped rest) : Trivia (c :: skipped) rest
  /-- A line comment stops in front of a newline or at the end of the code. -/
  | lineComment {body skipped rest : Text} (hbody : '\n' ∉ body)
      (hended : skipped ++ rest = [] ∨ ∃ more, skipped ++ rest = '\n' :: more)
      (hskipped : Trivia skipped rest) : Trivia ('/' :: '/' :: (body ++ skipped)) rest
  /-- A block comment stops behind the first `*/` in it. -/
  | blockComment {body skipped rest : Text} (hbody : ¬ ['*', '/'] <:+: body)
      (hskipped : Trivia skipped rest) :
      Trivia ('/' :: '*' :: (body ++ '*' :: '/' :: skipped)) rest
  /-- Without one it stops at the end of the code. -/
  | openComment {body : Text} (hbody : ¬ ['*', '/'] <:+: body) : Trivia ('/' :: '*' :: body) []

/-- The code starts with white space or with a comment. -/
def StartsTrivia (code : Text) : Prop :=
  (∃ c rest, code = c :: rest ∧ isBlank c = true) ∨ ['/', '/'] <+: code ∨ ['/', '*'] <+: code

/-- In front of the offset are white space and comments only, and behind it is neither. -/
structure IsFirstStatement (code : Text) (offset : Nat) : Prop where
  boundary : IsBoundary code offset
  skipped : Trivia (code.takeBytes offset) (code.dropBytes offset)
  stops : ¬ StartsTrivia (code.dropBytes offset)

/-! ### Comments -/

variable {code rest body skipped : Text}

theorem cut?_eq_none_iff {needle text : Text} : cut? needle text = none ↔ ¬ needle <:+: text := by
  rw [cut?, cutWhere?_eq_none_iff]
  constructor
  · rintro hnone ⟨before, after, rfl⟩
    have hfound := hnone (needle ++ after) ⟨before, by simp⟩
    rw [List.isPrefixOf_iff_prefix.mpr (List.prefix_append _ _)] at hfound
    cases hfound
  · intro hfree part hpart
    by_contra hstarts
    rw [Bool.not_eq_false, List.isPrefixOf_iff_prefix] at hstarts
    exact hfree (hstarts.isInfix.trans hpart.isInfix)

/-- The end of a comment does not overlap itself, so the first one has none in front of it. -/
theorem cut?_commentEnd_iff {following : Text} :
    cut? ['*', '/'] (body ++ following) = some (body, following) ↔
      ['*', '/'] <+: following ∧ ¬ ['*', '/'] <:+: body := by
  rw [cut?, cutWhere?_append_eq_some_iff, List.isPrefixOf_iff_prefix]
  refine and_congr_right fun hfollowing => ⟨?_, ?_⟩
  · rintro hfirst ⟨before, after, rfl⟩
    have hearlier := hfirst (['*', '/'] ++ after) ⟨before, by simp⟩ (by simp)
    rw [List.append_assoc, List.isPrefixOf_iff_prefix.mpr (List.prefix_append _ _)] at hearlier
    cases hearlier
  · intro hfree part hpart hne
    obtain ⟨more, rfl⟩ := hfollowing
    by_contra hstarts
    rw [Bool.not_eq_false, List.isPrefixOf_iff_prefix] at hstarts
    obtain ⟨c, part, rfl⟩ := List.exists_cons_of_ne_nil hne
    cases part with
    | nil => simp at hstarts
    | cons d part =>
      obtain ⟨rfl, hd⟩ := List.cons_prefix_cons.mp hstarts
      obtain ⟨rfl, -⟩ := List.cons_prefix_cons.mp hd
      exact hfree (List.IsInfix.trans ⟨[], part, rfl⟩ hpart.isInfix)

/-- What a line comment leaves is what stands from the newline on. -/
theorem dropWhile_lineBody {following : Text} (hbody : '\n' ∉ body)
    (hended : following = [] ∨ ∃ more, following = '\n' :: more) :
    (body ++ following).dropWhile (· != '\n') = following := by
  have hinside : ∀ c ∈ body, (c != '\n') = true := by
    intro c hc
    rw [bne_iff_ne]
    exact ne_of_mem_of_not_mem hc hbody
  rw [List.dropWhile_append_of_pos hinside]
  rcases hended with rfl | ⟨more, rfl⟩
  · rfl
  · exact List.dropWhile_cons_of_neg (by simp)

/-! ### Skipping -/

/-- One step looks at the code behind its white space only. -/
theorem skipTrivia_eq (code : Text) :
    skipTrivia code =
      match code.trimStart with
      | '/' :: '/' :: rest => skipTrivia (rest.dropWhile (· != '\n'))
      | '/' :: '*' :: rest =>
        match cut? ['*', '/'] rest with
        | some (_, following) => skipTrivia (following.drop 2)
        | none => []
      | trimmed => trimmed := by
  fun_cases skipTrivia code with
  | case1 rest hline => simp only [hline]
  | case2 rest hblock body following hcut => simp only [hblock, hcut]
  | case3 rest hblock hcut => simp only [hblock, hcut]
  | case4 hline hblock =>
    split
    next rest hline' => exact absurd hline' (hline rest)
    next rest hblock' => exact absurd hblock' (hblock rest)
    next => rfl

theorem skipTrivia_of_not_startsTrivia (h : ¬ StartsTrivia code) : skipTrivia code = code := by
  have htrim : code.trimStart = code := by
    cases code with
    | nil => rfl
    | cons c rest =>
      exact List.dropWhile_cons_of_neg fun hblank => h (Or.inl ⟨c, rest, rfl, hblank⟩)
  rw [skipTrivia_eq, htrim]
  split
  next rest => exact absurd (Or.inr (Or.inl ⟨rest, rfl⟩)) h
  next rest => exact absurd (Or.inr (Or.inr ⟨rest, rfl⟩)) h
  next => rfl

theorem trimStart_slash (rest : Text) : trimStart ('/' :: rest) = '/' :: rest := rfl

theorem Trivia.skipTrivia_append (h : Trivia skipped rest) :
    skipTrivia (skipped ++ rest) = skipTrivia rest := by
  induction h with
  | nil rest => rfl
  | @blank c skipped rest hblank _ ih =>
    have htrim : trimStart (c :: (skipped ++ rest)) = trimStart (skipped ++ rest) :=
      List.dropWhile_cons_of_pos hblank
    rw [List.cons_append, skipTrivia_eq, htrim, ← skipTrivia_eq, ih]
  | lineComment hbody hended _ ih =>
    rw [skipTrivia_eq]
    simp only [List.cons_append, List.append_assoc, trimStart_slash]
    rw [dropWhile_lineBody hbody hended, ih]
  | @blockComment body skipped rest hbody _ ih =>
    have hcut : cut? ['*', '/'] (body ++ '*' :: '/' :: (skipped ++ rest)) =
        some (body, '*' :: '/' :: (skipped ++ rest)) :=
      cut?_commentEnd_iff.mpr ⟨⟨skipped ++ rest, rfl⟩, hbody⟩
    rw [skipTrivia_eq]
    simp only [List.cons_append, List.append_assoc, trimStart_slash, hcut, List.drop_succ_cons,
      List.drop_zero, ih]
  | openComment hbody =>
    have hempty : ¬ StartsTrivia [] := by simp [StartsTrivia]
    rw [skipTrivia_of_not_startsTrivia hempty, skipTrivia_eq]
    simp only [List.append_nil, trimStart_slash, cut?_eq_none_iff.mpr hbody]

theorem Trivia.blanks {blanks : Text} (hblanks : ∀ c ∈ blanks, isBlank c = true)
    (h : Trivia skipped rest) : Trivia (blanks ++ skipped) rest := by
  induction blanks with
  | nil => exact h
  | cons c others ih =>
    rw [List.forall_mem_cons] at hblanks
    exact .blank hblanks.1 (ih hblanks.2)

theorem Trivia.of_trimStart (h : Trivia skipped rest) (htrim : code.trimStart = skipped ++ rest) :
    ∃ whole, code = whole ++ rest ∧ Trivia whole rest := by
  refine ⟨code.takeWhile isBlank ++ skipped, ?_, h.blanks fun c hc => List.mem_takeWhile_imp hc⟩
  rw [List.append_assoc, ← htrim]
  exact List.takeWhile_append_dropWhile.symm

theorem eq_false_of_dropWhile {test : Char → Bool} {text more : Text} {c : Char}
    (h : text.dropWhile test = c :: more) : test c = false := by
  simpa [h] using List.head?_dropWhile_not test text

theorem exists_trivia (code : Text) :
    ∃ skipped, code = skipped ++ skipTrivia code ∧ Trivia skipped (skipTrivia code) := by
  fun_induction skipTrivia code with
  | case1 code rest hline ih =>
    obtain ⟨skipped, hskipped, htrivia⟩ := ih
    have hended : rest.dropWhile (· != '\n') = [] ∨
        ∃ more, rest.dropWhile (· != '\n') = '\n' :: more := by
      cases hdrop : rest.dropWhile (· != '\n') with
      | nil => exact Or.inl rfl
      | cons c more =>
        have hc : c = '\n' := by simpa using eq_false_of_dropWhile hdrop
        exact Or.inr ⟨more, by rw [hc]⟩
    have hbody : '\n' ∉ rest.takeWhile (· != '\n') := fun hmem => by
      simpa using List.mem_takeWhile_imp hmem
    rw [hskipped] at hended
    refine (htrivia.lineComment hbody hended).of_trimStart ?_
    rw [hline, List.cons_append, List.cons_append, List.append_assoc, ← hskipped,
      List.takeWhile_append_dropWhile]
  | case2 code rest hblock body following hcut ih =>
    obtain ⟨skipped, hskipped, htrivia⟩ := ih
    obtain rfl := cutWhere?_append hcut
    obtain ⟨⟨more, rfl⟩, hbody⟩ := cut?_commentEnd_iff.mp hcut
    refine (htrivia.blockComment hbody).of_trimStart ?_
    simpa [hblock] using hskipped
  | case3 code rest hblock hcut =>
    refine (Trivia.openComment (cut?_eq_none_iff.mp hcut)).of_trimStart ?_
    rw [hblock, List.append_nil]
  | case4 code hline hblock => exact (Trivia.nil _).of_trimStart rfl

theorem not_startsTrivia_skipTrivia (code : Text) : ¬ StartsTrivia (skipTrivia code) := by
  fun_induction skipTrivia code with
  | case1 code rest hline ih => exact ih
  | case2 code rest hblock body following hcut ih => exact ih
  | case3 code rest hblock hcut => simp [StartsTrivia]
  | case4 code hline hblock =>
    rintro (⟨c, rest, htrim, hblank⟩ | ⟨rest, htrim⟩ | ⟨rest, htrim⟩)
    · rw [eq_false_of_dropWhile htrim] at hblank
      cases hblank
    · exact hline rest htrim.symm
    · exact hblock rest htrim.symm

theorem skipTrivia_eq_iff :
    skipTrivia code = rest ↔
      ∃ skipped, code = skipped ++ rest ∧ Trivia skipped rest ∧ ¬ StartsTrivia rest := by
  constructor
  · rintro rfl
    obtain ⟨skipped, hcode, htrivia⟩ := exists_trivia code
    exact ⟨skipped, hcode, htrivia, not_startsTrivia_skipTrivia code⟩
  · rintro ⟨skipped, rfl, htrivia, hstops⟩
    rw [htrivia.skipTrivia_append, skipTrivia_of_not_startsTrivia hstops]

/-- **The first statement** starts at the one offset that has only white space and comments in front
of it and neither of them behind it. -/
theorem firstStatement_eq_iff (code : Text) (offset : Nat) :
    firstStatement code = offset ↔ IsFirstStatement code offset := by
  constructor
  · rintro rfl
    obtain ⟨skipped, hcode, htrivia, hstops⟩ := skipTrivia_eq_iff.mp (Eq.refl (skipTrivia code))
    have hoffset : firstStatement code = size skipped := by
      have hsize := congrArg size hcode
      rw [size_append] at hsize
      rw [firstStatement]
      omega
    have htake : code.takeBytes (size skipped) = skipped := by
      rw [hcode]
      exact takeBytes_append_size _ _
    have hdrop : code.dropBytes (size skipped) = skipTrivia code := by
      nth_rewrite 1 [hcode]
      exact dropBytes_append_size _ _
    refine ⟨isBoundary_firstStatement code, ?_, ?_⟩
    · rwa [hoffset, htake, hdrop]
    · rwa [hoffset, hdrop]
  · rintro ⟨hboundary, htrivia, hstops⟩
    have hskip : skipTrivia code = code.dropBytes offset :=
      skipTrivia_eq_iff.mpr ⟨_, (takeBytes_append_dropBytes offset code).symm, htrivia, hstops⟩
    have hsize := congrArg size (takeBytes_append_dropBytes offset code)
    rw [size_append, isBoundary_iff.mp hboundary] at hsize
    rw [firstStatement, hskip]
    omega

end ComponentServer.Virtual
