import Mathlib
import ComponentServer.Text.Basic

/-!
# Cutting in front of a needle

A text is cut at the first place where a test holds of what follows. Testing for a needle looks at no
more than the needle's length, so what follows the needle that was found can be exchanged. If the
needle starts with a character that it holds nowhere else, then what stands in front of it can be
exchanged too, as long as the needle is not in there.
-/

namespace ComponentServer.Text

variable {test : Text → Bool} {before after : Text}

theorem cutWhere?_append_eq_some_iff :
    cutWhere? test (before ++ after) = some (before, after) ↔
      test after = true ∧ ∀ part, part <:+ before → part ≠ [] → test (part ++ after) = false := by
  induction before with
  | nil =>
    have hhere : cutWhere? test after = some ([], after) ↔ test after = true := by
      cases after with
      | nil => simp [cutWhere?]
      | cons c rest => by_cases htest : test (c :: rest) = true <;> simp [cutWhere?, htest]
    rw [List.nil_append, hhere, and_iff_left]
    intro part hpart hne
    exact absurd (List.suffix_nil.mp hpart) hne
  | cons c rest ih =>
    have hstep : cutWhere? test (c :: rest ++ after) = some (c :: rest, after) ↔
        test (c :: rest ++ after) = false ∧
          cutWhere? test (rest ++ after) = some (rest, after) := by
      rw [List.cons_append, cutWhere?]
      by_cases htest : test (c :: (rest ++ after)) = true
      · simp [htest]
      · simp [htest, Prod.ext_iff]
    rw [hstep, ih]
    constructor
    · rintro ⟨hhere, htest, hlater⟩
      refine ⟨htest, fun part hpart hne => ?_⟩
      rcases List.suffix_cons_iff.mp hpart with rfl | hpart
      · exact hhere
      · exact hlater part hpart hne
    · rintro ⟨htest, hall⟩
      refine ⟨hall _ (List.suffix_refl _) (by simp), htest, fun part hpart hne => ?_⟩
      exact hall part (hpart.trans (List.suffix_cons c rest)) hne

theorem cutWhere?_eq_none_iff {text : Text} :
    cutWhere? test text = none ↔ ∀ part, part <:+ text → test part = false := by
  induction text with
  | nil => simp [cutWhere?]
  | cons c rest ih =>
    rw [cutWhere?]
    by_cases htest : test (c :: rest) = true
    · simp only [htest, if_true, reduceCtorEq, false_iff]
      intro hnone
      rw [hnone _ (List.suffix_refl _)] at htest
      cases htest
    · simp [htest, ih, List.suffix_cons_iff]

/-! ### Needles -/

theorem isPrefixOf_append_congr {needle part : Text} (h : needle.length ≤ part.length)
    (left right : Text) : needle.isPrefixOf (part ++ left) = needle.isPrefixOf (part ++ right) := by
  induction needle generalizing part with
  | nil => simp
  | cons c needle ih =>
    cases part with
    | nil => simp at h
    | cons d part => simp [List.isPrefixOf, ih (by simpa using h)]

theorem startsIgnoringCase_append_congr {needle part : Text} (h : needle.length ≤ part.length)
    (left right : Text) :
    startsIgnoringCase needle (part ++ left) = startsIgnoringCase needle (part ++ right) := by
  induction needle generalizing part with
  | nil => simp [startsIgnoringCase]
  | cons c needle ih =>
    cases part with
    | nil => simp at h
    | cons d part => simp [startsIgnoringCase, ih (by simpa using h)]

/-- Where the needle is found, what follows it can be exchanged. -/
theorem cut?_append {needle text : Text} (h : cut? needle text = some (before, after))
    (other : Text) :
    cut? needle (before ++ (needle ++ other)) = some (before, needle ++ other) := by
  obtain rfl := cutWhere?_append h
  rw [cut?, cutWhere?_append_eq_some_iff] at h ⊢
  obtain ⟨following, rfl⟩ := List.isPrefixOf_iff_prefix.mp h.1
  refine ⟨by simp, fun part hpart hne => ?_⟩
  rw [← h.2 part hpart hne, ← List.append_assoc, ← List.append_assoc]
  exact isPrefixOf_append_congr (by simp) other following

theorem cutIgnoringCase?_append {needle found following : Text}
    (h : cutIgnoringCase? needle (before ++ (found ++ following)) =
      some (before, found ++ following))
    (hfound : needle.length ≤ found.length) (other : Text) :
    cutIgnoringCase? needle (before ++ (found ++ other)) = some (before, found ++ other) := by
  rw [cutIgnoringCase?, cutWhere?_append_eq_some_iff] at h ⊢
  refine ⟨?_, fun part hpart hne => ?_⟩
  · rw [← h.1]
    exact startsIgnoringCase_append_congr hfound other following
  · rw [← h.2 part hpart hne, ← List.append_assoc, ← List.append_assoc]
    exact startsIgnoringCase_append_congr (by simp; omega) other following

theorem equalsIgnoringCase_iff {left right : Text} :
    left.equalsIgnoringCase right = true ↔ lower left = lower right := by
  simp [equalsIgnoringCase]

theorem startsIgnoringCase_iff {needle text : Text} :
    startsIgnoringCase needle text = true ↔
      ∃ part following, text = part ++ following ∧ lower part = lower needle := by
  induction needle generalizing text with
  | nil =>
    simp only [startsIgnoringCase, true_iff]
    exact ⟨[], text, rfl, rfl⟩
  | cons n needle ih =>
    cases text with
    | nil => simp [startsIgnoringCase, lower]
    | cons c text =>
      rw [startsIgnoringCase, Bool.and_eq_true, beq_iff_eq, ih]
      constructor
      · rintro ⟨hchar, part, following, rfl, hpart⟩
        exact ⟨c :: part, following, rfl, by simpa [lower, hchar] using hpart⟩
      · rintro ⟨part, following, htext, hpart⟩
        cases part with
        | nil => simp [lower] at hpart
        | cons d part =>
          cases htext
          simp only [lower, List.map_cons, List.cons.injEq] at hpart
          exact ⟨hpart.1.symm, part, following, rfl, hpart.2⟩

/-- Only letters have another case. -/
theorem toLower_eq_iff {c d : Char} (hd : d.isAlpha = false) : c.toLower = d ↔ c = d := by
  have hkept : ∀ {e : Char}, e.isAlpha = false → e.toLower = e := by
    intro e he
    refine Char.toLower_eq_of_not_isUpper ?_
    simp only [Char.isAlpha, Bool.or_eq_false_iff] at he
    simp [he.1]
  constructor
  · intro h
    have hc : c.isAlpha = false := by rw [← Char.isAlpha_toLower_eq_isAlpha, h, hd]
    rw [← h, hkept hc]
  · rintro rfl
    exact hkept hd

theorem mem_lower_iff {c : Char} (hc : c.isAlpha = false) {text : Text} :
    c ∈ lower text ↔ c ∈ text := by
  simp [lower, List.mem_map, toLower_eq_iff hc]

/-- The needle does not occur in the text, whatever the case of its letters. -/
def FreeOf (needle text : Text) : Prop :=
  ∀ part : Text, part <:+: text → part.equalsIgnoringCase needle = false

theorem FreeOf.congr {needle needle' text : Text} (h : FreeOf needle text)
    (hsame : lower needle = lower needle') : FreeOf needle' text := by
  intro part hpart
  have hfree := h part hpart
  rwa [equalsIgnoringCase, hsame, ← equalsIgnoringCase] at hfree

theorem FreeOf.lower_ne {needle text part : Text} (h : FreeOf needle text) (hpart : part <:+: text) :
    lower part ≠ lower needle := by
  have hfree := h part hpart
  rwa [← Bool.not_eq_true, equalsIgnoringCase_iff] at hfree

theorem freeOf_iff {needle text : Text} :
    FreeOf needle text ↔ cutIgnoringCase? needle text = none := by
  rw [cutIgnoringCase?, cutWhere?_eq_none_iff]
  constructor
  · intro hfree rest hrest
    by_contra hstarts
    rw [Bool.not_eq_false, startsIgnoringCase_iff] at hstarts
    obtain ⟨found, following, rfl, hfound⟩ := hstarts
    exact hfree.lower_ne ((List.prefix_append found following).isInfix.trans hrest.isInfix) hfound
  · rintro hnone part ⟨front, back, rfl⟩
    have hstarts := hnone (part ++ back) ⟨front, by simp⟩
    rw [← Bool.not_eq_true, startsIgnoringCase_iff] at hstarts
    rw [← Bool.not_eq_true, equalsIgnoringCase_iff]
    exact fun hequal => hstarts ⟨part, back, rfl, hequal⟩

/-- In front of its first occurrence there is no needle. -/
theorem freeOf_of_cutIgnoringCase? {needle text : Text} (hneedle : needle ≠ [])
    (h : cutIgnoringCase? needle text = some (before, after)) : FreeOf needle before := by
  obtain rfl := cutWhere?_append h
  rw [cutIgnoringCase?, cutWhere?_append_eq_some_iff] at h
  rintro part ⟨front, back, rfl⟩
  rw [← Bool.not_eq_true, equalsIgnoringCase_iff]
  intro hequal
  have hne : part ≠ [] := by
    rintro rfl
    exact hneedle (List.map_eq_nil_iff.mp hequal.symm)
  have hfalse := h.2 (part ++ back) ⟨front, by simp⟩ (by simp [hne])
  rw [← Bool.not_eq_true, startsIgnoringCase_iff] at hfalse
  exact hfalse ⟨part, back ++ after, by simp, hequal⟩

instance (needle text : Text) : Decidable (FreeOf needle text) :=
  decidable_of_iff _ freeOf_iff.symm

/-- In front of a needle that starts with its only `<`, any text can stand in which the needle does
not occur. -/
theorem FreeOf.cutIgnoringCase?_append {needle back content : Text}
    (hfree : FreeOf ('<' :: needle) content) (hneedle : '<' ∉ needle)
    (hback : startsIgnoringCase ('<' :: needle) back = true) :
    cutIgnoringCase? ('<' :: needle) (content ++ back) = some (content, back) := by
  rw [cutIgnoringCase?, cutWhere?_append_eq_some_iff]
  refine ⟨hback, fun part hpart hne => ?_⟩
  by_contra hstarts
  rw [Bool.not_eq_false, startsIgnoringCase_iff] at hstarts
  obtain ⟨found, following, hsplit, hfound⟩ := hstarts
  obtain ⟨front, rfl⟩ := hpart
  rcases List.append_eq_append_iff.mp hsplit with ⟨beyond, rfl, hrest⟩ | ⟨inside, rfl, -⟩
  · cases beyond with
    | nil => exact hfree.lower_ne ⟨front, [], by simp⟩ hfound
    | cons d beyond =>
      -- The needle would go on with the `<` that follows the content.
      rw [hrest, List.cons_append, startsIgnoringCase, Bool.and_eq_true, beq_iff_eq] at hback
      have hd : d = '<' := (toLower_eq_iff (by decide)).mp hback.1.symm
      obtain ⟨e, part, rfl⟩ := List.exists_cons_of_ne_nil hne
      simp only [lower, List.cons_append, List.map_cons, List.cons.injEq] at hfound
      refine hneedle ((mem_lower_iff (by decide)).mp ?_)
      rw [lower, ← hfound.2, ← lower, mem_lower_iff (by decide), hd]
      simp
  · exact hfree.lower_ne ⟨front, inside, by simp⟩ hfound

end ComponentServer.Text
