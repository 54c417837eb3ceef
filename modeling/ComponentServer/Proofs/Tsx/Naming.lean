import ComponentServer.Language
import ComponentServer.Proofs.Tsx.Emitted

/-!
# Components are declared under proper names

The name of a component keeps the characters of its file's name that an identifier may hold, and
makes the first of them a capital, so it can stand neither for a number nor for a word of the
language. In the code it stands behind the keywords of its declaration, at the start of a line and
as a whole word.
-/

namespace ComponentServer.Tsx

open Text

/-- The words that code cannot declare. -/
def reservedWords : List Text :=
  ["arguments", "await", "break", "case", "catch", "class", "const", "continue", "debugger",
    "default", "delete", "do", "else", "enum", "eval", "export", "extends", "false", "finally",
    "for", "function", "if", "implements", "import", "in", "instanceof", "interface", "let", "new",
    "null", "package", "private", "protected", "public", "return", "static", "super", "switch",
    "this", "throw", "true", "try", "typeof", "var", "void", "while", "with",
    "yield"].map String.toList

/-- ASCII letters, digits, `_` and `$`, the first of them neither a digit nor a small letter. -/
structure IsComponentName (name : Text) : Prop where
  characters : ∀ c ∈ name, c.isAlphanum = true ∨ c = '_' ∨ c = '$'
  first : ∃ c rest, name = c :: rest ∧ c.isDigit = false ∧ c.isLower = false

/-- A name that code can declare. -/
structure IsIdentifier (name : Text) : Prop where
  characters : ∀ c ∈ name, inIdentifier c = true
  first : ∃ c rest, name = c :: rest ∧ c.isDigit = false
  unreserved : name ∉ reservedWords

/-- What follows the text starts a line. -/
def WholeLines (text : Text) : Prop := text = [] ∨ ∃ front, text = front ++ ['\n']

/-- The code declares the name: at the start of a line stand the keywords, and the word that follows
them is the name. -/
structure Declares (keywords name code : Text) : Prop where
  identifier : IsIdentifier name
  stands : ∃ lines following, WholeLines lines ∧ code = lines ++ keywords ++ following ∧
    following.takeWhile inIdentifier = name

/-! ### Names -/

theorem inIdentifier_iff {c : Char} :
    inIdentifier c = true ↔ c.isAlphanum = true ∨ c = '_' ∨ c = '$' := by
  simp [inIdentifier, or_assoc]

theorem isLower_of_mem_reservedWords :
    ∀ word ∈ reservedWords, ∀ c ∈ word.head?, c.isLower = true := by
  simp [reservedWords]

theorem IsComponentName.isIdentifier {name : Text} (h : IsComponentName name) :
    IsIdentifier name := by
  obtain ⟨c, rest, rfl, hdigit, hlower⟩ := h.first
  refine ⟨fun d hd => inIdentifier_iff.mpr (h.characters d hd), ⟨c, rest, rfl, hdigit⟩, ?_⟩
  intro hmem
  rw [isLower_of_mem_reservedWords _ hmem c rfl] at hlower
  cases hlower

theorem IsComponentName.append {name : Text} (h : IsComponentName name) {more : Text}
    (hmore : ∀ c ∈ more, inIdentifier c = true) : IsComponentName (name ++ more) := by
  obtain ⟨c, rest, rfl, hfirst⟩ := h.first
  refine ⟨fun d hd => ?_, ⟨c, rest ++ more, rfl, hfirst⟩⟩
  rcases List.mem_append.mp hd with hd | hd
  · exact h.characters d hd
  · exact inIdentifier_iff.mp (hmore d hd)

theorem inIdentifier_toUpper {c : Char} (h : inIdentifier c = true) :
    inIdentifier c.toUpper = true := by
  by_cases hlower : c.isLower = true
  · simp [inIdentifier_iff, Char.isAlphanum, Char.isAlpha, hlower]
  · rwa [Char.toUpper_eq_of_not_isLower hlower]

theorem inIdentifier_of_mem_capitalize {inRun : Bool} {text : Text} :
    ∀ c ∈ capitalize inRun text, inIdentifier c = true := by
  fun_induction capitalize inRun text with
  | case1 => simp
  | case2 inRun c rest hc ih =>
    refine List.forall_mem_cons.mpr ⟨?_, ih⟩
    split
    · exact hc
    · exact inIdentifier_toUpper hc
  | case3 inRun c rest hc ih => exact ih

theorem isLower_head_capitalize {text rest : Text} {c : Char}
    (h : capitalize false text = c :: rest) : c.isLower = false := by
  induction text with
  | nil => cases h
  | cons d text ih =>
    rw [capitalize] at h
    split at h
    · simp only [Bool.false_eq_true, if_false, List.cons.injEq] at h
      rw [← h.1, Char.isLower_toUpper_eq_false]
    · exact ih h

theorem lower_capitalize (inRun : Bool) (text : Text) :
    lower (capitalize inRun text) = lower (text.filter inIdentifier) := by
  fun_induction capitalize inRun text with
  | case1 => rfl
  | case2 inRun c rest hc ih =>
    rw [List.filter_cons_of_pos hc]
    simp only [lower, List.map_cons] at ih ⊢
    rw [ih]
    split <;> simp
  | case3 inRun c rest hc ih => rw [List.filter_cons_of_neg (by simpa using hc), ih]

theorem isComponentName_default : IsComponentName "Component".toList :=
  ⟨by simp, 'C', "omponent".toList, by simp, rfl, rfl⟩

/-- The word in front, if any, and the file's own name. -/
theorem componentName_cases (fileName : Text) :
    (∃ c rest, capitalize false (stem fileName) = c :: rest ∧ c.isDigit = false ∧
      componentName fileName = capitalize false (stem fileName)) ∨
    componentName fileName = "Component".toList ++ capitalize false (stem fileName) := by
  simp only [componentName]
  split
  next hnil => exact Or.inr (by rw [hnil, List.append_nil])
  next c rest hname =>
    split
    next => exact Or.inr rfl
    next hdigit => exact Or.inl ⟨c, rest, hname, by simpa using hdigit, rfl⟩

theorem isComponentName_componentName (fileName : Text) :
    IsComponentName (componentName fileName) := by
  rcases componentName_cases fileName with ⟨c, rest, hname, hdigit, heq⟩ | heq
  · rw [heq]
    exact ⟨fun d hd => inIdentifier_iff.mp (inIdentifier_of_mem_capitalize d hd),
      ⟨c, rest, hname, hdigit, isLower_head_capitalize hname⟩⟩
  · rw [heq]
    exact isComponentName_default.append inIdentifier_of_mem_capitalize

/-! ### Declarations -/

theorem WholeLines.append {front back : Text} (hfront : WholeLines front)
    (hback : WholeLines back) : WholeLines (front ++ back) := by
  rcases hback with rfl | ⟨lines, rfl⟩
  · rwa [List.append_nil]
  · exact Or.inr ⟨front ++ lines, by rw [List.append_assoc]⟩

theorem Parts.wholeLines_frontmatterPieces (parts : Parts) (source : Text) :
    WholeLines (Piece.code (parts.frontmatterPieces source)) := by
  rw [frontmatterPieces]
  split
  next body _ => exact Or.inr ⟨source.slice body, by simp [Piece.code, Piece.text, Piece.copy]⟩
  next => exact Or.inl rfl

theorem Parts.wholeLines_scriptPieces (parts : Parts) (inlineAttributes : List Text) :
    WholeLines (Piece.code (parts.scriptPieces inlineAttributes)) := by
  rw [code_scriptPieces]
  induction parts.blocks with
  | nil => exact Or.inl rfl
  | cons block others ih =>
    rw [List.flatMap_cons]
    refine WholeLines.append ?_ ih
    rw [scriptCode]
    split
    · exact Or.inr ⟨block.content, rfl⟩
    · exact Or.inl rfl

/-- A character that no identifier holds ends the name. -/
theorem declares_append {name lines : Text} {c : Char} (hname : IsComponentName name)
    (hc : inIdentifier c = false) (hlines : WholeLines lines) (keywords following : Text) :
    Declares keywords name (lines ++ keywords ++ (name ++ c :: following)) := by
  refine ⟨hname.isIdentifier, lines, _, hlines, rfl, ?_⟩
  rw [List.takeWhile_append_of_pos hname.isIdentifier.characters,
    List.takeWhile_cons_of_neg (by simp [hc]), List.append_nil]

theorem Parts.exists_opening_eq (fileName : Text) :
    ∃ following, opening fileName = "export default function ".toList ++
      (componentName fileName ++ "__AstroComponent_".toList ++ '(' :: following) := by
  have hsuffix : ∃ following : Text,
      "__AstroComponent_(_props: Record<string, any>): any \x7b\nreturn <Fragment>\n".toList =
        "__AstroComponent_".toList ++ '(' :: following :=
    ⟨"_props: Record<string, any>): any \x7b\nreturn <Fragment>\n".toList, rfl⟩
  obtain ⟨following, hsplit⟩ := hsuffix
  refine ⟨following, ?_⟩
  unfold opening
  rw [hsplit]
  simp only [List.append_assoc]

theorem declares_compile (inlineAttributes : List Text) (source fileName : Text) :
    Declares "export default function ".toList
      (componentName fileName ++ "__AstroComponent_".toList)
      (compile inlineAttributes source fileName).code := by
  obtain ⟨following, hopening⟩ := Parts.exists_opening_eq fileName
  have hmore : ∀ c ∈ "__AstroComponent_".toList, inIdentifier c = true := by simp [inIdentifier]
  have hlines := ((Parts.of source).wholeLines_frontmatterPieces source).append
    ((Parts.of source).wholeLines_scriptPieces inlineAttributes)
  have hcode : (compile inlineAttributes source fileName).code =
      Piece.code ((Parts.of source).frontmatterPieces source) ++
        Piece.code ((Parts.of source).scriptPieces inlineAttributes) ++ Parts.opening fileName ++
          Piece.code (Piece.ofNodes source (Parts.of source).tree.children ++
            [.made Parts.ending]) := by
    simp [compile, Parts.pieces, Piece.code, Piece.text]
  have hparenthesis : inIdentifier '(' = false := rfl
  have hdeclares := declares_append
    ((isComponentName_componentName fileName).append hmore) hparenthesis hlines
    "export default function ".toList
    (following ++ Piece.code (Piece.ofNodes source (Parts.of source).tree.children ++
      [.made Parts.ending]))
  rw [hcode, hopening]
  simpa only [List.append_assoc, List.cons_append] using hdeclares

theorem declares_anyProps (source fileName : Text) :
    Declares "export default class ".toList (componentName fileName)
      (Integration.anyProps source (componentName fileName)) := by
  have hbody : ∃ following : Text,
      " \x7b\n    constructor(_props: Record<string, any>) \x7b\x7d\n\x7d\n".toList =
        ' ' :: following :=
    ⟨"\x7b\n    constructor(_props: Record<string, any>) \x7b\x7d\n\x7d\n".toList, rfl⟩
  obtain ⟨following, hsplit⟩ := hbody
  have hblank : inIdentifier ' ' = false := rfl
  unfold Integration.anyProps
  rw [hsplit, List.append_assoc]
  exact declares_append (isComponentName_componentName fileName) hblank (Or.inl rfl) _ following

/-- **Components are declared under proper names.** The name of a component is made of the
characters of its file's name that identifiers may hold, perhaps with a word in front, and it is an
identifier that starts with no small letter. Both declarations that it is written into declare an
identifier. -/
theorem declares_componentName (fileName : Text) :
    IsComponentName (componentName fileName) ∧
    (∃ word, (word = [] ∨ word = "Component".toList) ∧
      lower (componentName fileName) = lower (word ++ (stem fileName).filter inIdentifier)) ∧
    (∀ inlineAttributes source, Declares "export default function ".toList
      (componentName fileName ++ "__AstroComponent_".toList)
      (compile inlineAttributes source fileName).code) ∧
    ∀ source, Declares "export default class ".toList (componentName fileName)
      (Integration.anyProps source (componentName fileName)) := by
  refine ⟨isComponentName_componentName fileName, ?_,
    fun inlineAttributes source => declares_compile inlineAttributes source fileName,
    fun source => declares_anyProps source fileName⟩
  have hletters := lower_capitalize false (stem fileName)
  rcases componentName_cases fileName with ⟨_, _, _, _, heq⟩ | heq
  · exact ⟨[], Or.inl rfl, by rw [heq, hletters, List.nil_append]⟩
  · refine ⟨"Component".toList, Or.inr rfl, ?_⟩
    rw [heq]
    simp only [lower, List.map_append] at hletters ⊢
    rw [hletters]

end ComponentServer.Tsx
