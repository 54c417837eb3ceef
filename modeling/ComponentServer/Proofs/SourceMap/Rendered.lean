import Mathlib
import ComponentServer.SourceMap.Document

/-!
# Rendered documents are read back

A source map document in its text form is read to the same mappings. Strings come first: what a
character is escaped to is read to that character. The members of the object follow one by one, each
up to the comma or the brace behind it.
-/

namespace ComponentServer.Json

/-! ### Strings -/

theorem readParts_short {letter c : Char} {rest left : Text} {parts : List StringPart}
    (hletter : shortEscape? letter = some c) (hunit : letter ≠ 'u')
    (h : readParts rest = some (parts, left)) :
    readParts ('\\' :: letter :: rest) = some (.char c :: parts, left) := by
  rw [readParts]
  · simp [hletter, h]
  · intro a b c d tail heq
    exact absurd heq hunit

theorem readParts_plain {c : Char} {rest left : Text} {parts : List StringPart}
    (hquote : c ≠ '\x22') (hslash : c ≠ '\\') (hcontrol : ¬ c.toNat < 0x20)
    (h : readParts rest = some (parts, left)) :
    readParts (c :: rest) = some (.char c :: parts, left) := by
  rw [readParts]
  · simp [hslash, hcontrol, h]
  · exact hquote
  · intro a b c d tail heq
    exact absurd heq hslash
  · intro letter tail heq
    exact absurd heq hslash

theorem hexDigit?_digitChar {n : Nat} (h : n < 16) : hexDigit? (Nat.digitChar n) = some n := by
  revert n
  decide

theorem readParts_hex4 {n : Nat} {rest left : Text} {parts : List StringPart} (hn : n < 0x20)
    (h : readParts rest = some (parts, left)) :
    readParts ('\\' :: 'u' :: hex4 n ++ rest) = some (.unit n :: parts, left) := by
  have hhigh : n / 16 % 16 < 16 := by omega
  have hlow : n % 16 < 16 := by omega
  have hunit : unit? '0' '0' (Nat.digitChar (n / 16 % 16)) (Nat.digitChar (n % 16)) = some n := by
    have hzero : hexDigit? '0' = some 0 := by decide
    simp only [unit?, hzero, hexDigit?_digitChar hhigh, hexDigit?_digitChar hlow, bind,
      Option.bind, pure, Option.some.injEq]
    omega
  have hdigits : hex4 n =
      ['0', '0', Nat.digitChar (n / 16 % 16), Nat.digitChar (n % 16)] := by
    have hthousands : n >>> 12 % 16 = 0 := by omega
    have hhundreds : n >>> 8 % 16 = 0 := by omega
    have htens : n >>> 4 = n / 16 := by omega
    simp only [hex4, List.map_cons, List.map_nil, hthousands, hhundreds, htens,
      Nat.shiftRight_zero]
    rfl
  rw [hdigits]
  simp only [List.cons_append, List.nil_append, readParts, hunit, h]
  rfl

/-- An escaped character is read as one part, which stands for that character. -/
theorem readParts_escape (c : Char) {rest left : Text} {parts : List StringPart}
    (h : readParts rest = some (parts, left)) :
    ∃ part, readParts (escape c ++ rest) = some (part :: parts, left) ∧
      joinParts (part :: parts) = (joinParts parts).map (c :: ·) := by
  unfold escape
  split
  · next hc => exact ⟨.char c, readParts_short (by rw [hc]; decide) (by decide) h, rfl⟩
  split
  · next hc => exact ⟨.char c, readParts_short (by rw [hc]; decide) (by decide) h, rfl⟩
  split
  · next hc => exact ⟨.char c, readParts_short (by rw [hc]; decide) (by decide) h, rfl⟩
  split
  · next hc => exact ⟨.char c, readParts_short (by rw [hc]; decide) (by decide) h, rfl⟩
  split
  · next hc => exact ⟨.char c, readParts_short (by rw [hc]; decide) (by decide) h, rfl⟩
  split
  · next hc => exact ⟨.char c, readParts_short (by rw [hc]; decide) (by decide) h, rfl⟩
  split
  · next hc => exact ⟨.char c, readParts_short (by rw [hc]; decide) (by decide) h, rfl⟩
  split
  · next hcontrol =>
    refine ⟨.unit c.toNat, readParts_hex4 hcontrol h, ?_⟩
    have hlow : c.toNat < 0xD800 := Nat.lt_trans hcontrol (by decide)
    conv => lhs; unfold joinParts
    rw [if_pos (Or.inl hlow), Char.ofNat_toNat]
  · next hquote hslash _ _ _ _ _ hcontrol =>
    exact ⟨.char c, readParts_plain hquote hslash hcontrol h, rfl⟩

theorem readParts_flatMap_escape (text rest : Text) :
    ∃ parts, readParts (text.flatMap escape ++ '\x22' :: rest) = some (parts, rest) ∧
      joinParts parts = some text := by
  induction text with
  | nil => exact ⟨[], by simp [readParts], rfl⟩
  | cons c others ih =>
    obtain ⟨parts, hread, hjoin⟩ := ih
    obtain ⟨part, hpart, hjoined⟩ := readParts_escape c hread
    refine ⟨part :: parts, ?_, ?_⟩
    · rw [List.flatMap_cons, List.append_assoc, hpart]
    · rw [hjoined, hjoin, Option.map_some]

theorem readValue_quote (fuel : Nat) (text rest : Text) :
    readValue (fuel + 1) (quote text ++ rest) = some (.string (some text), rest) := by
  obtain ⟨parts, hread, hjoin⟩ := readParts_flatMap_escape text rest
  have htext : quote text ++ rest = '\x22' :: (text.flatMap escape ++ '\x22' :: rest) := by
    simp [quote]
  rw [htext, readValue, hread, ← hjoin]
  rfl

/-! ### Arrays and members -/

theorem skipSpace_cons {c : Char} (h : isSpace c = false) (rest : Text) :
    skipSpace (c :: rest) = c :: rest := by
  simp [skipSpace, h]

theorem skipSpace_quote (text rest : Text) : skipSpace (quote text ++ rest) = quote text ++ rest :=
  skipSpace_cons (by decide) _

theorem readItems_quote {texts : List Text} (hne : texts ≠ []) {fuel : Nat}
    (hfuel : texts.length < fuel) (rest : Text) :
    readItems fuel (List.intercalate [','] (texts.map quote) ++ ']' :: rest) =
      some (texts.map (.string ∘ some), rest) := by
  induction texts generalizing fuel with
  | nil => exact absurd rfl hne
  | cons text others ih =>
    obtain ⟨fuel, rfl⟩ : ∃ smaller, fuel = smaller + 2 :=
      ⟨fuel - 2, by simp only [List.length_cons] at hfuel; omega⟩
    cases others with
    | nil =>
      have htext : List.intercalate [','] ([text].map quote) = quote text := by
        simp [List.intercalate]
      rw [htext, readItems, readValue_quote]
      rfl
    | cons second more =>
      have htext : List.intercalate [','] ((text :: second :: more).map quote) ++ ']' :: rest =
          quote text ++ ',' :: (List.intercalate [','] ((second :: more).map quote) ++
            ']' :: rest) := by
        simp [List.intercalate]
      have hspace : skipSpace (List.intercalate [','] ((second :: more).map quote) ++ ']' :: rest) =
          List.intercalate [','] ((second :: more).map quote) ++ ']' :: rest := by
        cases more <;> simp [List.intercalate, quote, skipSpace, isSpace]
      have hlength : (second :: more).length < fuel + 1 := by
        simp only [List.length_cons] at hfuel ⊢
        omega
      have hothers := ih (by simp) hlength
      rw [htext, readItems, readValue_quote]
      simp only [Option.bind_eq_bind, Option.bind_some, skipSpace_cons (c := ',') (by decide),
        hspace, hothers]
      rfl

theorem readValue_texts {texts : List Text} {fuel : Nat} (hfuel : texts.length < fuel)
    (rest : Text) :
    readValue (fuel + 1) ('[' :: (List.intercalate [','] (texts.map quote) ++ ']' :: rest)) =
      some (.array (texts.map (.string ∘ some)), rest) := by
  cases texts with
  | nil => simp [readValue, List.intercalate, skipSpace, isSpace]
  | cons text others =>
    obtain ⟨tail, htail⟩ : ∃ tail,
        List.intercalate [','] ((text :: others).map quote) ++ ']' :: rest = '\x22' :: tail := by
      cases others <;> simp [List.intercalate, quote]
    have hitems := readItems_quote (List.cons_ne_nil text others) hfuel rest
    rw [htail] at hitems ⊢
    rw [readValue, skipSpace_cons (by decide)]
    simp [hitems]

theorem readValue_object {fuel : Nat} {name input left : Text} {members : List (Option Text × Json)}
    (h : readMembers fuel (quote name ++ input) = some (members, left)) :
    readValue (fuel + 1) ('\x7b' :: (quote name ++ input)) = some (.object members, left) := by
  have htext : quote name ++ input = '\x22' :: (name.flatMap escape ++ '\x22' :: input) := by
    simp [quote]
  rw [htext] at h ⊢
  rw [readValue, skipSpace_cons (by decide)]
  simp [h]

theorem readMembers_last {fuel : Nat} {name input left : Text} {value : Json}
    (hspace : skipSpace input = input) (hvalue : readValue fuel input = some (value, '\x7d' :: left)) :
    readMembers (fuel + 1) (quote name ++ ':' :: input) = some ([(some name, value)], left) := by
  obtain ⟨parts, hread, hjoin⟩ := readParts_flatMap_escape name (':' :: input)
  have htext : quote name ++ ':' :: input =
      '\x22' :: (name.flatMap escape ++ '\x22' :: ':' :: input) := by
    simp [quote]
  rw [htext, readMembers, hread]
  simp only [Option.bind_eq_bind, Option.bind_some, skipSpace_cons (c := ':') (by decide), hspace,
    hvalue, skipSpace_cons (c := '\x7d') (by decide), hjoin]
  rfl

theorem readMembers_more {fuel : Nat} (name : Text) {input more left : Text} {value : Json}
    {members : List (Option Text × Json)} (hspace : skipSpace input = input)
    (hvalue : readValue fuel input = some (value, ',' :: more)) (hmore : skipSpace more = more)
    (hmembers : readMembers fuel more = some (members, left)) :
    readMembers (fuel + 1) (quote name ++ ':' :: input) =
      some ((some name, value) :: members, left) := by
  obtain ⟨parts, hread, hjoin⟩ := readParts_flatMap_escape name (':' :: input)
  have htext : quote name ++ ':' :: input =
      '\x22' :: (name.flatMap escape ++ '\x22' :: ':' :: input) := by
    simp [quote]
  rw [htext, readMembers, hread]
  simp only [Option.bind_eq_bind, Option.bind_some, skipSpace_cons (c := ':') (by decide), hspace,
    hvalue, skipSpace_cons (c := ',') (by decide), hmore, hmembers, hjoin]
  rfl

theorem readMembers_emptyArray {fuel : Nat} (name : Text) {more left : Text}
    {members : List (Option Text × Json)} (hmore : skipSpace more = more)
    (hmembers : readMembers (fuel + 1) more = some (members, left)) :
    readMembers (fuel + 2) (quote name ++ ':' :: '[' :: ']' :: ',' :: more) =
      some ((some name, .array []) :: members, left) :=
  readMembers_more name (skipSpace_cons (by decide) _) rfl hmore hmembers

end ComponentServer.Json

namespace ComponentServer.SourceMap

open Json

/-- Four members of an object, each behind its name. -/
def fourMembers (first second third fourth value items : Text) : Text :=
  '\x7b' :: (first ++ ':' :: (value ++ ',' :: (second ++ ':' :: '[' :: ']' :: ',' ::
    (third ++ ':' :: '[' :: (items ++ ']' :: ',' :: (fourth ++ ':' :: ['3', '\x7d']))))))

theorem append_eq_fourMembers (first second third fourth value items : Text) :
    ('\x7b' :: (first ++ [':'])) ++ value ++
      (',' :: (second ++ ':' :: '[' :: ']' :: ',' :: (third ++ ':' :: ['[']))) ++ items ++
      (']' :: ',' :: (fourth ++ [':'])) ++ ['3'] ++ ['\x7d'] =
    fourMembers first second third fourth value items := by
  simp [fourMembers]

theorem Document.render_eq {document : Document} (hversion : document.version = 3) :
    document.render = fourMembers (quote "mappings".toList) (quote "names".toList)
      (quote "sources".toList) (quote "version".toList) (quote document.mappings)
      (List.intercalate [','] (document.sources.map quote)) := by
  have hmappings : "\x7b\"mappings\":".toList = '\x7b' :: (quote "mappings".toList ++ [':']) := rfl
  have hnames : ",\"names\":[],\"sources\":[".toList = ',' :: (quote "names".toList ++
      ':' :: '[' :: ']' :: ',' :: (quote "sources".toList ++ ':' :: ['['])) := rfl
  have hlast : "],\"version\":".toList = ']' :: ',' :: (quote "version".toList ++ [':']) := rfl
  have hthree : Text.ofNat 3 = ['3'] := rfl
  rw [← append_eq_fourMembers, ← hmappings, ← hnames, ← hlast, ← hthree, ← hversion]
  rfl

/-- The members that a rendered document is read to. -/
def Document.members (document : Document) : List (Option Text × Json) :=
  [(some "mappings".toList, .string (some document.mappings)), (some "names".toList, .array []),
    (some "sources".toList, .array (document.sources.map (.string ∘ some))),
    (some "version".toList, .number ['3'])]

theorem length_intercalate_quote (texts : List Text) :
    texts.length ≤ (List.intercalate [','] (texts.map quote)).length := by
  induction texts with
  | nil => simp
  | cons text others ih =>
    cases others with
    | nil => simp [List.intercalate, quote]
    | cons second more =>
      simp only [List.map_cons, List.intercalate, List.intersperse, List.flatten_cons,
        List.length_append, List.length_cons] at ih ⊢
      omega

/-- Every value inside the object is at most one level below it, so there is fuel for all. -/
theorem sources_length_le_render {document : Document} (hversion : document.version = 3) :
    document.sources.length + 6 ≤ 2 * document.render.length := by
  have hsources := length_intercalate_quote document.sources
  rw [Document.render_eq hversion, fourMembers]
  simp only [List.length_cons, List.length_append]
  omega

theorem parse?_render {document : Document} (hversion : document.version = 3) :
    Json.parse? document.render = some (.object document.members) := by
  have hlength := sources_length_le_render hversion
  obtain ⟨fuel, hfuel⟩ : ∃ fuel, 2 * document.render.length + 1 = fuel + 7 :=
    ⟨2 * document.render.length - 6, by omega⟩
  have hversionMember : readMembers (fuel + 3) (quote "version".toList ++ ':' :: ['3', '\x7d']) =
      some ([(some "version".toList, .number ['3'])], []) :=
    readMembers_last rfl rfl
  have hroom : document.sources.length < fuel + 2 := by omega
  have hsources := readMembers_more "sources".toList (skipSpace_cons (by decide) _)
    (readValue_texts hroom _) (skipSpace_quote _ _) hversionMember
  have hnames := readMembers_emptyArray "names".toList (skipSpace_quote _ _) hsources
  have hmappings := readMembers_more "mappings".toList (skipSpace_quote _ _)
    (readValue_quote (fuel + 4) document.mappings _) (skipSpace_quote _ _) hnames
  have hopened := readValue_object hmappings
  rw [Json.parse?, hfuel, Document.render_eq hversion, fourMembers, skipSpace_cons (by decide),
    hopened]
  rfl

theorem textList?_strings (texts : List Text) :
    Json.textList? (.array (texts.map (.string ∘ some))) = some texts := by
  rw [Json.textList?]
  induction texts with
  | nil => rfl
  | cons text others ih =>
    rw [List.map_cons, List.mapM_cons, ih]
    rfl

theorem ofJson?_members (document : Document) :
    Document.ofJson? (.object document.members) =
      some ⟨3, document.sources, document.mappings⟩ := by
  have hversion : Json.member? document.members "version".toList =
      some (some (.number ['3'])) := rfl
  have hsources : Json.member? document.members "sources".toList =
      some (some (.array (document.sources.map (.string ∘ some)))) := rfl
  have hmappings : Json.member? document.members "mappings".toList =
      some (some (.string (some document.mappings))) := rfl
  have hnames : document.members.any (·.1.isNone) = false := rfl
  rw [Document.ofJson?, hnames, hversion, hsources, hmappings]
  simp only [Document.ofParts?, Option.bind_eq_bind, Option.bind_some, Option.map_some,
    Option.getD_some, textList?_strings]
  rfl

/-- Reading a rendered document decodes the mappings that it was made of. -/
theorem parse_render {document : Document} (hversion : document.version = 3) :
    parse document.render = (decode document.mappings).mapError .vlq := by
  rw [parse, parse?_render hversion, Option.bind_some, ofJson?_members]
  rfl

end ComponentServer.SourceMap
