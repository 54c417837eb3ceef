/-!
Text and the spans in it. A text is a list of characters; every offset counts the bytes of its
UTF-8 form, and every column counts UTF-16 code units.
-/

namespace ComponentServer

abbrev Text := List Char

/-- A half-open stretch of byte offsets; a span with `stop ≤ start` holds no offset. -/
structure Span where
  start : Nat
  stop : Nat
deriving DecidableEq, Repr, Inhabited

namespace Span

def length (span : Span) : Nat := span.stop - span.start

def isEmpty (span : Span) : Bool := !(decide (span.start < span.stop))

def shift (span : Span) (amount : Nat) : Span :=
  ⟨span.start + amount, span.stop + amount⟩

end Span

/-- The number of UTF-16 code units of a character. -/
def units16 (c : Char) : Nat := if c.toNat < 0x10000 then 1 else 2

namespace Text

/-- The length of the text in bytes. -/
def size (text : Text) : Nat := text.foldr (fun c rest => c.utf8Size + rest) 0

/-- The length of the text in UTF-16 code units. -/
def width (text : Text) : Nat := text.foldr (fun c rest => units16 c + rest) 0

/-- What is left after the characters that start before byte `count`. -/
def dropBytes : Nat → Text → Text
  | _, [] => []
  | 0, text => text
  | count, c :: rest => dropBytes (count - c.utf8Size) rest

/-- The characters that start before byte `count`. -/
def takeBytes : Nat → Text → Text
  | _, [] => []
  | 0, _ => []
  | count, c :: rest => c :: takeBytes (count - c.utf8Size) rest

def slice (text : Text) (span : Span) : Text :=
  takeBytes span.length (dropBytes span.start text)

/-- The last character boundary at or before `offset`. -/
def floorBoundary : Text → Nat → Nat
  | [], _ => 0
  | c :: rest, offset =>
    if offset < c.utf8Size then 0 else c.utf8Size + floorBoundary rest (offset - c.utf8Size)

/-- Whether a character starts or the text ends at the offset. -/
def onBoundary (text : Text) (offset : Nat) : Bool := text.floorBoundary offset == offset

/-- The slice, unless it runs backwards or cuts a character in two. -/
def get? (text : Text) (span : Span) : Option Text :=
  if decide (span.start ≤ span.stop) && text.onBoundary span.start && text.onBoundary span.stop then
    some (text.slice span)
  else none

/-- Splits the text in front of the first place where the test holds of what follows. -/
def cutWhere? (test : Text → Bool) : Text → Option (Text × Text)
  | [] => if test [] then some ([], []) else none
  | c :: rest =>
    if test (c :: rest) then some ([], c :: rest)
    else (cutWhere? test rest).map fun halves => (c :: halves.1, halves.2)

/-- Splits the text in front of the first occurrence of `needle`. -/
def cut? (needle text : Text) : Option (Text × Text) :=
  cutWhere? (needle.isPrefixOf ·) text

/-- Splits the text behind the first `mark`, or at its end when there is none. -/
def splitThrough (mark : Char) : Text → Text × Text
  | [] => ([], [])
  | c :: rest =>
    if c = mark then ([c], rest)
    else
      let halves := splitThrough mark rest
      (c :: halves.1, halves.2)

/-- Lower case of the ASCII letters; every other character is kept. -/
def lower (text : Text) : Text := text.map Char.toLower

def equalsIgnoringCase (left right : Text) : Bool := lower left == lower right

/-- Whether the text starts with `needle`, letters compared without case. -/
def startsIgnoringCase : Text → Text → Bool
  | [], _ => true
  | _ :: _, [] => false
  | n :: needle, c :: text => n.toLower == c.toLower && startsIgnoringCase needle text

/-- Splits the text in front of the first occurrence of `needle`, letters compared without case. -/
def cutIgnoringCase? (needle text : Text) : Option (Text × Text) :=
  cutWhere? (startsIgnoringCase needle ·) text

/-- The decimal digits of a number. -/
def ofNat (n : Nat) : Text := Nat.toDigits 10 n

/-- Splits at every `mark`. -/
def splitAt (mark : Char) : Text → List Text
  | [] => [[]]
  | c :: rest =>
    if c = mark then [] :: splitAt mark rest
    else
      match splitAt mark rest with
      | [] => [[c]]
      | part :: others => (c :: part) :: others

theorem splitThrough_append (mark : Char) (text : Text) :
    (splitThrough mark text).1 ++ (splitThrough mark text).2 = text := by
  induction text with
  | nil => rfl
  | cons c rest ih => by_cases h : c = mark <;> simp [splitThrough, h, ih]

theorem cutWhere?_append {test : Text → Bool} {text before after : Text}
    (h : cutWhere? test text = some (before, after)) : before ++ after = text := by
  induction text generalizing before with
  | nil =>
    by_cases ht : test [] = true <;> simp [cutWhere?, ht] at h
    simp [h.1, h.2]
  | cons c rest ih =>
    by_cases ht : test (c :: rest) = true
    · simp only [cutWhere?, ht, if_true, Option.some.injEq, Prod.mk.injEq] at h
      simp [← h.1, ← h.2]
    · simp only [cutWhere?, ht] at h
      obtain ⟨halves, hcut, heq⟩ := Option.map_eq_some_iff.1 h
      injection heq with hbefore hafter
      subst hbefore hafter
      simpa using ih hcut

theorem length_cutWhere?_le {test : Text → Bool} {text before after : Text}
    (h : cutWhere? test text = some (before, after)) : after.length ≤ text.length := by
  have hlength := congrArg List.length (cutWhere?_append h)
  simp only [List.length_append] at hlength
  omega

end Text

end ComponentServer
