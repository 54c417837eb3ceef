import ComponentServer.Mapping.Segment

/-!
Offset mappings. A mapping answers in both directions: an offset goes through the segment that holds
it. A segment that ends at the offset is taken when none holds it, so that a cursor behind the last
mapped character still has a place, and an empty segment only when neither is there.
-/

namespace ComponentServer

/-- Segments in the order of both texts, empty ones first where several start together. -/
structure OffsetMapping where
  bySource : List Segment
  byGenerated : List Segment
deriving DecidableEq, Repr

namespace OffsetMapping

/-- The order of segments on one side. -/
def startsBefore (side : Side) (left right : Segment) : Bool :=
  let l := side.span left
  let r := side.span right
  decide (l.start < r.start) || (l.start == r.start && (l.isEmpty || !r.isEmpty))

def ofSegments (segments : List Segment) : OffsetMapping :=
  let bySource := segments.mergeSort (startsBefore .source)
  ⟨bySource, bySource.mergeSort (startsBefore .generated)⟩

/-- A stretch of the document tied to the whole of a generated text. -/
def identity (source : Span) (capabilities : Capabilities) : OffsetMapping :=
  ofSegments [.ofLength source.start 0 source.length capabilities]

def segments (mapping : OffsetMapping) : List Segment := mapping.bySource

def ordered (mapping : OffsetMapping) : Side → List Segment
  | .source => mapping.bySource
  | .generated => mapping.byGenerated

/-- Goes through segments from the last one that starts at or before the offset backwards. Empty
segments never end the search; a segment that ends before the offset does. -/
def pick (side : Side) (wanted : Option Capability) (offset : Nat) (fallback : Option Segment) :
    List Segment → Option Segment
  | [] => fallback
  | segment :: earlier =>
    let span := side.span segment
    let admitted := segment.capabilities.admits wanted
    if span.isEmpty then
      if span.start = offset ∧ fallback.isNone ∧ admitted then
        pick side wanted offset (some segment) earlier
      else pick side wanted offset fallback earlier
    else if span.stop < offset then fallback
    else if !admitted then pick side wanted offset fallback earlier
    else if offset < span.stop then some segment
    else if fallback.all fun found => (side.span found).isEmpty then
      pick side wanted offset (some segment) earlier
    else pick side wanted offset fallback earlier

/-- The segment that an offset on one side goes through. -/
def find? (mapping : OffsetMapping) (side : Side) (wanted : Option Capability) (offset : Nat) :
    Option Segment :=
  let candidates := (mapping.ordered side).takeWhile fun segment =>
    decide ((side.span segment).start ≤ offset)
  pick side wanted offset none candidates.reverse

/-- The offset on the other side. -/
def across? (mapping : OffsetMapping) (side : Side) (wanted : Option Capability) (offset : Nat) :
    Option Nat :=
  (mapping.find? side wanted offset).map fun segment =>
    interpolate offset (side.span segment) (side.other.span segment)

def toGenerated? (mapping : OffsetMapping) (wanted : Option Capability) (offset : Nat) :
    Option Nat :=
  mapping.across? .source wanted offset

def toSource? (mapping : OffsetMapping) (wanted : Option Capability) (offset : Nat) : Option Nat :=
  mapping.across? .generated wanted offset

/-- A span on the other side; both ends need a place there. -/
def spanAcross? (mapping : OffsetMapping) (side : Side) (wanted : Option Capability) (span : Span) :
    Option Span := do
  let start ← mapping.across? side wanted span.start
  let stop ← mapping.across? side wanted span.stop
  return ⟨start, max stop start⟩

end OffsetMapping

end ComponentServer
