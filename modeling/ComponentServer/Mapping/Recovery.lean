import ComponentServer.Mapping.Segment
import ComponentServer.SourceMap.Mappings
import ComponentServer.Text.LineIndex

/-!
Recovering segments from a source map. A mark that points into the source begins a stretch, which
the next mark ends. The stretch is kept as far as the two texts agree, so that a segment never ties
different text together; stretches that follow each other on both sides become one segment.
-/

namespace ComponentServer.Recovery

open SourceMap

/-- The byte length of the longest common beginning of two texts within `limit` bytes. -/
def agreement (limit : Nat) : Text → Text → Nat
  | a :: left, b :: right =>
    if a = b ∧ a.utf8Size ≤ limit then
      a.utf8Size + agreement (limit - a.utf8Size) left right
    else 0
  | _, _ => 0

/-- Adds a stretch behind the last segment, or to it when it goes on there on both sides. -/
def extend (segments : List Segment) (source generated length : Nat) : List Segment :=
  match segments.getLast? with
  | some last =>
    if last.source.stop = source ∧ last.generated.stop = generated then
      segments.dropLast ++ [{ last with
        source := ⟨last.source.start, source + length⟩
        generated := ⟨last.generated.start, generated + length⟩ }]
    else segments ++ [.ofLength source generated length .unformattable]
  | none => [.ofLength source generated length .unformattable]

/-- The segments so far, and the offsets in generated text and source of the stretch in progress. -/
structure State where
  segments : List Segment
  current : Option (Nat × Nat)

/-- Ends the stretch in progress in front of offset `stop` of the generated text. -/
def State.settle (source generated : Text) (state : State) (stop : Nat) : List Segment :=
  match state.current with
  | none => state.segments
  | some (generatedStart, sourceStart) =>
    let length := agreement (stop - generatedStart) (source.dropBytes sourceStart)
      (generated.dropBytes generatedStart)
    if length = 0 then state.segments
    else extend state.segments sourceStart generatedStart length

/-- Takes in a mark of a generated line. A mark behind the text forgets the stretch in progress. -/
def State.add (source generated : Text) (state : State) (line : Nat) (mark : Mark) : State :=
  match generated.offsetAt? ⟨line, mark.column⟩ with
  | none => { state with current := none }
  | some offset =>
    { segments := state.settle source generated offset
      current := do
        let point ← mark.point
        let start ← source.offsetAt? ⟨point.line, point.column⟩
        return (offset, start) }

/-- Takes in the marks of lines that follow each other from `line` on. -/
def State.addLines (source generated : Text) (state : State) (line : Nat) : Mappings → State
  | [] => state
  | marks :: others =>
    State.addLines source generated
      (marks.foldl (fun state mark => state.add source generated line mark) state) (line + 1) others

/-- The segments of a source map; a stretch that no mark ends is dropped. -/
def segments (source generated : Text) (mappings : Mappings) : List Segment :=
  (State.addLines source generated ⟨[], none⟩ 0 mappings).segments

end ComponentServer.Recovery
