import ComponentServer.Text.Basic

/-!
Mapping segments: a stretch of a document tied to a stretch of a generated text, and what may be
done through it.
-/

namespace ComponentServer

/-- What a feature wants from a mapping. -/
inductive Capability where
  | completion
  | diagnostics
  | semantic
  | rename
  | format
  | navigation
deriving DecidableEq, Repr

/-- The features that may go through a segment. -/
structure Capabilities where
  completion : Bool
  diagnostics : Bool
  semantic : Bool
  rename : Bool
  format : Bool
  navigation : Bool
deriving DecidableEq, Repr

namespace Capabilities

def all : Capabilities := ⟨true, true, true, true, true, true⟩

/-- All but formatting, for code that stands among generated code. -/
def unformattable : Capabilities := { all with format := false }

def diagnosticsOnly : Capabilities := ⟨false, true, false, false, false, false⟩

def supports (capabilities : Capabilities) : Capability → Bool
  | .completion => capabilities.completion
  | .diagnostics => capabilities.diagnostics
  | .semantic => capabilities.semantic
  | .rename => capabilities.rename
  | .format => capabilities.format
  | .navigation => capabilities.navigation

/-- Whether the wanted capability is supported; nothing wanted is always supported. -/
def admits (capabilities : Capabilities) (wanted : Option Capability) : Bool :=
  wanted.all capabilities.supports

end Capabilities

structure Segment where
  source : Span
  generated : Span
  capabilities : Capabilities
deriving DecidableEq, Repr

namespace Segment

/-- Two stretches of one length. -/
def ofLength (source generated length : Nat) (capabilities : Capabilities) : Segment :=
  ⟨⟨source, source + length⟩, ⟨generated, generated + length⟩, capabilities⟩

/-- The start of the document tied to one offset of the generated text. -/
def anchor (generated : Nat) : Segment :=
  ⟨⟨0, 0⟩, ⟨generated, generated⟩, .diagnosticsOnly⟩

def isAnchor (segment : Segment) : Bool := segment.source.isEmpty && segment.generated.isEmpty

end Segment

/-- The offset as far behind the start of `onto` as it is behind that of `base`, at most at the end
of `onto`. -/
def interpolate (offset : Nat) (base onto : Span) : Nat :=
  onto.start + min (offset - base.start) onto.length

/-- One of the two texts that a mapping ties together. -/
inductive Side where
  | source
  | generated
deriving DecidableEq, Repr

namespace Side

def span : Side → Segment → Span
  | source, segment => segment.source
  | generated, segment => segment.generated

def other : Side → Side
  | source => generated
  | generated => source

end Side

end ComponentServer
