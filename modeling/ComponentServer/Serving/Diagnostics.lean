import ComponentServer.Serving.Checker
import ComponentServer.Snapshot

/-!
Diagnostics for the editor: those of the compiler, and those of the checker taken back to the
document.
-/

namespace ComponentServer

/-- A diagnostic in the editor's terms. -/
structure Diagnostic where
  region : Region
  severity : Severity
  code : Option Int
  source : String
  message : String
deriving DecidableEq, Repr

namespace Diagnostic

/-- An unsigned word of 32 bits read as a signed one. -/
def signedCode (code : Nat) : Int := Int.bmod code (1 <<< 32)

/-- The greatest column an editor can ask for. -/
def maxColumn : Nat := 1 <<< 32 - 1

/-- The stretch of a compiler's location; there is none when the document lacks the line. -/
def spanOf? (text : Text) (location : Location) : Option Span := do
  let start ← text.offsetAtOneBased? location.line location.column
  let column := min (location.column + location.length) maxColumn
  let stop := (text.offsetAtOneBased? location.line column).getD start
  return ⟨start, max stop start⟩

/-- A compiler's diagnostic; without a place in the document it goes to its start. -/
def ofCompiler (text : Text) (diagnostic : CompileDiagnostic) : Diagnostic where
  region := text.regionOf ((diagnostic.location.bind (spanOf? text)).getD ⟨0, 0⟩)
  severity := diagnostic.severity
  code := some (signedCode diagnostic.code)
  source := "astro"
  message :=
    match diagnostic.hint with
    | some hint => diagnostic.message ++ "\n\n" ++ hint
    | none => diagnostic.message

/-- The stretch of the document that a span of a virtual file stands for. A span of which only the
start has a place becomes empty. -/
def sourceSpan? (mapping : OffsetMapping) (span : Span) : Option Span :=
  (mapping.spanAcross? .generated (some .diagnostics) span).or
    ((mapping.toSource? (some .diagnostics) span.start).map fun start => ⟨start, start⟩)

/-- A checker's diagnostic, unless it has no place in the document. -/
def ofChecker? (text : Text) (file : VirtualFile) (diagnostic : CheckerDiagnostic) :
    Option Diagnostic :=
  (sourceSpan? file.mapping diagnostic.span).map fun span =>
    { region := text.regionOf span
      severity := diagnostic.severity
      code := diagnostic.code.map signedCode
      source := "ts"
      message := diagnostic.message }

def ofCheckerAll (text : Text) (file : VirtualFile) (diagnostics : List CheckerDiagnostic) :
    List Diagnostic :=
  diagnostics.filterMap (ofChecker? text file)

end Diagnostic

variable {σ : Type}

/-- Checks files one after the other, unless what the checker knows says to stop. -/
def checkFiles (text : Text) (checker : Checker σ) (cancelled : σ → Bool) :
    List VirtualFile → List Diagnostic → σ → Option (List Diagnostic) × σ
  | [], found, state => (if cancelled state then none else some found, state)
  | file :: others, found, state =>
    if cancelled state then (none, state)
    else
      let reported := checker.diagnostics file state
      checkFiles text checker cancelled others
        (found ++ Diagnostic.ofCheckerAll text file reported.1) reported.2

/-- All diagnostics of a document: the compiler's, then the checker's for each checked file. -/
def documentDiagnostics (snapshot : Snapshot) (checker : Checker σ) (cancelled : σ → Bool)
    (state : σ) : Option (List Diagnostic) × σ :=
  checkFiles snapshot.text checker cancelled
    (snapshot.generated.files.filter (·.kind.isChecked))
    (snapshot.generated.diagnostics.map (Diagnostic.ofCompiler snapshot.text)) state

end ComponentServer
