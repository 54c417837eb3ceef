import ComponentServer.Editing.Store
import ComponentServer.Import.Checker
import ComponentServer.Serving.Diagnostics
import ComponentServer.Session.Token
import ComponentServer.Settings

/-!
Sessions. Diagnostics are computed in the background: every edit schedules a run, and a run that a
later one supersedes is cancelled by its token. A run goes through four steps, between which
anything else may happen: it computes, gives up its place among the pending runs, looks at its token
and publishes.
-/

namespace ComponentServer

inductive Phase where
  | uninitialized
  | running
  | stopped
  /-- The client is gone. -/
  | left
deriving DecidableEq, Repr

/-- How far a run has come. -/
inductive RunStage where
  | scheduled
  | computed (result : Option (List Diagnostic))
  /-- No longer pending. -/
  | released (result : Option (List Diagnostic))
  /-- Not cancelled when it looked. -/
  | passed (diagnostics : List Diagnostic)
  | done
deriving DecidableEq, Repr

structure Run where
  uri : Text
  snapshot : Snapshot
  token : Token
  stage : RunStage

/-- What the server sends on its own. -/
inductive Outgoing where
  /-- Asks to be told about changes of files. -/
  | watchFiles
  /-- Says that the server is ready. -/
  | ready
  | publish (uri : Text) (diagnostics : List Diagnostic) (version : Option Int)
deriving DecidableEq, Repr

structure Session where
  phase : Phase
  root : Option Path
  language : Language
  store : Store
  imports : ImportState
  tokens : Tokens
  /-- The token of the latest run of each document. -/
  pending : Table Token
  runs : List Run

namespace Session

def start (tree : FileTree) : Session where
  phase := .uninitialized
  root := none
  language := .standard
  store := .empty
  imports := ⟨tree, .empty⟩
  tokens := .empty
  pending := .empty
  runs := []

/-- The same session after a change of files that nobody told it about. -/
def withTree (session : Session) (tree : FileTree) : Session :=
  { session with imports := { session.imports with tree := tree } }

/-- Cancels the pending run of a document, if there is one. -/
def cancelPending (session : Session) (uri : Text) : Session :=
  match session.pending.find? uri with
  | some token => { session with tokens := session.tokens.cancel token }
  | none => session

/-- Schedules a run for a document; it supersedes the pending one. -/
def schedule (session : Session) (uri : Text) (snapshot : Snapshot) : Session :=
  let cancelled := session.cancelPending uri
  let (token, tokens) := cancelled.tokens.fresh
  { cancelled with
    tokens := tokens
    pending := cancelled.pending.insert uri token
    runs := cancelled.runs ++ [⟨uri, snapshot, token, .scheduled⟩] }

/-- Schedules a run for each of the snapshots. -/
def scheduleEach (session : Session) (snapshots : List (Text × Snapshot)) : Session :=
  snapshots.foldl (fun session entry => session.schedule entry.1 entry.2) session

/-- Schedules a run for every open document. -/
def scheduleAll (session : Session) : Session := session.scheduleEach session.store.snapshots

/-- Takes a run one step on, and gives the session, the run's new stage and what it sends. -/
def advance (session : Session) (run : Run) : Session × RunStage × List Outgoing :=
  match run.stage with
  | .scheduled =>
    let (result, imports) := documentDiagnostics run.snapshot ImportState.checker
      (fun _ => session.tokens.isCancelled run.token) session.imports
    ({ session with imports := imports }, .computed result, [])
  | .computed result =>
    let pending :=
      if session.pending.find? run.uri = some run.token then session.pending.erase run.uri
      else session.pending
    ({ session with pending := pending }, .released result, [])
  | .released result =>
    match result with
    | some diagnostics =>
      if session.tokens.isCancelled run.token then (session, .done, [])
      else (session, .passed diagnostics, [])
    | none => (session, .done, [])
  | .passed diagnostics =>
    (session, .done, [.publish run.uri diagnostics (some run.snapshot.clientVersion)])
  | .done => (session, .done, [])

/-- Takes the run at an index one step on. -/
def stepRun (session : Session) (index : Nat) : Session × List Outgoing :=
  match session.runs[index]? with
  | none => (session, [])
  | some run =>
    let (next, stage, sent) := session.advance run
    ({ next with runs := next.runs.set index { run with stage := stage } }, sent)

/-- Takes the run at an index through all its steps. -/
def completeRun (session : Session) (index : Nat) : Session × List Outgoing :=
  (List.range 4).foldl (fun reached _ =>
    let (next, sent) := reached.1.stepRun index
    (next, reached.2 ++ sent)) (session, [])

/-- Completes all runs, one after the other, and forgets them. -/
def settle (session : Session) : Session × List Outgoing :=
  let (last, sent) := (List.range session.runs.length).foldl (fun reached index =>
    let (next, sent) := reached.1.completeRun index
    (next, reached.2 ++ sent)) (session, [])
  ({ last with runs := [] }, sent)

/-- Reads the settings of the workspace, if it has a folder. -/
def loadSettings (session : Session) : Session :=
  match session.root with
  | none => session
  | some root =>
    let (settings, folder) := Settings.discover session.imports.tree root
    { session with language := settings.language session.imports.tree folder }

end Session

end ComponentServer
