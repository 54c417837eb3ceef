import ComponentServer.Proofs.Session.Pending

/-!
# Closing a document

Closing a document cancels its pending run and takes its diagnostics back. A run that still has its
place is stopped by that for good. One that has given up its place can no longer be found: unless it
was cancelled before, it goes on and publishes diagnostics of a document that is closed. So a closed
document stays without diagnostics exactly when no such run is under way.
-/

namespace ComponentServer

namespace Run

variable {tokens later : Tokens} {run : Run}

/-- The run has given up its place and publishes if it is left alone. -/
def Committed (tokens : Tokens) (run : Run) : Prop :=
  match run.stage with
  | .released (some _) => tokens.isCancelled run.token = false
  | .passed _ => True
  | .scheduled | .computed _ | .released none | .done => False

/-- The run publishes nothing any more, whatever happens. -/
structure Stopped (tokens : Tokens) (run : Run) : Prop where
  not_committed : ¬ run.Committed tokens
  cancelled : run.isWaiting = true → tokens.isCancelled run.token = true

theorem Committed.isWaiting_eq_false (h : run.Committed tokens) : run.isWaiting = false := by
  unfold Committed at h
  unfold isWaiting
  split at h
  next hstage => rw [hstage]
  next hstage => rw [hstage]
  all_goals cases h

theorem Committed.of_later (h : run.Committed later)
    (hmono : tokens.isCancelled run.token = true → later.isCancelled run.token = true) :
    run.Committed tokens := by
  unfold Committed at *
  split at h
  · by_contra hcancelled
    rw [hmono (eq_true_of_ne_false hcancelled)] at h
    cases h
  all_goals exact h

theorem Stopped.mono (h : run.Stopped tokens)
    (hmono : tokens.isCancelled run.token = true → later.isCancelled run.token = true) :
    run.Stopped later :=
  ⟨fun hcommitted => h.not_committed (hcommitted.of_later hmono),
    fun hwaiting => hmono (h.cancelled hwaiting)⟩

end Run

namespace Session

variable {session : Session} {run : Run} {index : Nat}

/-- What the run at an index sends when an event happens. -/
def sentBy (index : Nat) (session : Session) : Event → List Outgoing
  | .advanced other => if other = index then (session.stepRun other).2 else []
  | .notified _ | .rewritten _ => []

/-- What the run at an index sends while the events happen. -/
def sentDuring (index : Nat) (session : Session) : List Event → List Outgoing
  | [] => []
  | event :: later =>
    session.sentBy index event ++ sentDuring index (session.step event).1 later

/-! ### A run that is stopped -/

theorem stopped_stepRun (hrun : session.runs[index]? = some run)
    (hstopped : run.Stopped session.tokens) :
    (session.stepRun index).2 = [] ∧ ∃ next, (session.stepRun index).1.runs[index]? = some next ∧
      next.Stopped (session.stepRun index).1.tokens := by
  have hover : ∀ tokens, ({ run with stage := .done } : Run).Stopped tokens :=
    fun _ => ⟨id, fun hwaiting => absurd hwaiting Bool.false_ne_true⟩
  obtain ⟨hcommitted, hcancelled⟩ := hstopped
  cases advances hrun with
  | computes stage imports result step =>
    rw [step]
    refine ⟨rfl, _, getElem?_setStage_self hrun _, id, fun _ => hcancelled ?_⟩
    rw [Run.isWaiting, stage]
  | releases result stage step =>
    rw [step]
    refine ⟨rfl, _, getElem?_setStage_self hrun _, ?_,
      fun hwaiting => absurd hwaiting Bool.false_ne_true⟩
    have hcancelled := hcancelled (by rw [Run.isWaiting, stage])
    cases result with
    | none => exact id
    | some diagnostics => exact ne_false_of_eq_true hcancelled
  | stops result stage stopped step =>
    rw [step]
    exact ⟨rfl, _, getElem?_setStage_self hrun _, hover _⟩
  | passes diagnostics stage uncancelled step =>
    rw [Run.Committed, stage] at hcommitted
    exact absurd uncancelled hcommitted
  | publishes diagnostics stage step =>
    rw [Run.Committed, stage] at hcommitted
    exact absurd trivial hcommitted
  | rests stage step =>
    rw [step]
    exact ⟨rfl, _, getElem?_setStage_self hrun _, hover _⟩

theorem stopped_step (hrun : session.runs[index]? = some run)
    (hstopped : run.Stopped session.tokens) (event : Event) :
    session.sentBy index event = [] ∧ ∃ next, (session.step event).1.runs[index]? = some next ∧
      next.Stopped (session.step event).1.tokens := by
  cases event with
  | notified notification =>
    have hhandled := handled_handle session notification
    exact ⟨rfl, run, hhandled.getElem?_runs hrun, hstopped.mono hhandled.isCancelled⟩
  | rewritten tree => exact ⟨rfl, run, hrun, hstopped⟩
  | advanced other =>
    by_cases heq : other = index
    · subst heq
      rw [sentBy, if_pos rfl]
      exact stopped_stepRun hrun hstopped
    · refine ⟨if_neg heq, run, (getElem?_stepRun_of_ne heq).trans hrun, ?_⟩
      rw [step, tokens_stepRun]
      exact hstopped

theorem sentDuring_eq_nil (hrun : session.runs[index]? = some run)
    (hstopped : run.Stopped session.tokens) (events : List Event) :
    session.sentDuring index events = [] := by
  induction events generalizing session run with
  | nil => rfl
  | cons event later ih =>
    obtain ⟨hnothing, next, hnext, hstopped⟩ := stopped_step hrun hstopped event
    rw [sentDuring, hnothing, ih hnext hstopped, List.append_nil]

/-! ### A run that is committed -/

theorem sentDuring_of_passed {diagnostics : List Diagnostic}
    (hrun : session.runs[index]? = some run) (hstage : run.stage = .passed diagnostics) :
    session.sentDuring index [.advanced index] =
      [.publish run.uri diagnostics (some run.snapshot.clientVersion)] := by
  simp [sentDuring, sentBy, stepRun, hrun, advance, hstage]

theorem sentDuring_of_committed (hrun : session.runs[index]? = some run)
    (hcommitted : run.Committed session.tokens) :
    ∃ later diagnostics, session.sentDuring index later =
      [.publish run.uri diagnostics (some run.snapshot.clientVersion)] := by
  unfold Run.Committed at hcommitted
  split at hcommitted
  next diagnostics hstage =>
    refine ⟨[.advanced index, .advanced index], diagnostics, ?_⟩
    have hstep : session.stepRun index =
        (session.setStage index run (.passed diagnostics), []) := by
      simp only [stepRun, hrun, advance, hstage, hcommitted, setStage, Bool.false_eq_true, if_false]
    rw [sentDuring, sentBy, if_pos rfl, step, hstep]
    have hpassed := sentDuring_of_passed (getElem?_setStage_self hrun (.passed diagnostics)) rfl
    exact hpassed
  next diagnostics hstage => exact ⟨[.advanced index], diagnostics, sentDuring_of_passed hrun hstage⟩
  all_goals cases hcommitted

theorem committed_didClose (h : session.Accounted) (hrun : session.runs[index]? = some run)
    (hcommitted : run.Committed session.tokens) (uri : Uri) :
    run.Committed (session.didClose uri).1.tokens := by
  -- What is pending is a run that waits, so another one is cancelled.
  have hpending : session.pending.find? uri.render ≠ some run.token := by
    intro hfind
    obtain ⟨found, hfound, htoken, -, hwaiting⟩ := h.pending uri.render run.token hfind
    obtain rfl := h.token_eq hrun hfound htoken.symm
    rw [hrun, Option.some.injEq] at hfound
    rw [← hfound, hcommitted.isWaiting_eq_false] at hwaiting
    cases hwaiting
  apply hcommitted.of_later
  intro hcancelled
  rwa [didClose, Accounted.isCancelled_cancelPending_eq hpending] at hcancelled

/-! ### Documents that are closed -/

theorem stopped_didClose (h : session.Accounted) (hrun : session.runs[index]? = some run)
    {uri : Uri} (huri : run.uri = uri.render) (hcommitted : ¬ run.Committed session.tokens) :
    run.Stopped (session.didClose uri).1.tokens where
  not_committed hlater :=
    hcommitted (hlater.of_later (isCancelled_cancelPending_of_isCancelled uri.render))
  cancelled hwaiting := by
    by_contra hcancelled
    obtain ⟨hne, -⟩ := h.waiting_cancelPending uri.render hrun hwaiting
      (eq_false_of_ne_true hcancelled)
    exact hne huri

/-- Once the document is closed, no run of it that is under way publishes anything. -/
def SilentAfterClose (session : Session) (uri : Uri) : Prop :=
  ∀ index run, session.runs[index]? = some run → run.uri = uri.render →
    ∀ later, (session.didClose uri).1.sentDuring index later = []

theorem silentAfterClose_iff (tree : FileTree) (before : List Event) (uri : Uri) :
    ((start tree).after before).SilentAfterClose uri ↔
      ∀ run ∈ ((start tree).after before).runs, run.uri = uri.render →
        ¬ run.Committed ((start tree).after before).tokens := by
  have haccounted := accounted_after tree before
  have hclosed := Handled.closed ((start tree).after before) uri
  constructor
  · intro hsilent run hmem huri hcommitted
    obtain ⟨index, hrun⟩ := List.mem_iff_getElem?.mp hmem
    obtain ⟨later, diagnostics, hsent⟩ := sentDuring_of_committed (hclosed.getElem?_runs hrun)
      (committed_didClose haccounted hrun hcommitted uri)
    rw [hsilent index run hrun huri later] at hsent
    cases hsent
  · intro hnone index run hrun huri later
    apply sentDuring_eq_nil (hclosed.getElem?_runs hrun)
    exact stopped_didClose haccounted hrun huri (hnone run (List.mem_of_getElem? hrun) huri)

/-! ### A run that is overlooked -/

def brokenUri : Uri where
  scheme := "file".toList
  authority := some ⟨[], [], []⟩
  path := .segments ["a.astro".toList]
  query := none
  fragment := none

/-- A document with a fence that nothing closes is opened, and its run has just given up its
place. -/
def overlookedRun : Session :=
  (start .empty).after
    [.notified (.didOpen brokenUri "---".toList 1), .advanced 0, .advanced 0]

theorem not_silentAfterClose_overlookedRun : ¬ overlookedRun.SilentAfterClose brokenUri := by
  have huris : overlookedRun.runs.map (·.uri) = [brokenUri.render] := by decide +kernel
  have hsent : (overlookedRun.didClose brokenUri).1.sentDuring 0 [.advanced 0, .advanced 0] ≠ [] :=
    by decide +kernel
  obtain ⟨run, hruns, huri⟩ := List.map_eq_singleton_iff.mp huris
  intro hsilent
  exact hsent (hsilent 0 run (by rw [hruns]; rfl) huri _)

end Session

end ComponentServer
