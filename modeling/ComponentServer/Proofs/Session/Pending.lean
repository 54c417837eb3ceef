import ComponentServer.Proofs.Text.Table
import ComponentServer.Session.Handle

/-!
# Runs and their tokens

The client's notifications and the steps of the runs may come in any order. Through all of them the
table of pending runs stays what it is meant to be: the runs that still have to give up their place
and are not cancelled are exactly those that the table leads to, so that cancelling what it holds
for a document cancels all of them.
-/

namespace ComponentServer

namespace Tokens

variable {tokens : Tokens} {token other : Token}

@[simp]
theorem length_flags_cancel : (tokens.cancel token).flags.length = tokens.flags.length := by
  simp [cancel]

theorem isCancelled_cancel_self (hissued : token.index < tokens.flags.length) :
    (tokens.cancel token).isCancelled token = true := by
  simp [cancel, isCancelled, List.getD_eq_getElem?_getD, hissued]

theorem isCancelled_cancel_of_ne (hne : token ≠ other) :
    (tokens.cancel token).isCancelled other = tokens.isCancelled other := by
  have hindex : token.index ≠ other.index := fun heq => hne (by cases token; cases other; simp_all)
  simp [cancel, isCancelled, List.getD_eq_getElem?_getD, hindex]

theorem isCancelled_cancel (hcancelled : tokens.isCancelled other = true) :
    (tokens.cancel token).isCancelled other = true := by
  by_cases heq : token = other
  · subst heq
    apply isCancelled_cancel_self
    by_contra hissued
    rw [isCancelled, List.getD_eq_default _ _ (Nat.le_of_not_lt hissued)] at hcancelled
    cases hcancelled
  · rwa [isCancelled_cancel_of_ne heq]

@[simp]
theorem isCancelled_fresh (tokens : Tokens) (token : Token) :
    tokens.fresh.2.isCancelled token = tokens.isCancelled token := by
  simp only [fresh, isCancelled, List.getD_eq_getElem?_getD, List.getElem?_append]
  split
  · rfl
  next hissued =>
    rw [List.getElem?_eq_none (Nat.le_of_not_lt hissued)]
    by_cases hlast : token.index - tokens.flags.length = 0 <;> simp [hlast]

end Tokens

/-- The run has not given up its place yet. -/
def Run.isWaiting (run : Run) : Bool :=
  match run.stage with
  | .scheduled | .computed _ => true
  | .released _ | .passed _ | .done => false

namespace Session

variable {session next : Session} {run : Run} {index : Nat}

/-! ### What happens to a session -/

inductive Event where
  /-- The client sends a notification. -/
  | notified (notification : Notification)
  /-- A run goes one step on. -/
  | advanced (index : Nat)
  /-- Files change, and nobody says so. -/
  | rewritten (tree : FileTree)

def step (session : Session) : Event → Session × List Outgoing
  | .notified notification => session.handle notification
  | .advanced index => session.stepRun index
  | .rewritten tree => (session.withTree tree, [])

def after (session : Session) (events : List Event) : Session :=
  events.foldl (fun session event => (session.step event).1) session

/-- What the client's notifications do to tokens, pending runs and runs: some are scheduled, some
documents are closed. -/
inductive Handled : Session → Session → Prop where
  | unrelated {session next : Session} (tokens : next.tokens = session.tokens)
      (pending : next.pending = session.pending) (runs : next.runs = session.runs) :
      Handled session next
  | scheduled (session : Session) (uri : Text) (snapshot : Snapshot) :
      Handled session (session.schedule uri snapshot)
  | closed (session : Session) (uri : Uri) : Handled session (session.didClose uri).1
  | trans {session middle next : Session} :
      Handled session middle → Handled middle next → Handled session next

theorem Handled.refl (session : Session) : Handled session session := .unrelated rfl rfl rfl

theorem handled_scheduleEach (session : Session) (snapshots : List (Text × Snapshot)) :
    Handled session (session.scheduleEach snapshots) := by
  induction snapshots generalizing session with
  | nil => exact Handled.refl session
  | cons entry others ih => exact (Handled.scheduled session entry.1 entry.2).trans (ih _)

theorem loadSettings_eq (session : Session) :
    ∃ language, session.loadSettings = { session with language := language } := by
  unfold loadSettings
  split
  · exact ⟨session.language, rfl⟩
  · exact ⟨_, rfl⟩

theorem handled_handle (session : Session) (notification : Notification) :
    Handled session (session.handle notification).1 := by
  cases notification with
  | initialized | other => exact .refl session
  | didClose uri => exact .closed session uri
  | didOpen uri text version =>
    rw [handle, didOpen]
    refine Handled.trans ?_ (.scheduled _ _ _)
    exact .unrelated rfl rfl rfl
  | didChange uri changes version =>
    simp only [handle, didChange]
    split
    · refine Handled.trans ?_ (.scheduled _ _ _)
      exact .unrelated rfl rfl rfl
    · exact .refl session
  | didChangeFiles uris =>
    simp only [handle, didChangeFiles]
    split
    · refine Handled.trans ?_ (handled_scheduleEach _ _)
      obtain ⟨language, hloaded⟩ := loadSettings_eq { session with imports := _ }
      rw [hloaded]
      exact .unrelated rfl rfl rfl
    · refine Handled.trans ?_ (handled_scheduleEach _ _)
      exact .unrelated rfl rfl rfl

@[simp]
theorem pending_cancelPending (session : Session) (uri : Text) :
    (session.cancelPending uri).pending = session.pending := by
  unfold cancelPending
  split <;> rfl

@[simp]
theorem runs_cancelPending (session : Session) (uri : Text) :
    (session.cancelPending uri).runs = session.runs := by
  unfold cancelPending
  split <;> rfl

theorem isCancelled_cancelPending_of_isCancelled (uri : Text) {token : Token}
    (hcancelled : session.tokens.isCancelled token = true) :
    (session.cancelPending uri).tokens.isCancelled token = true := by
  unfold cancelPending
  split
  · exact Tokens.isCancelled_cancel hcancelled
  · exact hcancelled

/-- Runs stay where they are, and later ones come behind them. -/
theorem Handled.getElem?_runs (h : Handled session next) (hrun : session.runs[index]? = some run) :
    next.runs[index]? = some run := by
  induction h with
  | unrelated _ _ hruns => rwa [hruns]
  | scheduled session uri snapshot =>
    simp only [schedule, runs_cancelPending]
    exact List.getElem?_append_left (List.getElem?_eq_some_iff.mp hrun).1 ▸ hrun
  | closed session uri => simpa only [didClose, runs_cancelPending] using hrun
  | trans _ _ ihFirst ihSecond => exact ihSecond (ihFirst hrun)

theorem Handled.isCancelled (h : Handled session next) {token : Token}
    (hcancelled : session.tokens.isCancelled token = true) :
    next.tokens.isCancelled token = true := by
  induction h with
  | unrelated htokens _ _ => rwa [htokens]
  | scheduled session uri snapshot =>
    simp only [schedule, Tokens.isCancelled_fresh]
    exact isCancelled_cancelPending_of_isCancelled uri hcancelled
  | closed session uri => exact isCancelled_cancelPending_of_isCancelled uri.render hcancelled
  | trans _ _ ihFirst ihSecond => exact ihSecond (ihFirst hcancelled)

/-! ### What a run does -/

def setStage (session : Session) (index : Nat) (run : Run) (stage : RunStage) : Session :=
  { session with runs := session.runs.set index { run with stage := stage } }

/-- The run gives up its place, unless a later one has taken it. -/
def withoutRun (session : Session) (run : Run) : Session :=
  { session with
    pending :=
      if session.pending.find? run.uri = some run.token then session.pending.erase run.uri
      else session.pending }

theorem getElem?_setStage (hrun : session.runs[index]? = some run) (stage : RunStage)
    (other : Nat) : (session.setStage index run stage).runs[other]? =
      if index = other then some { run with stage := stage } else session.runs[other]? := by
  have hlt := (List.getElem?_eq_some_iff.mp hrun).1
  simp [setStage, List.getElem?_set, hlt]

theorem getElem?_setStage_self (hrun : session.runs[index]? = some run) (stage : RunStage) :
    (session.setStage index run stage).runs[index]? = some { run with stage := stage } := by
  rw [getElem?_setStage hrun, if_pos rfl]

/-- All that one step of a run can do. Only the last step sends anything, and only a look at a token
that is not cancelled leads to it. -/
inductive Advances (session : Session) (index : Nat) (run : Run) : Prop where
  | computes (stage : run.stage = .scheduled) (imports : ImportState)
      (result : Option (List Diagnostic))
      (step : session.stepRun index =
        (({ session with imports := imports } : Session).setStage index run (.computed result), []))
  | releases (result : Option (List Diagnostic)) (stage : run.stage = .computed result)
      (step : session.stepRun index =
        ((session.withoutRun run).setStage index run (.released result), []))
  | stops (result : Option (List Diagnostic)) (stage : run.stage = .released result)
      (stopped : result = none ∨ session.tokens.isCancelled run.token = true)
      (step : session.stepRun index = (session.setStage index run .done, []))
  | passes (diagnostics : List Diagnostic) (stage : run.stage = .released (some diagnostics))
      (uncancelled : session.tokens.isCancelled run.token = false)
      (step : session.stepRun index = (session.setStage index run (.passed diagnostics), []))
  | publishes (diagnostics : List Diagnostic) (stage : run.stage = .passed diagnostics)
      (step : session.stepRun index = (session.setStage index run .done,
        [.publish run.uri diagnostics (some run.snapshot.clientVersion)]))
  | rests (stage : run.stage = .done)
      (step : session.stepRun index = (session.setStage index run .done, []))

theorem advances (hrun : session.runs[index]? = some run) : session.Advances index run := by
  cases hstage : run.stage with
  | scheduled =>
    apply Advances.computes hstage
    simp only [stepRun, hrun, advance, hstage, setStage]
    rfl
  | computed result =>
    apply Advances.releases result hstage
    simp only [stepRun, hrun, advance, hstage, setStage, withoutRun]
  | released result =>
    cases result with
    | none =>
      apply Advances.stops none hstage (Or.inl rfl)
      simp only [stepRun, hrun, advance, hstage, setStage]
    | some diagnostics =>
      cases hcancelled : session.tokens.isCancelled run.token with
      | true =>
        apply Advances.stops (some diagnostics) hstage (Or.inr hcancelled)
        simp only [stepRun, hrun, advance, hstage, setStage, hcancelled, if_true]
      | false =>
        apply Advances.passes diagnostics hstage hcancelled
        simp only [stepRun, hrun, advance, hstage, setStage, hcancelled, Bool.false_eq_true,
          if_false]
  | passed diagnostics =>
    apply Advances.publishes diagnostics hstage
    simp only [stepRun, hrun, advance, hstage, setStage]
  | done =>
    apply Advances.rests hstage
    simp only [stepRun, hrun, advance, hstage, setStage]

theorem tokens_stepRun (session : Session) (index : Nat) :
    (session.stepRun index).1.tokens = session.tokens := by
  cases hrun : session.runs[index]? with
  | none => rw [stepRun, hrun]
  | some run => cases advances hrun <;> simp_all [setStage, withoutRun]

theorem getElem?_stepRun_of_ne {other : Nat} (hne : other ≠ index) :
    (session.stepRun other).1.runs[index]? = session.runs[index]? := by
  cases hrun : session.runs[other]? with
  | none => rw [stepRun, hrun]
  | some run => cases advances hrun <;> simp_all [setStage, withoutRun]

/-! ### The table of pending runs -/

/-- Every run has the token of its own number, a run that waits and is not cancelled is pending, and
what is pending is a run that waits. -/
structure Accounted (session : Session) : Prop where
  counted : session.tokens.flags.length = session.runs.length
  numbered : ∀ (index : Nat) (run : Run), session.runs[index]? = some run → run.token.index = index
  waiting : ∀ (index : Nat) (run : Run), session.runs[index]? = some run → run.isWaiting = true →
    session.tokens.isCancelled run.token = false → session.pending.find? run.uri = some run.token
  pending : ∀ uri token, session.pending.find? uri = some token →
    ∃ run : Run, session.runs[token.index]? = some run ∧ run.token = token ∧ run.uri = uri ∧
      run.isWaiting = true

theorem accounted_start (tree : FileTree) : (start tree).Accounted where
  counted := rfl
  numbered := by simp [start]
  waiting := by simp [start]
  pending := by simp [start]

namespace Accounted

theorem congr (h : session.Accounted) (htokens : next.tokens = session.tokens)
    (hpending : next.pending = session.pending) (hruns : next.runs = session.runs) :
    next.Accounted := by
  obtain ⟨hcounted, hnumbered, hwaiting, hpending'⟩ := h
  constructor
  · rw [htokens, hruns, hcounted]
  · rwa [hruns]
  · rwa [htokens, hpending, hruns]
  · rwa [hpending, hruns]

theorem token_eq (h : session.Accounted) {other : Run} {index' : Nat}
    (hrun : session.runs[index]? = some run) (hother : session.runs[index']? = some other)
    (htoken : run.token = other.token) : index = index' := by
  rw [← h.numbered index run hrun, ← h.numbered index' other hother, htoken]

theorem length_tokens_cancelPending (session : Session) (uri : Text) :
    (session.cancelPending uri).tokens.flags.length = session.tokens.flags.length := by
  unfold cancelPending
  split
  · exact Tokens.length_flags_cancel
  · rfl

theorem isCancelled_of_pending (h : session.Accounted) {uri : Text} {token : Token}
    (hfind : session.pending.find? uri = some token) :
    (session.cancelPending uri).tokens.isCancelled token = true := by
  obtain ⟨run, hrun, -, -, -⟩ := h.pending uri token hfind
  simp only [cancelPending, hfind]
  apply Tokens.isCancelled_cancel_self
  rw [h.counted]
  exact (List.getElem?_eq_some_iff.mp hrun).1

theorem isCancelled_cancelPending_eq {uri : Text} {token : Token}
    (hfind : session.pending.find? uri ≠ some token) :
    (session.cancelPending uri).tokens.isCancelled token = session.tokens.isCancelled token := by
  unfold cancelPending
  split
  next other hother =>
    apply Tokens.isCancelled_cancel_of_ne
    rintro rfl
    exact hfind hother
  · rfl

/-- A run of another document, or one that gave up its place, is not cancelled with the pending
one; all others of the document are. -/
theorem waiting_cancelPending (h : session.Accounted) (uri : Text)
    (hrun : session.runs[index]? = some run) (hwaiting : run.isWaiting = true)
    (hcancelled : (session.cancelPending uri).tokens.isCancelled run.token = false) :
    run.uri ≠ uri ∧ session.pending.find? run.uri = some run.token := by
  have hfind : session.pending.find? run.uri = some run.token := by
    apply h.waiting index run hrun hwaiting
    by_contra hnot
    rw [isCancelled_cancelPending_of_isCancelled uri (eq_true_of_ne_false hnot)] at hcancelled
    cases hcancelled
  refine ⟨?_, hfind⟩
  rintro rfl
  rw [h.isCancelled_of_pending hfind] at hcancelled
  cases hcancelled

theorem schedule (h : session.Accounted) (uri : Text) (snapshot : Snapshot) :
    (session.schedule uri snapshot).Accounted := by
  have hlength := length_tokens_cancelPending session uri
  have hsplit : ∀ index run, (session.schedule uri snapshot).runs[index]? = some run →
      session.runs[index]? = some run ∨ index = session.runs.length ∧
        run = ⟨uri, snapshot, ⟨session.runs.length⟩, .scheduled⟩ := by
    intro index run hrun
    simp only [Session.schedule, runs_cancelPending, Tokens.fresh, hlength, h.counted] at hrun
    rw [List.getElem?_append] at hrun
    split at hrun
    · exact Or.inl hrun
    next hlt =>
      obtain ⟨hzero, hlast⟩ := List.getElem?_eq_some_iff.mp hrun
      simp only [List.length_singleton, Nat.lt_one_iff] at hzero
      exact Or.inr ⟨by omega, by simpa [hzero] using hlast.symm⟩
  constructor
  · simp [Session.schedule, Tokens.fresh, hlength, h.counted]
  · intro index run hrun
    rcases hsplit index run hrun with hrun | ⟨rfl, rfl⟩
    · exact h.numbered index run hrun
    · rfl
  · intro index run hrun hwaiting hcancelled
    simp only [Session.schedule, Tokens.isCancelled_fresh, pending_cancelPending,
      Table.find?_insert] at hcancelled ⊢
    rcases hsplit index run hrun with hrun | ⟨rfl, rfl⟩
    · obtain ⟨hne, hfind⟩ := h.waiting_cancelPending uri hrun hwaiting hcancelled
      rw [if_neg (Ne.symm hne), hfind]
    · simp [Tokens.fresh, hlength, h.counted]
  · intro other token hfind
    simp only [Session.schedule, pending_cancelPending, Table.find?_insert, Tokens.fresh, hlength,
      h.counted] at hfind
    split at hfind
    next heq =>
      cases hfind
      refine ⟨⟨uri, snapshot, ⟨session.runs.length⟩, .scheduled⟩, ?_, rfl, heq, rfl⟩
      simp [Session.schedule, Tokens.fresh, hlength, h.counted]
    next =>
      obtain ⟨run, hrun, hrest⟩ := h.pending other token hfind
      exact ⟨run, (Handled.scheduled session uri snapshot).getElem?_runs hrun, hrest⟩

theorem didClose (h : session.Accounted) (uri : Uri) : (session.didClose uri).1.Accounted := by
  constructor
  · simpa [Session.didClose, length_tokens_cancelPending] using h.counted
  · simpa [Session.didClose] using h.numbered
  · intro index run hrun hwaiting hcancelled
    simp only [Session.didClose, runs_cancelPending] at hrun
    obtain ⟨hne, hfind⟩ := h.waiting_cancelPending uri.render hrun hwaiting hcancelled
    simp only [Session.didClose, pending_cancelPending, Table.find?_erase]
    rw [if_neg (Ne.symm hne), hfind]
  · intro other token hfind
    simp only [Session.didClose, pending_cancelPending, runs_cancelPending,
      Table.find?_erase] at hfind ⊢
    split at hfind
    · cases hfind
    · exact h.pending other token hfind

theorem handled (h : session.Accounted) (hhandled : Handled session next) : next.Accounted := by
  induction hhandled with
  | unrelated htokens hpending hruns => exact h.congr htokens hpending hruns
  | scheduled session uri snapshot => exact h.schedule uri snapshot
  | closed session uri => exact h.didClose uri
  | trans _ _ ihFirst ihSecond => exact ihSecond (ihFirst h)

theorem numbered_setStage (h : session.Accounted) (hrun : session.runs[index]? = some run)
    (stage : RunStage) (other : Nat) (found : Run)
    (hfound : (session.setStage index run stage).runs[other]? = some found) :
    found.token.index = other := by
  rw [getElem?_setStage hrun] at hfound
  split at hfound
  next heq =>
    cases hfound
    exact heq ▸ h.numbered index run hrun
  next => exact h.numbered other found hfound

theorem setStage (h : session.Accounted) (hrun : session.runs[index]? = some run)
    {stage : RunStage} (hwaiting : ({ run with stage := stage } : Run).isWaiting = run.isWaiting) :
    (session.setStage index run stage).Accounted := by
  constructor
  · simpa [Session.setStage] using h.counted
  · exact h.numbered_setStage hrun stage
  · intro other found hfound hwaits
    rw [getElem?_setStage hrun] at hfound
    split at hfound
    next =>
      cases hfound
      exact h.waiting index run hrun (hwaiting ▸ hwaits)
    next => exact h.waiting other found hfound hwaits
  · intro uri token hfind
    obtain ⟨found, hfound, htoken, huri, hwaits⟩ := h.pending uri token hfind
    rw [getElem?_setStage hrun]
    split
    next heq =>
      rw [← heq, hrun, Option.some.injEq] at hfound
      subst hfound
      exact ⟨_, rfl, htoken, huri, hwaiting.trans hwaits⟩
    next => exact ⟨found, hfound, htoken, huri, hwaits⟩

theorem uri_eq_of_pending (h : session.Accounted) (hrun : session.runs[index]? = some run)
    {uri : Text} (hfind : session.pending.find? uri = some run.token) : run.uri = uri := by
  obtain ⟨found, hfound, htoken, huri, -⟩ := h.pending uri run.token hfind
  obtain rfl := h.token_eq hrun hfound htoken.symm
  rw [hrun, Option.some.injEq] at hfound
  exact hfound ▸ huri

/-- The run's own entry goes, if it is still there, and no other one does. -/
theorem find?_withoutRun (h : session.Accounted) (hrun : session.runs[index]? = some run)
    (uri : Text) (token : Token) :
    (session.withoutRun run).pending.find? uri = some token ↔
      session.pending.find? uri = some token ∧ token ≠ run.token := by
  have hkept (hfind : session.pending.find? uri = some token) (hne : run.uri ≠ uri) :
      token ≠ run.token := by
    rintro rfl
    exact hne (h.uri_eq_of_pending hrun hfind)
  unfold withoutRun
  split
  next hown =>
    rw [Table.find?_erase]
    split
    next heq => simp [← heq, hown, eq_comm]
    next hne => exact ⟨fun hfind => ⟨hfind, hkept hfind hne⟩, And.left⟩
  next hother =>
    refine ⟨fun hfind => ⟨hfind, ?_⟩, And.left⟩
    rintro rfl
    exact hother (h.uri_eq_of_pending hrun hfind ▸ hfind)

theorem release (h : session.Accounted) (hrun : session.runs[index]? = some run)
    (result : Option (List Diagnostic)) :
    ((session.withoutRun run).setStage index run (.released result)).Accounted := by
  have hrun' : (session.withoutRun run).runs[index]? = some run := hrun
  constructor
  · simpa [Session.setStage, withoutRun] using h.counted
  · exact h.numbered_setStage hrun (.released result)
  · intro other found hfound hwaits hcancelled
    rw [getElem?_setStage hrun'] at hfound
    split at hfound
    next =>
      cases hfound
      cases hwaits
    next hne =>
      apply (h.find?_withoutRun hrun found.uri found.token).mpr
      refine ⟨h.waiting other found hfound hwaits hcancelled, ?_⟩
      exact fun htoken => hne (h.token_eq hrun hfound htoken.symm)
  · intro uri token hpending
    obtain ⟨hfind, hne⟩ := (h.find?_withoutRun hrun uri token).mp hpending
    obtain ⟨found, hfound, htoken, hrest⟩ := h.pending uri token hfind
    refine ⟨found, ?_, htoken, hrest⟩
    rw [getElem?_setStage hrun', if_neg]
    · exact hfound
    · rintro rfl
      rw [hrun, Option.some.injEq] at hfound
      exact hne (hfound ▸ htoken).symm

theorem stepRun (h : session.Accounted) (index : Nat) : (session.stepRun index).1.Accounted := by
  cases hrun : session.runs[index]? with
  | none => rwa [Session.stepRun, hrun]
  | some run =>
    cases advances hrun with
    | computes stage imports result step =>
      rw [step]
      have himports : ({ session with imports := imports } : Session).Accounted :=
        h.congr rfl rfl rfl
      exact himports.setStage hrun (by simp [Run.isWaiting, stage])
    | releases result stage step =>
      rw [step]
      exact h.release hrun result
    | stops result stage stopped step =>
      rw [step]
      exact h.setStage hrun (by simp [Run.isWaiting, stage])
    | passes diagnostics stage uncancelled step =>
      rw [step]
      exact h.setStage hrun (by simp [Run.isWaiting, stage])
    | publishes diagnostics stage step =>
      rw [step]
      exact h.setStage hrun (by simp [Run.isWaiting, stage])
    | rests stage step =>
      rw [step]
      exact h.setStage hrun (by simp [Run.isWaiting, stage])

theorem step (h : session.Accounted) (event : Event) : (session.step event).1.Accounted := by
  cases event with
  | notified notification => exact h.handled (handled_handle session notification)
  | advanced index => exact h.stepRun index
  | rewritten tree => exact h.congr rfl rfl rfl

end Accounted

theorem accounted_after (tree : FileTree) (events : List Event) :
    ((start tree).after events).Accounted := by
  have hfold : ∀ session : Session, session.Accounted → (session.after events).Accounted := by
    induction events with
    | nil => exact fun _ h => h
    | cons event events ih => exact fun _ h => ih _ (h.step event)
  exact hfold (start tree) (accounted_start tree)

end Session

end ComponentServer
