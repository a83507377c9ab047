import InteropBridge.Proofs.Host.Record
import InteropBridge.Proofs.Ledger.History
import InteropBridge.Proofs.Startup

/-!
# The history of a script

The ledger of a process takes exactly the turns that the host can tell of from
its steps, whatever the steps are and however they are nested.  The record of a
run is therefore the history of its ledger.
-/

namespace InteropBridge.Host

/-! ## Starting and stopping -/

theorem aloof_ledger : Context.Aloof (·.process.ledger) where
  relogged _ _ _ := rfl
  installed _ _ := rfl
  handedOver _ _ := rfl

theorem silent_startLogging (plan : Log.Plan) : (Startup.startLogging plan).Silent :=
  Native.silent_of_ledger (aloof_ledger.keeps_startLogging plan)

theorem silent_start (settings : Settings) : (Startup.start settings).Silent :=
  Native.silent_of_ledger (aloof_ledger.keeps_start settings)

theorem silent_letGoOfWriter : Startup.letGoOfWriter.Silent :=
  Native.silent_of_ledger aloof_ledger.keeps_letGoOfWriter

theorem silent_startFrom (files : FileTree) (directory : Place) :
    (Startup.startFrom files directory).Silent :=
  Native.silent_of_ledger (aloof_ledger.keeps_startFrom files directory)

theorem records_cleanUp : Startup.cleanUp.Records fun () => [.shutDown] :=
  Objects.records_shutdown.bind (fun _ => silent_letGoOfWriter) fun _ _ => rfl

/-! ## Threads at once -/

theorem run_incrementTimes {handle : Handle} {context between : Context} {status : Status}
    {place : Option ResultKind.nothing.Result}
    (hinvoke : ((Crossing.increment handle).invoke none).run context =
      ((status, place), between)) (count : Nat) :
    (incrementTimes handle (count + 1)).run context =
      (((incrementTimes handle count).run between).1 + if status.isOk then 0 else 1,
        ((incrementTimes handle count).run between).2) := by
  rw [incrementTimes, Native.run_bind, hinvoke, Native.run_bind]
  cases status <;> rfl

theorem turns_incrementTimes (handle : Handle) (count : Nat) (context : Context) :
    ∃ successes, successes + ((incrementTimes handle count).run context).1 = count ∧
      Ledger.Turns context.process.ledger
        (List.replicate successes (.added handle 1))
        ((incrementTimes handle count).run context).2.process.ledger := by
  -- Induction on the calls that are left: each adds once or counts as a failure.
  induction count generalizing context with
  | zero => exact ⟨0, rfl, .refl _⟩
  | succ count ih =>
      have hfirst := (Crossing.increment handle).records_invoke none () context
      rcases hinvoke : ((Crossing.increment handle).invoke none).run context with
        ⟨⟨status, place⟩, between⟩
      obtain ⟨successes, hcount, hrest⟩ := ih between
      rw [hinvoke] at hfirst
      rw [run_incrementTimes hinvoke]
      cases status with
      | ok =>
          refine ⟨successes + 1, ?_, hfirst.trans hrest⟩
          change successes + 1 + (((incrementTimes handle count).run between).1 + 0) = _
          omega
      | allocationFailed | disposedHandle | marshalFailed | absentValue | nativePanic =>
          refine ⟨successes, ?_, hfirst.trans hrest⟩
          change successes + (((incrementTimes handle count).run between).1 + 1) = _
          omega

theorem turns_incrementAtOnce (handle : Handle) (count threads : Nat) (context : Context) :
    ∃ successes,
      successes + ((incrementAtOnce handle count threads).run context).1 =
        threads * count ∧
      Ledger.Turns context.process.ledger
        (List.replicate successes (.added handle 1))
        ((incrementAtOnce handle count threads).run context).2.process.ledger := by
  induction threads generalizing context with
  | zero => exact ⟨0, (Nat.zero_mul count).symm, .refl _⟩
  | succ threads ih =>
      obtain ⟨first, hfirst, hturns⟩ :=
        turns_incrementTimes handle count { context with thread := {} }
      obtain ⟨second, hsecond, hrest⟩ := ih
        ((Native.onNewThread (incrementTimes handle count)).run context).2
      refine ⟨first + second, ?_, ?_⟩
      · change first + second +
          (((incrementTimes handle count).run { context with thread := {} }).1 +
            ((incrementAtOnce handle count threads).run
              ((Native.onNewThread (incrementTimes handle count)).run context).2).1) = _
        rw [Nat.succ_mul]
        omega
      · rw [List.replicate_add]
        exact hturns.trans hrest

/-! ## Slots -/

/-- The ledger of the host's process. -/
abbrev State.ledger (state : State) : Ledger :=
  state.context.process.ledger

variable {α β : Type}

theorem run_bind (body : Script α) (next : α → Script β) (state : State) :
    (body >>= next).run state =
      (next (body.run state).1).run (body.run state).2 := rfl

theorem run_native (body : Native α) (state : State) :
    (native body).run state =
      ((body.run state.context).1, { state with context := (body.run state.context).2 }) :=
  rfl

theorem run_inSlot? (slot : String) (state : State) :
    (inSlot? slot).run state = (state.slots.lookup slot, state) := rfl

theorem turns_attempt {body : Attempt α} {happenings : α → List Happening}
    (hbody : body.Records happenings) (answer : α → Answer) (state : State) :
    Ledger.Turns state.ledger (told state body happenings)
      ((attempt body answer).run state).2.ledger := by
  have hturns := hbody state.context
  rw [told, attempt, run_bind, run_native]
  rcases hresult : body.run.run state.context with ⟨error | value, after⟩ <;>
  · rw [hresult] at hturns
    exact hturns

theorem silent_attempt {body : Attempt α} (hbody : Attempt.Silent body)
    (answer : α → Answer) (state : State) :
    Ledger.Turns state.ledger [] ((attempt body answer).run state).2.ledger := by
  have hturns := turns_attempt hbody answer state
  have htold : told state body (fun _ => []) = [] := by
    rw [told]
    cases (body.run.run state.context).1 <;> rfl
  rwa [htold] at hturns

theorem turns_store (slot : String) (proxy : Proxy) (state : State) :
    Ledger.Turns state.ledger (displaced slot state)
      ((store slot proxy).run state).2.ledger := by
  rw [displaced, store, run_bind, run_inSlot?, run_bind]
  cases state.slots.lookup slot with
  | none => exact .refl _
  | some old =>
      rw [Option.toList_some, List.flatMap_singleton]
      exact old.records_drop state.context

theorem turns_storeResult {body : Attempt Proxy} {happenings : Proxy → List Happening}
    (hbody : body.Records happenings) (slot : String) (state : State) :
    Ledger.Turns state.ledger
      (told state body fun proxy => happenings proxy ++ displaced slot state)
      ((storeResult slot body).run state).2.ledger := by
  have hturns := hbody state.context
  rw [told, storeResult, run_bind, run_native]
  rcases hresult : body.run.run state.context with ⟨error | proxy, after⟩
  · rw [hresult] at hturns
    exact hturns
  · rw [hresult] at hturns
    exact hturns.trans (turns_store slot proxy { state with context := after })

/-! ## Tasks -/

theorem turns_runProxy (slot : String) (task : ProxyTask) (state : State) :
    Ledger.Turns state.ledger
      ((state.slots.lookup slot).toList.flatMap (task.record · state))
      ((runProxy slot task).run state).2.ledger := by
  rw [runProxy, run_bind, run_inSlot?]
  cases state.slots.lookup slot with
  | none => cases task <;> exact .refl _
  | some proxy =>
      rw [Option.toList_some, List.flatMap_singleton]
      cases task with
      | handle => exact silent_attempt (Attempt.looks_ofExcept _).silent _ state
      | isDisposed => exact .refl _
      | print => exact silent_attempt (proxy.records_ask .print) _ state
      | increment => exact turns_attempt (proxy.records_ask .increment) _ state
      | add amount => exact turns_attempt (proxy.records_ask (.addTo · amount)) _ state
      | get => exact silent_attempt (proxy.records_ask .get) _ state
      | printCopy => exact silent_attempt (proxy.records_ask .printCopy) _ state
      -- The slot takes the disposed proxy first; the process does not see that.
      | dispose =>
          exact turns_attempt proxy.records_dispose _
            ((replace slot proxy.disposed).run state).2
      | drop => exact proxy.records_drop state.context
      | giveUp => exact .refl _
      | duplicate destination =>
          exact turns_storeResult proxy.records_duplicate destination state

/-- The proxy that `Library.maybeMake` may bring, or the error for an absent one. -/
def presentProxy (name : Option ManagedText) : Attempt Proxy := do
  let optional ← Library.maybeMake ⟨name⟩
  MonadExcept.ofExcept optional.value

theorem told_presentProxy (name : Option ManagedText) (happenings : Proxy → List Happening)
    (state : State) :
    told state (presentProxy name) happenings =
      told state (Library.maybeMake ⟨name⟩) fun made =>
        made.content.toList.flatMap happenings := by
  simp only [told, presentProxy, Attempt.run_bind]
  rcases (Library.maybeMake ⟨name⟩).run.run state.context with ⟨error | ⟨_ | proxy⟩, after⟩
  · rfl
  · rfl
  · exact (List.append_nil _).symm

theorem records_presentProxy (name : Option ManagedText) :
    (presentProxy name).Records fun proxy => [.made proxy.raw] := by
  refine (Library.records_maybeMake ⟨name⟩).bind_ofExcept fun made => ?_
  rcases made with ⟨_ | proxy⟩ <;> rfl

/-- A proxy that is dropped as soon as it is there. -/
theorem turns_dropped {body : Attempt Proxy} {happenings : Proxy → List Happening}
    (hbody : body.Records happenings) (state : State) :
    Ledger.Turns state.ledger
      (told state body fun proxy => happenings proxy ++ proxy.parting)
      ((attempt (do
        let proxy ← body
        proxy.drop
        return proxy.raw) .handle).run state).2.ledger := by
  have hturns := hbody state.context
  rw [told, attempt, run_bind, run_native, Attempt.run_bind]
  rcases hresult : body.run.run state.context with ⟨error | proxy, after⟩
  · rw [hresult] at hturns
    exact hturns
  · rw [hresult] at hturns
    exact hturns.trans (proxy.records_drop after)

theorem turns_runLibrary (task : LibraryTask) (state : State) :
    Ledger.Turns state.ledger (task.record state) ((runLibrary task).run state).2.ledger := by
  cases task with
  | hello => exact silent_attempt (Managed.records_ask .hello) _ state
  | printNumber number => exact silent_attempt (Managed.records_ask (.printNumber number)) _ state
  | add left right => exact silent_attempt (Managed.records_ask (.add left right)) _ state
  | concat left right => exact silent_attempt (Library.silent_concat left right) _ state
  | concatLent left right => exact silent_attempt (Library.silent_concatLent left right) _ state
  | printLength items =>
      exact silent_attempt (Managed.records_ask (.printLength (.ofList items))) _ state
  | getNumbers => exact silent_attempt Library.silent_getNumbers _ state
  | maybeAddOne value => exact silent_attempt (Library.silent_maybeAddOne ⟨value⟩) _ state
  | maybeMake name destination =>
      have hmade := records_presentProxy name
      cases destination with
      | some slot =>
          have hturns := turns_storeResult hmade slot state
          rw [told_presentProxy] at hturns
          exact hturns
      | none =>
          have hturns := turns_dropped hmade state
          rw [told_presentProxy] at hturns
          exact hturns

theorem silent_giveBack {kind : ResultKind} (result : kind.Result) :
    (giveBack result).Silent := by
  cases kind with
  | text => exact Managed.silent_releaseText result
  | sequence => exact Managed.silent_releaseSequence result
  | nothing | int | handle | maybeHandle | maybeInt => exact Native.silent_pure ()

/-! ## Steps -/

mutual

/-- The ledger takes the turns that the step tells of. -/
theorem Step.turns_run (step : Step) (state : State) :
    Ledger.Turns state.ledger (step.record state) (step.run.run state).2.ledger := by
  cases step with
  | recorded step => exact step.turns_run (native Native.openCapture state).2
  | crossing crossing place givesPlace =>
      have hinvoke := crossing.records_invoke (if givesPlace then some place else none)
        place state.context
      exact Ledger.Turns.trans_nil hinvoke (silent_giveBack _ _)
  | lastErrorCode | takeLastError | lastErrorLength | lastErrorMessage => exact .refl _
  | startFromFiles => exact silent_startFrom state.files state.directory state.context
  | cleanUp => exact records_cleanUp state.context
  | releasePlaceholders => exact .refl _
  | call name args => exact turns_attempt (Dynamic.records_call name args) _ state
  | library task => exact turns_runLibrary task state
  | make slot => exact turns_storeResult Proxy.records_make slot state
  | adopt slot handle => exact turns_store slot (.adopt handle) state
  | proxy slot task => exact turns_runProxy slot task state
  | configure text =>
      rw [Step.run]
      cases Settings.parse text with
      | error fault => exact .refl _
      | ok settings => exact .refl _
  | adjust adjustment => exact .refl _
  | settings | tally | live => exact .refl _
  | shutdown => exact Objects.records_shutdown state.context
  | writeLine text => exact Native.silent_writeLine text state.context
  | capture steps breaksOff =>
      cases breaksOff <;> exact turns_runAll steps (native Native.openCapture state).2
  | thread steps => exact turns_runAll steps (native (Native.switchThread {}) state).2
  | incrementAtOnce handle threads count =>
      obtain ⟨successes, hcount, hturns⟩ :=
        turns_incrementAtOnce handle count threads state.context
      obtain rfl : successes = threads * count -
          ((incrementAtOnce handle count threads).run state.context).1 := by
        omega
      exact hturns
  | start text =>
      rw [Step.run]
      cases Settings.parse text with
      | error fault => exact .refl _
      | ok settings => exact silent_start settings state.context
  | startLogging plan => exact silent_startLogging plan state.context
  | log event => exact .refl _

/-- The ledger takes the turns that the steps tell of. -/
theorem turns_runAll (steps : List Step) (state : State) :
    Ledger.Turns state.ledger (recordAll state steps) ((runAll steps).run state).2.ledger := by
  cases steps with
  | nil => exact .refl _
  | cons step rest =>
      exact (step.turns_run state).trans (turns_runAll rest (step.run.run state).2)

end

/-! ## Runs of a fresh process -/

theorem allocated_after (files : FileTree) (directory : Place) (steps : List Step) :
    ((State.fresh files directory).after steps).ledger.allocated =
      (issuedIn (recordAll (.fresh files directory) steps)).length := by
  have hturns := turns_runAll steps (.fresh files directory)
  exact hturns.allocated_eq.trans (Nat.zero_add _)

/-- The ledger of a process keeps to the history of the steps that led there. -/
theorem tracks_after (files : FileTree) (directory : Place) (steps : List Step)
    (hroom : ((State.fresh files directory).after steps).ledger.allocated < UInt64.size) :
    Ledger.Tracks (recordAll (.fresh files directory) steps)
      ((State.fresh files directory).after steps).ledger :=
  (turns_runAll steps (.fresh files directory)).tracks hroom

end InteropBridge.Host
