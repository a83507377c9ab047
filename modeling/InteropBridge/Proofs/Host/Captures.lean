import InteropBridge.Proofs.Host.History
import InteropBridge.Proofs.Host.Notes

/-!
# Nested captures

Captures nest as brackets do.  While one is open it collects what its thread writes; when it
ends, in order or by breaking off, the thread writes again where it wrote before, and what
stands there is as it was.  So a script writes its lines outside captures to the place where
the thread wrote at its start, each capture returns the lines of its own, and the lines of
captures that break off are found nowhere.
-/

namespace InteropBridge

theorem Objects.keepsConsole_shutdown : shutdown.Keeps Context.console := by
  intro context
  rw [run_shutdown]
  split <;> rfl

theorem Startup.keepsConsole_cleanUp : cleanUp.Keeps Context.console :=
  Objects.keepsConsole_shutdown.bind fun _ => Context.aloof_console.keeps_letGoOfWriter

/-! ## Opening and ending a capture -/

/-- A capture that was just opened collects the lines and nothing else. -/
theorem Console.receive_opened (stdout : String) (lines : List String) :
    (Console.mk stdout (some "")).receive lines = ⟨stdout, some (textOf lines)⟩ := by
  simp only [receive, String.empty_append]

namespace Host

/-- The console that the host writes to. -/
abbrev State.console (state : State) : Console :=
  state.context.console

/-- The state once a capture was opened. -/
abbrev State.opened (state : State) : State :=
  (native Native.openCapture state).2

section Ending

variable {state inner : State} {lines : List String}
  (hinner : inner.console = state.opened.console.receive lines)

include hinner

/-- A capture that comes to its end returns its lines and puts the outer one back. -/
theorem run_closeCapture :
    ((Native.closeCapture state.context.thread.capture).run inner.context).1 = textOf lines ∧
      ((Native.closeCapture state.context.thread.capture).run inner.context).2.console =
        state.console := by
  rw [State.console, State.console] at hinner
  have hcollected := hinner.trans (Console.receive_opened _ lines)
  constructor
  · exact congrArg (·.capture.getD "") hcollected
  · exact congrArg (Console.mk ·.stdout state.context.thread.capture) hcollected

/-- A capture that breaks off puts the outer one back just the same. -/
theorem console_breakOffCapture :
    ((Native.breakOffCapture state.context.thread.capture).run inner.context).2.console =
      state.console := by
  have hcollected := hinner.trans (Console.receive_opened _ lines)
  exact congrArg (Console.mk ·.stdout state.context.thread.capture) hcollected

end Ending

/-! ## Steps that write at most a line -/

variable {α : Type}

theorem console_attempt (call : ManagedCall α) (answer : α → Answer) (state : State) :
    ((attempt call.perform answer).run state).2.console =
      state.console.receive (call.line? state.context.process).toList := by
  have hwritten := call.console_perform state.context
  rw [attempt, run_bind, run_native]
  rcases hresult : call.perform.run.run state.context with ⟨error | value, after⟩ <;>
  · rw [hresult] at hwritten
    exact hwritten

/-- The proxy that makes way for another one writes nothing when it is dropped. -/
theorem console_store (slot : String) (proxy : Proxy) (state : State) :
    ((store slot proxy).run state).2.console = state.console := by
  rw [store, run_bind, run_inSlot?, run_bind]
  cases state.slots.lookup slot with
  | none => rfl
  | some old => exact old.keepsConsole_drop state.context

theorem console_storeResult (slot : String) (body : Attempt Proxy) (state : State) :
    ((storeResult slot body).run state).2.console = (body.run.run state.context).2.console := by
  rw [storeResult, run_bind, run_native]
  rcases body.run.run state.context with ⟨error | proxy, after⟩
  · rfl
  · exact console_store slot proxy { state with context := after }

theorem console_runProxy (slot : String) (task : ProxyTask) (state : State) :
    ((runProxy slot task).run state).2.console = state.console.receive
      ((state.slots.lookup slot).bind (task.line? · state.context.process)).toList := by
  rw [runProxy, run_bind, run_inSlot?]
  cases state.slots.lookup slot with
  | none => cases task <;> exact (Console.receive_nil _).symm
  | some proxy =>
      rw [Option.bind_some]
      cases task with
      | handle => exact console_attempt (.handle proxy) _ state
      | isDisposed | giveUp => exact (Console.receive_nil _).symm
      | print => exact console_attempt (.print proxy) _ state
      | increment => exact console_attempt (.increment proxy) _ state
      | add amount => exact console_attempt (.addTo proxy amount) _ state
      | get => exact console_attempt (.get proxy) _ state
      | printCopy => exact console_attempt (.printCopy proxy) _ state
      | dispose =>
          exact console_attempt (.dispose proxy) _ ((replace slot proxy.disposed).run state).2
      | drop => exact (proxy.keepsConsole_drop state.context).trans (Console.receive_nil _).symm
      | duplicate destination =>
          exact (console_storeResult destination _ state).trans
            ((ManagedCall.duplicate proxy).console_perform state.context)

theorem console_presentProxy (name : Option ManagedText) (context : Context) :
    ((presentProxy name).run.run context).2.console =
      context.console.receive ((ManagedCall.maybeMake ⟨name⟩).line? context.process).toList := by
  have hwritten := (ManagedCall.maybeMake ⟨name⟩).console_perform context
  rw [presentProxy, Attempt.run_bind]
  rcases hresult : (Library.maybeMake ⟨name⟩).run.run context with
    ⟨error | ⟨_ | proxy⟩, after⟩ <;>
  · rw [ManagedCall.perform, hresult] at hwritten
    exact hwritten

theorem console_runLibrary (task : LibraryTask) (state : State) :
    ((runLibrary task).run state).2.console =
      state.console.receive (task.line? state.context.process).toList := by
  cases task with
  | hello => exact console_attempt .hello _ state
  | printNumber number => exact console_attempt (.printNumber number) _ state
  | add left right => exact console_attempt (.add left right) _ state
  | concat left right => exact console_attempt (.concat left right) _ state
  | concatLent left right => exact console_attempt (.concatLent left right) _ state
  | printLength items => exact console_attempt (.printLength items) _ state
  | getNumbers => exact console_attempt .getNumbers _ state
  | maybeAddOne value => exact console_attempt (.maybeAddOne ⟨value⟩) _ state
  | maybeMake name destination =>
      have hmade := console_presentProxy name state.context
      cases destination with
      | some slot => exact (console_storeResult slot _ state).trans hmade
      | none =>
          rw [LibraryTask.line?, ← hmade, runLibrary]
          change ((attempt (do
            let proxy ← presentProxy name
            proxy.drop
            return proxy.raw) .handle).run state).2.console = _
          rw [attempt, run_bind, run_native, Attempt.run_bind]
          rcases (presentProxy name).run.run state.context with ⟨error | proxy, after⟩
          · rfl
          · exact proxy.keepsConsole_drop after

theorem keepsConsole_giveBack {kind : ResultKind} (result : kind.Result) :
    (giveBack result).Keeps Context.console := by
  cases kind with
  | text | sequence => cases result <;> exact fun _ => rfl
  | nothing | int | handle | maybeHandle | maybeInt => exact fun _ => rfl

/-! ## Steps -/

/-- A step that writes a line at most writes it outside captures. -/
theorem console_outside {before after : Console} {line : Option String}
    (hwritten : after = before.receive line.toList) :
    after = before.receive (Note.outside (line.toList.map .line)) := by
  rw [Note.outside_lines]
  exact hwritten

mutual

/-- The lines of a step outside captures go to where the thread wrote before. -/
theorem Step.console_run (step : Step) (state : State) (hthread : step.onOneThread = true) :
    (step.run.run state).2.console = state.console.receive (Note.outside (step.notes state)) := by
  have hnothing : state.console = state.console.receive [] := (Console.receive_nil _).symm
  cases step with
  | recorded step =>
      have hinner := step.console_run state.opened hthread
      exact (run_closeCapture hinner).2.trans hnothing
  | capture steps breaksOff =>
      have hinner := console_runAll steps state.opened hthread
      cases breaksOff with
      | false => exact (run_closeCapture hinner).2.trans hnothing
      | true => exact (console_breakOffCapture hinner).trans hnothing
  | crossing crossing place givesPlace =>
      apply console_outside
      have hinvoke := crossing.console_invoke (if givesPlace then some place else none)
        state.context
      have hgiven : (if givesPlace then some place else none).isSome = givesPlace := by
        cases givesPlace <;> rfl
      rw [hgiven] at hinvoke
      exact (keepsConsole_giveBack _ _).trans hinvoke
  | call name args => exact console_outside (console_attempt (.byName name args) _ state)
  | library task => exact console_outside (console_runLibrary task state)
  | proxy slot task => exact console_outside (console_runProxy slot task state)
  | writeLine text => exact Native.console_writeLine text state.context
  | make slot =>
      have hmade := ManagedCall.make.console_perform state.context
      rw [ManagedCall.line?_make] at hmade
      exact (console_storeResult slot _ state).trans hmade
  | adopt slot handle => exact (console_store slot _ state).trans hnothing
  | startFromFiles =>
      exact (Context.aloof_console.keeps_startFrom _ _ state.context).trans hnothing
  | cleanUp => exact (Startup.keepsConsole_cleanUp state.context).trans hnothing
  | shutdown => exact (Objects.keepsConsole_shutdown state.context).trans hnothing
  | configure text =>
      refine Eq.trans ?_ hnothing
      rw [Step.run]
      cases Settings.parse text <;> rfl
  | start text =>
      refine Eq.trans ?_ hnothing
      rw [Step.run]
      cases Settings.parse text <;> rfl
  | lastErrorCode | takeLastError | lastErrorLength | lastErrorMessage | releasePlaceholders
  | adjust | settings | tally | live | startLogging | log => exact hnothing
  | thread | incrementAtOnce => cases hthread

theorem console_runAll (steps : List Step) (state : State)
    (hthread : onOneThreadAll steps = true) :
    ((runAll steps).run state).2.console =
      state.console.receive (Note.outside (notesAll state steps)) := by
  cases steps with
  | nil => exact (Console.receive_nil _).symm
  | cons step rest =>
      obtain ⟨hstep, hrest⟩ := Bool.and_eq_true_iff.mp hthread
      rw [notesAll, Note.outside_append, Console.receive_append,
        ← step.console_run state hstep]
      exact console_runAll rest (step.run.run state).2 hrest

end

/-! ## What captures return -/

theorem outputs_attempt (body : Attempt α) {answer : α → Answer}
    (hanswer : ∀ value, (answer value).outputs = []) (state : State) :
    ((attempt body answer).run state).1.outputs = [] := by
  rw [attempt, run_bind, run_native]
  rcases body.run.run state.context with ⟨error | value, after⟩
  · rfl
  · exact hanswer value

theorem outputs_storeResult (slot : String) (body : Attempt Proxy) (state : State) :
    ((storeResult slot body).run state).1.outputs = [] := by
  rw [storeResult, run_bind, run_native]
  rcases body.run.run state.context with ⟨error | proxy, after⟩ <;> rfl

theorem outputs_runProxy (slot : String) (task : ProxyTask) (state : State) :
    ((runProxy slot task).run state).1.outputs = [] := by
  rw [runProxy, run_bind, run_inSlot?]
  cases state.slots.lookup slot with
  | none => cases task <;> rfl
  | some proxy =>
      cases task with
      | isDisposed | drop | giveUp => rfl
      | duplicate destination => exact outputs_storeResult destination _ state
      | dispose => exact outputs_attempt _ (fun _ => rfl) ((replace slot proxy.disposed).run state).2
      | handle | print | increment | add | get | printCopy =>
          exact outputs_attempt _ (fun _ => rfl) state

theorem outputs_runLibrary (task : LibraryTask) (state : State) :
    ((runLibrary task).run state).1.outputs = [] := by
  cases task with
  | maybeMake name destination =>
      cases destination with
      | some slot => exact outputs_storeResult slot _ state
      | none => exact outputs_attempt _ (fun _ => rfl) state
  | hello | printNumber | add | concat | concatLent | printLength | getNumbers | maybeAddOne =>
      exact outputs_attempt _ (fun _ => rfl) state

/-- A step that writes a line at most returns no output of a capture. -/
theorem outputs_outside {answer : Answer} {line : Option String} (hanswer : answer.outputs = []) :
    answer.outputs = (Note.returnedAll (line.toList.map .line)).map textOf := by
  rw [Note.returnedAll_lines]
  exact hanswer

mutual

/-- What the host learns from a step holds the outputs of its captures, and each output is the
lines of its capture. -/
theorem Step.outputs_run (step : Step) (state : State) (hthread : step.onOneThread = true) :
    (step.run.run state).1.outputs = (Note.returnedAll (step.notes state)).map textOf := by
  cases step with
  | recorded step =>
      have hinner := step.console_run state.opened hthread
      have houtputs := step.outputs_run state.opened hthread
      rw [Step.notes, Note.map_returnedAll_capture, ← houtputs, ← (run_closeCapture hinner).1]
      rfl
  | capture steps breaksOff =>
      cases breaksOff with
      | true => rfl
      | false =>
          have hinner := console_runAll steps state.opened hthread
          have houtputs := outputs_runAll steps state.opened hthread
          rw [Step.notes, Note.map_returnedAll_capture, ← houtputs, ← (run_closeCapture hinner).1]
          rfl
  | crossing => exact outputs_outside rfl
  | call name args => exact outputs_outside (outputs_attempt _ (fun _ => rfl) state)
  | library task => exact outputs_outside (outputs_runLibrary task state)
  | proxy slot task => exact outputs_outside (outputs_runProxy slot task state)
  | make slot => exact outputs_storeResult slot _ state
  | configure text =>
      rw [Step.run]
      cases Settings.parse text <;> rfl
  | start text =>
      rw [Step.run]
      cases Settings.parse text <;> rfl
  | adopt | startFromFiles | cleanUp | shutdown | writeLine | lastErrorCode | takeLastError
  | lastErrorLength | lastErrorMessage | releasePlaceholders | adjust | settings | tally | live
  | startLogging | log => rfl
  | thread | incrementAtOnce => cases hthread

theorem outputs_runAll (steps : List Step) (state : State)
    (hthread : onOneThreadAll steps = true) :
    outputsAll ((runAll steps).run state).1 =
      (Note.returnedAll (notesAll state steps)).map textOf := by
  cases steps with
  | nil => rfl
  | cons step rest =>
      obtain ⟨hstep, hrest⟩ := Bool.and_eq_true_iff.mp hthread
      have houtputs := outputs_runAll rest (step.run.run state).2 hrest
      rw [notesAll, Note.returnedAll_append, List.map_append, ← step.outputs_run state hstep]
      exact congrArg ((step.run.run state).1.outputs ++ ·) houtputs

end

/-! ## Whole scripts -/

/-- What becomes of the lines that steps write when they are made in a state. -/
structure Delivers (state : State) (steps : List Step) : Prop where
  /-- The lines outside captures go, in order, to where the thread wrote before. -/
  console : (state.after steps).console =
    state.console.receive (Note.outside (notesAll state steps))
  /-- Every capture that the host learns of has returned the lines of its own, in order. -/
  outputs : outputsAll ((runAll steps).run state).1 =
    (Note.returnedAll (notesAll state steps)).map textOf
  /-- Each line is outside all captures, or was returned, or is lost. -/
  once : (Note.writtenAll (notesAll state steps)).Perm
    (Note.outside (notesAll state steps) ++
      ((Note.returnedAll (notesAll state steps)).flatten ++ Note.lostAll (notesAll state steps)))

/-- What a capture around steps comes to when it is opened in a state. -/
structure Encloses (state : State) (steps : List Step) : Prop where
  /-- A capture that comes to its end returns the lines of its own. -/
  captured : ((Step.capture steps false).run.run state).1 =
    .captured ((runAll steps).run state.opened).1
      (textOf (Note.outside (notesAll state.opened steps)))
  /-- A capture that breaks off returns nothing. -/
  brokenOff : ((Step.capture steps true).run.run state).1 = .brokenOff
  /-- However it ends, the thread writes again where it wrote before, and what stands there is
  as it was. -/
  restored : ∀ breaksOff,
    ((Step.capture steps breaksOff).run.run state).2.console = state.console

/-- Captures nest: in whatever state a script is made on one thread, its lines outside captures
go to where the thread wrote before, each capture that comes to its end returns the lines of
its own, those of captures that break off are lost, and the end of a capture puts back what
was there before it.  This holds of the steps inside a capture as of the whole script. -/
theorem captures_nest (steps : List Step) (hthread : onOneThreadAll steps = true)
    (state : State) : Delivers state steps ∧ Encloses state steps := by
  have hinner := console_runAll steps state.opened hthread
  refine ⟨⟨?_, ?_, Note.writtenAll_perm _⟩, ⟨?_, rfl, fun breaksOff => ?_⟩⟩
  · exact console_runAll steps state hthread
  · exact outputs_runAll steps state hthread
  · exact congrArg (Answer.captured _) (run_closeCapture hinner).1
  · cases breaksOff with
    | false => exact (run_closeCapture hinner).2
    | true => exact console_breakOffCapture hinner

/-- A capture breaks off inside another one, under a capture that was open already. -/
theorem captures_nest_broken_off :
    let steps : List Step := [.writeLine "first",
      .capture [.crossing .hello () false, .capture [.writeLine "lost"] true,
        .writeLine "last"] false,
      .writeLine "second"]
    let state : State := { context := { thread := { capture := some "before" } } }
    onOneThreadAll steps = true ∧
      (state.after steps).console = state.console.receive ["first", "second"] ∧
      outputsAll ((runAll steps).run state).1 = [textOf ["Hello from Rust!", "last"]] := by
  intro steps state
  have hthread : onOneThreadAll steps = true := rfl
  obtain ⟨hconsole, houtputs, -⟩ := (captures_nest steps hthread state).1
  exact ⟨hthread, hconsole, houtputs⟩

end Host

end InteropBridge
