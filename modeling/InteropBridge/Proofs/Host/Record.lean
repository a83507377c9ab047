import InteropBridge.Host.Run
import InteropBridge.Proofs.Ledger.Managed

/-!
# What a host can tell of handles

The record of a step is what the host can tell of handles from it: which handles
the calls returned, which calls on them succeeded, which proxies were let go of,
and whether everything was shut down.
-/

namespace InteropBridge.Host

/-- What a call tells of when it is made in a state. -/
def told {α : Type} (state : State) (body : Attempt α) (happenings : α → List Happening) :
    List Happening :=
  onSuccess happenings (body.run.run state.context).1

/-- What storing in a slot tells of: the proxy that was there is dropped. -/
def displaced (slot : String) (state : State) : List Happening :=
  (state.slots.lookup slot).toList.flatMap Proxy.parting

/-- What work with a proxy tells of. -/
def ProxyTask.record (proxy : Proxy) (state : State) : ProxyTask → List Happening
  | .increment => told state proxy.increment fun () => [.added proxy.raw 1]
  | .add amount => told state (proxy.add amount) fun () => [.added proxy.raw amount]
  | .dispose => told state proxy.dispose fun () => proxy.parting
  | .drop => proxy.parting
  | .duplicate destination =>
      told state proxy.duplicate fun copy =>
        .copied proxy.raw copy.raw :: displaced destination state
  | .handle | .isDisposed | .print | .get | .printCopy | .giveUp => []

/-- What a call of a library function tells of. -/
def LibraryTask.record (state : State) : LibraryTask → List Happening
  | .maybeMake name destination =>
      told state (Library.maybeMake ⟨name⟩) fun made =>
        made.content.toList.flatMap fun proxy =>
          .made proxy.raw ::
            match destination with
            | some slot => displaced slot state
            | none => proxy.parting
  | .hello | .printNumber _ | .add .. | .concat .. | .concatLent .. | .printLength _
  | .getNumbers | .maybeAddOne _ => []

mutual

/-- What a step tells of when it is made in a state. -/
def Step.record (state : State) : Step → List Happening
  | .crossing crossing place givesPlace =>
      let answer := ((crossing.invoke (if givesPlace then some place else none)).run
        state.context).1
      crossing.told answer.1 (answer.2.getD place)
  | .call name args => told state (Dynamic.call name args) (Dynamic.happenings name args)
  | .make slot =>
      told state Proxy.make fun proxy => .made proxy.raw :: displaced slot state
  | .adopt slot _ => displaced slot state
  | .proxy slot task => (state.slots.lookup slot).toList.flatMap (task.record · state)
  | .library task => task.record state
  | .incrementAtOnce handle threads count =>
      let failures := ((incrementAtOnce handle count threads).run state.context).1
      List.replicate (threads * count - failures) (.added handle 1)
  | .shutdown | .cleanUp => [.shutDown]
  | .recorded step => step.record (native Native.openCapture state).2
  | .capture steps _ => recordAll (native Native.openCapture state).2 steps
  | .thread steps => recordAll (native (Native.switchThread {}) state).2 steps
  | .lastErrorCode | .takeLastError | .lastErrorLength | .lastErrorMessage ..
  | .startFromFiles | .releasePlaceholders | .configure _ | .adjust _ | .settings | .tally
  | .live | .writeLine _ | .start _ | .startLogging _ | .log _ => []

/-- What steps tell of, made one after another. -/
def recordAll (state : State) : List Step → List Happening
  | [] => []
  | step :: rest => step.record state ++ recordAll (step.run state).2 rest

end

theorem recordAll_append (first second : List Step) (state : State) :
    recordAll state (first ++ second) =
      recordAll state first ++ recordAll ((runAll first).run state).2 second := by
  induction first generalizing state with
  | nil => rfl
  | cons step rest ih =>
      rw [List.cons_append, recordAll, ih, recordAll, List.append_assoc]
      rfl

/-- A fresh process with files around it. -/
def State.fresh (files : FileTree) (directory : Place) : State :=
  { files, directory }

/-- The state after steps. -/
def State.after (state : State) (steps : List Step) : State :=
  ((runAll steps).run state).2

end InteropBridge.Host
