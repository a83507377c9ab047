import InteropBridge.Host.Script

/-!
# Running a script

A script runs in a process from its first step to its last.  The host keeps its
proxies in named slots; what is stored in a full slot takes the place of the
proxy there, which is dropped.
-/

namespace InteropBridge.Host

/-- A process, the proxies of its host, and the files around it. -/
structure State where
  context : Context := {}
  slots : List (String × Proxy) := []
  files : FileTree := {}
  /-- The working directory. -/
  directory : Place := []

/-- A computation of the host. -/
abbrev Script := StateM State

/-- A computation in the host's process. -/
def native {α : Type} (body : Native α) : Script α := fun state =>
  let (result, context) := body.run state.context
  (result, { state with context })

/-- A computation in the host's process that may fail; `answer` says what the
host learns from its result. -/
def attempt {α : Type} (body : Attempt α) (answer : α → Answer) : Script Answer := do
  match ← native body.run with
  | .ok result => return answer result
  | .error error => return .failed error

/-! ## Slots -/

/-- The proxy in a slot. -/
def inSlot? (slot : String) : Script (Option Proxy) := do
  return (← get).slots.lookup slot

/-- Takes a slot's proxy away. -/
def empty (slot : String) : Script Unit :=
  modify fun state => { state with slots := state.slots.filter (·.1 ≠ slot) }

/-- Changes the proxy in a slot for another state of it. -/
def replace (slot : String) (proxy : Proxy) : Script Unit :=
  modify fun state => { state with slots := (slot, proxy) :: state.slots.filter (·.1 ≠ slot) }

/-- Stores a proxy in a slot and drops the one it takes the place of. -/
def store (slot : String) (proxy : Proxy) : Script Unit := do
  let old ← inSlot? slot
  replace slot proxy
  if let some old := old then native old.drop

/-- Stores the proxy that a computation makes; the host learns its handle. -/
def storeResult (slot : String) (body : Attempt Proxy) : Script Answer := do
  match ← native body.run with
  | .ok proxy =>
      store slot proxy
      return .handle proxy.raw
  | .error error => return .failed error

/-- Drops the proxies of all slots, in the order of slot names. -/
def dropAll : Script Unit := do
  let slots := (← get).slots.mergeSort fun left right => left.1 ≤ right.1
  modify fun state => { state with slots := [] }
  for (_, proxy) in slots do
    native proxy.drop

/-- Does work with the proxy in a slot. -/
def runProxy (slot : String) (task : ProxyTask) : Script Answer := do
  match ← inSlot? slot, task with
  | none, .drop => return .flag false
  | none, _ => return .emptySlot
  | some proxy, .handle => attempt (MonadExcept.ofExcept proxy.handle) .handle
  | some proxy, .isDisposed => return .flag proxy.isDisposed
  | some proxy, .print => attempt proxy.print fun () => .done
  | some proxy, .increment => attempt proxy.increment fun () => .done
  | some proxy, .add amount => attempt (proxy.add amount) fun () => .done
  | some proxy, .get => attempt proxy.get .int
  | some proxy, .printCopy => attempt proxy.printCopy fun () => .done
  | some proxy, .dispose => do
      replace slot proxy.disposed
      attempt proxy.dispose fun () => .done
  | some proxy, .drop => do
      empty slot
      native proxy.drop
      return .flag true
  | some proxy, .giveUp => do
      empty slot
      return .handle proxy.raw
  | some proxy, .duplicate destination => storeResult destination proxy.duplicate

/-- Calls a function of the library. -/
def runLibrary (task : LibraryTask) : Script Answer := do
  match task with
  | .hello => attempt Library.hello fun () => .done
  | .printNumber number => attempt (Library.printNumber number) fun () => .done
  | .add left right => attempt (Library.add left right) .int
  | .concat left right => attempt (Library.concat left right) .text
  | .concatLent left right => attempt (Library.concatLent left right) .text
  | .printLength items => attempt (Library.printLength items) fun () => .done
  | .getNumbers => attempt Library.getNumbers .items
  | .maybeAddOne value => attempt (Library.maybeAddOne ⟨value⟩) .optionalInt
  | .maybeMake name destination =>
      let made : Attempt Proxy := do
        let optional ← Library.maybeMake ⟨name⟩
        MonadExcept.ofExcept optional.value
      match destination with
      | some slot => storeResult slot made
      | none =>
          let dropped : Attempt Handle := do
            let proxy ← made
            proxy.drop
            return proxy.raw
          attempt dropped .handle

/-- Gives back what a call wrote to a place, once the host has looked at it. -/
def giveBack : {kind : ResultKind} → kind.Result → Native Unit
  | .text, buffer => buffer.releaseText
  | .sequence, buffer => buffer.releaseSequence
  | .nothing, _ | .int, _ | .handle, _ | .maybeHandle, _ | .maybeInt, _ => return ()

/-! ## Threads at once -/

/-- Increments an object a number of times and counts the failures. -/
def incrementTimes (handle : Handle) : Nat → Native Nat
  | 0 => return 0
  | count + 1 => do
      let (status, _) ← (Crossing.increment handle).invoke none
      let failures ← incrementTimes handle count
      return if status.isOk then failures else failures + 1

/-- Increments an object a number of times on each of several threads and counts
the failures.  The threads take turns; any other order of their calls comes to
the same. -/
def incrementAtOnce (handle : Handle) (count : Nat) : Nat → Native Nat
  | 0 => return 0
  | threads + 1 => do
      let failures ← Native.onNewThread (incrementTimes handle count)
      return failures + (← incrementAtOnce handle count threads)

/-! ## Steps -/

mutual

/-- Runs a step. -/
def Step.run : Step → Script Answer
  | .recorded step => do
      let outer ← native Native.openCapture
      let answer ← step.run
      let output ← native (Native.closeCapture outer)
      return .recorded output answer
  | .crossing crossing place givesPlace => do
      let (status, after) ← native (crossing.invoke (if givesPlace then some place else none))
      let after := after.getD place
      native (giveBack after)
      return .returned status after
  | .lastErrorCode => return .code (← native Native.lastErrorCode)
  | .takeLastError => return .lastError (← native Native.takeLastError)
  | .lastErrorLength => return .messageLength (← native Native.lastErrorMessage).length
  | .lastErrorMessage buffer capacity => do
      let (length, buffer) ← native (Native.copyLastErrorMessage buffer capacity)
      return .message length buffer
  | .startFromFiles => do
      let state ← get
      native (Startup.startFrom state.files state.directory)
      return .done
  | .cleanUp => do
      native Startup.cleanUp
      return .done
  | .releasePlaceholders => do
      native (Buffer.releaseText .placeholder)
      native (Buffer.releaseSequence .placeholder)
      return .done
  | .call name args => attempt (Dynamic.call name args) .value
  | .library task => runLibrary task
  | .make slot => storeResult slot Proxy.make
  | .adopt slot handle => do
      store slot (.adopt handle)
      return .done
  | .proxy slot task => runProxy slot task
  | .configure text =>
      match Settings.parse text with
      | .error fault => return .misconfigured fault
      | .ok settings => do
          native (Native.install settings)
          return .done
  | .adjust adjustment => do
      native do Native.install (adjustment.apply (← Native.settings))
      return .done
  | .settings => return .settings (← native Native.settings)
  | .tally => return .tally (← get).context.process.tally
  | .live => return .count (← native Objects.live)
  | .shutdown => return .count (← native Objects.shutdown)
  | .writeLine text => do
      native (Native.writeLine text)
      return .done
  | .capture steps breaksOff => do
      let outer ← native Native.openCapture
      let answers ← runAll steps
      if breaksOff then
        native (Native.breakOffCapture outer)
        return .brokenOff
      else
        return .captured answers (← native (Native.closeCapture outer))
  | .thread steps => do
      let own ← native (Native.switchThread {})
      let answers ← runAll steps
      let _ ← native (Native.switchThread own)
      return .thread answers
  | .incrementAtOnce handle threads count =>
      return .failures (← native (incrementAtOnce handle count threads))
  | .start text =>
      match Settings.parse text with
      | .error fault => return .misconfigured fault
      | .ok settings => return .flag (← native (Startup.start settings))
  | .startLogging plan => return .flag (← native (Startup.startLogging plan))
  | .log event => do
      native (Native.emit event)
      return .done

/-- Runs steps in order. -/
def runAll : List Step → Script (List Answer)
  | [] => return []
  | step :: rest => do
      let answer ← step.run
      return answer :: (← runAll rest)

end

/-- Runs a whole script in a fresh process: what the host learns from each step,
and the process after all proxies were dropped. -/
def runScript (files : FileTree) (directory : Place) (steps : List Step) :
    List Answer × Process :=
  let script : Script (List Answer) := do
    let answers ← runAll steps
    dropAll
    return answers
  let (answers, state) := script.run { files, directory }
  (answers, state.context.process)

end InteropBridge.Host
