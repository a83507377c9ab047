import InteropBridge.Handle.Table
import InteropBridge.Boundary.Value
import InteropBridge.Log.Journal
import InteropBridge.Settings

/-!
# Processes and threads

All threads of a process share its objects, counters, settings and log.  Each
thread has a last error and perhaps a capture that collects what the thread
writes to the console.  A native computation runs on one thread and sees both.
-/

namespace InteropBridge

/-- Counts of what has happened at the boundary. -/
structure Tally where
  callsMade : Nat := 0
  marshalErrors : Nat := 0
  handlesAllocated : Nat := 0
  handlesReleased : Nat := 0
  deriving DecidableEq

/-- The number of handles that were allocated and not released. -/
def Tally.handlesLive (tally : Tally) : Nat :=
  tally.handlesAllocated - tally.handlesReleased

/-- What the threads of a process share. -/
structure Process where
  /-- The native objects, each an integer. -/
  objects : HandleTable Int32 := .empty className
  tally : Tally := {}
  settings : Settings := {}
  journal : Log.Journal := {}
  /-- Whether the process itself, and not its host, keeps the log writer open. -/
  keepsWriter : Bool := false
  /-- What was written to standard output outside captures. -/
  stdout : String := ""

/-- What a thread has to itself. -/
structure Thread where
  /-- The error of the last export that failed, until it is taken or the next
  export is entered. -/
  lastError : Option BridgeError := none
  /-- What the innermost capture has collected, if there is one. -/
  capture : Option String := none

/-- A process as one of its threads sees it. -/
structure Context where
  process : Process := {}
  thread : Thread := {}

/-- A computation on a thread of a process. -/
abbrev Native := StateM Context

/-- A computation that may fail.  What it did before it failed stays done. -/
abbrev Attempt := ExceptT BridgeError Native

namespace Native

/-- Changes what the threads share. -/
def changeProcess (change : Process → Process) : Native Unit :=
  modify fun context => { context with process := change context.process }

/-- Changes what the thread has to itself. -/
def changeThread (change : Thread → Thread) : Native Unit :=
  modify fun context => { context with thread := change context.thread }

/-- Emits an event. -/
def emit (event : Log.Event) : Native Unit :=
  changeProcess fun process => { process with journal := process.journal.emit event }

/-- Counts something. -/
def count (change : Tally → Tally) : Native Unit :=
  changeProcess fun process => { process with tally := change process.tally }

/-- Counts a marshal error. -/
def countMarshalError : Native Unit :=
  count fun tally => { tally with marshalErrors := tally.marshalErrors + 1 }

/-- The settings in force. -/
def settings : Native Settings := do
  return (← get).process.settings

/-- Puts other settings in force. -/
def install (settings : Settings) : Native Unit :=
  changeProcess fun process => { process with settings }

/-! ## The last error -/

/-- The code of the last error, or of success without one. -/
def lastErrorCode : Native Int := do
  return ((← get).thread.lastError.elim Status.ok (·.status)).code

/-- The bytes of the last error's message, none without an error. -/
def lastErrorMessage : Native (List UInt8) := do
  return (← get).thread.lastError.elim [] fun error => Utf8.encode error.message.toList

/-- Copies the last error's message into a buffer and tells the length of the
whole message.  The buffer keeps its bytes from its capacity on. -/
def copyLastErrorMessage (buffer : List UInt8) (capacity : Nat) :
    Native (Nat × List UInt8) := do
  let message ← lastErrorMessage
  let copied := message.take capacity
  return (message.length, copied ++ buffer.drop copied.length)

/-- Takes the last error, so that there is none. -/
def takeLastError : Native (Option BridgeError) := do
  let error := (← get).thread.lastError
  changeThread fun thread => { thread with lastError := none }
  return error

/-! ## The console -/

/-- Writes a line to the innermost capture, or to standard output without
one. -/
def writeLine (line : String) : Native Unit :=
  modify fun context =>
    match context.thread.capture with
    | some collected =>
        { context with thread.capture := some (collected ++ line ++ "\n") }
    | none =>
        { context with process.stdout := context.process.stdout ++ line ++ "\n" }

/-- Writes a line to standard output, whatever is captured. -/
def printLine (line : String) : Native Unit :=
  changeProcess fun process => { process with stdout := process.stdout ++ line ++ "\n" }

end Native

/-- The guard of a capture.  It holds the outer capture, which may be none, until that
is back in place. -/
structure CaptureGuard where
  held : Option (Option String)

namespace CaptureGuard

/-- A guard of a capture that takes the place of an outer one. -/
def holding (outer : Option String) : CaptureGuard :=
  ⟨some outer⟩

/-- Takes what the guard holds, so that it holds nothing. -/
def take (guard : CaptureGuard) : Option (Option String) × CaptureGuard :=
  (guard.held, ⟨none⟩)

/-- Lets go of the guard: the outer capture is put back if the guard still holds it. -/
def drop (guard : CaptureGuard) : Native Unit :=
  match guard.held with
  | some outer => Native.changeThread fun thread => { thread with capture := outer }
  | none => return ()

end CaptureGuard

namespace Native

/-- Opens a capture and returns the one it takes the place of. -/
def openCapture : Native (Option String) := do
  let outer := (← get).thread.capture
  changeThread fun thread => { thread with capture := some "" }
  return outer

/-- Ends a capture whose body came to its end: takes the outer capture from the guard
to put it back, and returns what the inner one collected. -/
def closeCapture (outer : Option String) : Native String := do
  let (held, guard) := (CaptureGuard.holding outer).take
  let collected := (← get).thread.capture.getD ""
  changeThread fun thread => { thread with capture := held.join }
  guard.drop
  return collected

/-- Ends a capture whose body broke off.  The guard puts the outer capture back, and
what was collected is lost. -/
def breakOffCapture (outer : Option String) : Native Unit :=
  (CaptureGuard.holding outer).drop

/-- Moves to another thread and returns the one that was left. -/
def switchThread (thread : Thread) : Native Thread := do
  let left := (← get).thread
  changeThread fun _ => thread
  return left

/-- Runs a computation on a thread of its own, until it ends. -/
def onNewThread {α : Type} (body : Native α) : Native α := do
  let own ← switchThread {}
  let result ← body
  let _ ← switchThread own
  return result

end Native

end InteropBridge
