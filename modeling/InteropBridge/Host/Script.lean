import InteropBridge.Managed.Dynamic
import InteropBridge.Startup

/-!
# Scripts

A script is what a host does in a process, step by step: calls of exports, calls
by name, work with proxies that it keeps in named slots, and the handling of
settings, console and log.  Steps may be nested in captures and threads.
-/

namespace InteropBridge.Host

/-- Changes of single settings, which are not checked. -/
structure Adjustment where
  maxLive : Option Nat := none
  doubleRelease : Option ReleasePolicy := none
  maxTextBytes : Option Nat := none
  maxSequenceLength : Option Nat := none

/-- The settings after an adjustment. -/
def Adjustment.apply (adjustment : Adjustment) (settings : Settings) : Settings :=
  { settings with
    handles := {
      maxLive := adjustment.maxLive.getD settings.handles.maxLive
      doubleRelease := adjustment.doubleRelease.getD settings.handles.doubleRelease }
    marshal := {
      maxTextBytes := adjustment.maxTextBytes.getD settings.marshal.maxTextBytes
      maxSequenceLength :=
        adjustment.maxSequenceLength.getD settings.marshal.maxSequenceLength } }

/-- Work with the proxy in a slot. -/
inductive ProxyTask
  | handle
  | isDisposed
  | print
  | increment
  | add (amount : Int32)
  | get
  | printCopy
  | dispose
  | drop
  /-- Gives the handle up without releasing the object. -/
  | giveUp
  /-- Copies the object into a proxy of another slot. -/
  | duplicate (destination : String)

/-- A function of the library, called through its managed form. -/
inductive LibraryTask
  | hello
  | printNumber (number : Int32)
  | add (left right : Int32)
  | concat (left right : ManagedText)
  | concatLent (left right : ManagedText)
  | printLength (items : List Int32)
  | getNumbers
  | maybeAddOne (value : Option Int32)
  /-- The object that may come back goes to a slot, or is dropped at once. -/
  | maybeMake (name : Option ManagedText) (destination : Option String)

/-- One step of a script. -/
inductive Step
  /-- A step inside a capture of its own. -/
  | recorded (step : Step)
  /-- A call of an export.  `place` is what the place for the result holds
  before, if the host gives the place away at all. -/
  | crossing {kind : ResultKind} (crossing : Crossing kind) (place : kind.Result)
      (givesPlace : Bool)
  | lastErrorCode
  | takeLastError
  | lastErrorLength
  /-- Reads the last error's message into a buffer, up to a capacity. -/
  | lastErrorMessage (buffer : List UInt8) (capacity : Nat)
  /-- Starts the bridge from the settings found in the working directory. -/
  | startFromFiles
  | cleanUp
  /-- Releases buffers that are still placeholders. -/
  | releasePlaceholders
  | call (name : String) (args : List Value)
  | library (task : LibraryTask)
  | make (slot : String)
  | adopt (slot : String) (handle : Handle)
  | proxy (slot : String) (task : ProxyTask)
  /-- Reads settings and puts them in force. -/
  | configure (text : String)
  | adjust (adjustment : Adjustment)
  | settings
  | tally
  | live
  | shutdown
  | writeLine (text : String)
  /-- Steps inside a capture.  The host may break the capture off at its end, and
  what was collected is lost. -/
  | capture (steps : List Step) (breaksOff : Bool)
  | thread (steps : List Step)
  /-- Increments on several threads at once. -/
  | incrementAtOnce (handle : Handle) (threads count : Nat)
  /-- Reads settings and starts the bridge with them. -/
  | start (text : String)
  | startLogging (plan : Log.Plan)
  | log (event : Log.Event)

/-- What a host learns from a step. -/
inductive Answer
  | done
  | flag (flag : Bool)
  | count (count : Nat)
  | code (code : Int)
  | int (number : Int32)
  | handle (handle : Handle)
  | text (text : ManagedText)
  | items (items : List Int32)
  | value (value : Value)
  | optionalInt (optional : ManagedOptional Int32)
  | settings (settings : Settings)
  | tally (tally : Tally)
  | lastError (error : Option BridgeError)
  | messageLength (length : Nat)
  /-- The length of a message and the buffer it was copied to. -/
  | message (length : Nat) (buffer : List UInt8)
  /-- The status of a call and what the place for its result holds after it. -/
  | returned {kind : ResultKind} (status : Status) (place : kind.Result)
  | failures (count : Nat)
  | failed (error : BridgeError)
  | misconfigured (fault : ConfigFault)
  | emptySlot
  | captured (answers : List Answer) (output : String)
  | brokenOff
  | thread (answers : List Answer)
  | recorded (output : String) (answer : Answer)

end InteropBridge.Host
