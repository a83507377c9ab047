import InteropBridge.Boundary.Buffer
import InteropBridge.Boundary.View
import InteropBridge.Export
import InteropBridge.Objects

/-!
# Crossings

A crossing is one call of an export with its arguments.  Every crossing goes the
same way: it is logged and counted, the last error is cleared, the place for the
result is checked, and then the function runs.  Success is written to the place;
a failure leaves the place alone, becomes the last error of the thread, and
crosses as a status.
-/

namespace InteropBridge

/-- What an export writes to the place for its result. -/
inductive ResultKind
  | nothing
  | int
  | text
  | handle
  | sequence
  | maybeHandle
  | maybeInt
  deriving DecidableEq

namespace ResultKind

/-- The results of a kind. -/
@[reducible] def Result : ResultKind → Type
  | nothing => Unit
  | int => Int32
  | text => Buffer NativeText
  | handle => Handle
  | sequence => Buffer (List Int32)
  | maybeHandle => Flagged Handle
  | maybeInt => Flagged Int32

/-- What a caller puts into a place before the call. -/
def blank : (kind : ResultKind) → kind.Result
  | nothing => ()
  | int => 0
  | text => .placeholder
  | handle => .null
  | sequence => .placeholder
  | maybeHandle => .ofOption none
  | maybeInt => .ofOption none

end ResultKind

/-- A call of an export, by the kind of its result. -/
inductive Crossing : ResultKind → Type
  | hello : Crossing .nothing
  | printNumber (number : Int32) : Crossing .nothing
  | add (left right : Int32) : Crossing .int
  | concat (left right : TextView) : Crossing .text
  | concatLent (left right : TextView) : Crossing .text
  | printCopy (handle : Handle) : Crossing .nothing
  | printLength (items : SequenceView) : Crossing .nothing
  | getNumbers : Crossing .sequence
  | maybeMake (name : Flagged TextView) : Crossing .maybeHandle
  | maybeAddOne (value : Flagged Int32) : Crossing .maybeInt
  | make : Crossing .handle
  | free (handle : Handle) : Crossing .nothing
  | duplicate (handle : Handle) : Crossing .handle
  | print (handle : Handle) : Crossing .nothing
  | increment (handle : Handle) : Crossing .nothing
  | addTo (handle : Handle) (amount : Int32) : Crossing .nothing
  | get (handle : Handle) : Crossing .int

namespace Crossing

variable {kind : ResultKind}

/-- The export that is called. -/
def target : Crossing kind → Export
  | hello => .hello
  | printNumber _ => .printNumber
  | add .. => .add
  | concat .. => .concat
  | concatLent .. => .concatLent
  | printCopy _ => .printCopy
  | printLength _ => .printLength
  | getNumbers => .getNumbers
  | maybeMake _ => .maybeMake
  | maybeAddOne _ => .maybeAddOne
  | make => .make
  | free _ => .free
  | duplicate _ => .duplicate
  | print _ => .print
  | increment _ => .increment
  | addTo .. => .addTo
  | get _ => .get

/-- What error messages call the place for the result, if the export has
one. -/
def placeName? : Crossing kind → Option String
  | add .. => some "add result"
  | concat .. => some "concat result"
  | concatLent .. => some "concat_str result"
  | getNumbers => some "get_vec result"
  | maybeMake _ => some "maybe_return_class result"
  | maybeAddOne _ => some "maybe_add_one result"
  | make => some "TestClass handle"
  | duplicate _ => some "TestClass handle"
  | get _ => some "TestClass value"
  | hello | printNumber _ | printCopy _ | printLength _ | free _ | print _ | increment _
  | addTo .. => none

/-- A fault of the boundary's own checks ends the call. -/
def demand {α : Type} (checked : Except MarshalError α) : Attempt α :=
  MonadExcept.ofExcept (BridgeError.ofMarshal checked)

/-- Reads a text that was lent, within the limit in force. -/
def readText (view : TextView) : Attempt NativeText := do
  demand (view.read (← Native.settings).marshal.maxTextBytes)

/-- Reads two texts, the left one first, and joins them. -/
def joinTexts (left right : TextView) : Attempt (Buffer NativeText) := do
  let left ← readText left
  let right ← readText right
  return .made (left ++ right)

/-- What the exported function does with its arguments. -/
def run : Crossing kind → Attempt kind.Result
  | hello => Native.writeLine "Hello from Rust!"
  | printNumber number => Native.writeLine ("Number: " ++ toString number.toInt)
  | add left right => return left + right
  | concat left right => joinTexts left right
  | concatLent left right => joinTexts left right
  | printCopy handle => do
      let object ← Objects.read handle
      Native.writeLine (className ++ " by value: i = " ++ toString object.toInt)
  | printLength items => do
      let items ← demand (items.read (← Native.settings).marshal.maxSequenceLength)
      Native.writeLine ("Vec length: " ++ toString items.length)
  | getNumbers => return .made [1, 2, 3]
  | maybeMake name => do
      match name.toOption with
      | none => return .ofOption none
      | some view =>
          let _ ← readText view
          return .ofOption (some (← Objects.register 0))
  | maybeAddOne value => return .ofOption (value.toOption.map (· + 1))
  | make => Objects.register 0
  | free handle => do
      unless handle.isNull do Objects.release handle
  | duplicate handle => do
      let object ← Objects.read handle
      Objects.register object
  | print handle => do
      let object ← Objects.read handle
      Native.writeLine (className ++ ": i = " ++ toString object.toInt)
  | increment handle => Objects.change handle (· + 1)
  | addTo handle amount => Objects.change handle (· + amount)
  | get handle => Objects.read handle

/-- Checks that there is a place for the result, then runs the function. -/
def attempt (crossing : Crossing kind) (hasPlace : Bool) : Attempt kind.Result := do
  match crossing.placeName? with
  | some what => unless hasPlace do throw (.marshal (.nullPointer what))
  | none => pure ()
  crossing.run

/-- Ends a crossing that succeeded. -/
def succeed (function : String) : Native Unit :=
  Native.emit (.returned function true)

/-- Ends a crossing that failed and makes the error the thread's last one. -/
def fail (function : String) (error : BridgeError) : Native Unit := do
  if error.isMarshal then Native.countMarshalError
  Native.emit (.failed function error.message)
  Native.changeThread fun thread => { thread with lastError := some error }

/-- Makes the call.  `place` is what the place for the result holds before, or
nothing if the caller gives no place; the answer has what it holds after. -/
def invoke (crossing : Crossing kind) (place : Option kind.Result) :
    Native (Status × Option kind.Result) := do
  let function := crossing.target.symbol
  Native.emit (.called function crossing.target.signature.arity)
  Native.count fun tally => { tally with callsMade := tally.callsMade + 1 }
  Native.changeThread fun thread => { thread with lastError := none }
  match ← (crossing.attempt place.isSome).run with
  | .ok result =>
      succeed function
      return (.ok, place.map fun _ => result)
  | .error error =>
      fail function error
      return (error.status, place)

end Crossing

namespace Buffer

/-- Releases a text buffer; a placeholder needs no release. -/
def releaseText : Buffer NativeText → Native Unit
  | placeholder => return ()
  | made text => Native.emit (.bufferReleased "string" (Utf8.encode text).length)

/-- Releases a sequence buffer; a placeholder needs no release. -/
def releaseSequence : Buffer (List Int32) → Native Unit
  | placeholder => return ()
  | made items => Native.emit (.bufferReleased "sequence" items.length)

end Buffer

end InteropBridge
