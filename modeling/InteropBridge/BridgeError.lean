import InteropBridge.Handle

/-!
# Bridge errors and status codes

Every failure that a managed caller can see is one `BridgeError`, and every
bridge error has one `Status`, the small number that crosses the boundary in
its place.
-/

namespace InteropBridge

/-- A failure shown to a managed caller. -/
inductive BridgeError
  /-- A native object could not be made. -/
  | allocation (kind reason : String)
  /-- A handle that refers to no live object. -/
  | disposedHandle (handle : Handle)
  | marshal (cause : MarshalError)
  /-- The value of an absent optional was asked for. -/
  | absentValue (type : String)
  /-- A native function panicked and the panic was contained. -/
  | nativePanic (function detail : String)
  deriving DecidableEq

/-- The number that crosses the boundary for an outcome. -/
inductive Status
  | ok
  | allocationFailed
  | disposedHandle
  | marshalFailed
  | absentValue
  | nativePanic
  deriving DecidableEq

namespace Status

/-- Success is zero and each kind of failure a negative number of its own. -/
def code : Status → Int
  | ok => 0
  | allocationFailed => -1
  | disposedHandle => -2
  | marshalFailed => -3
  | absentValue => -4
  | nativePanic => -5

/-- The status with the given code. -/
def ofCode? (code : Int) : Option Status :=
  [ok, allocationFailed, disposedHandle, marshalFailed, absentValue, nativePanic].find?
    (·.code == code)

def isOk (status : Status) : Bool :=
  status == ok

def label : Status → String
  | ok => "ok"
  | allocationFailed => "allocation failed"
  | disposedHandle => "disposed handle"
  | marshalFailed => "marshal failed"
  | absentValue => "absent value"
  | nativePanic => "native panic"

/-- The status as shown to a reader: its label and code. -/
def text (status : Status) : String :=
  status.label ++ " (" ++ toString status.code ++ ")"

end Status

namespace BridgeError

/-- The status an export answers when it fails with this error. -/
def status : BridgeError → Status
  | allocation .. => .allocationFailed
  | disposedHandle _ => .disposedHandle
  | marshal _ => .marshalFailed
  | absentValue _ => .absentValue
  | nativePanic .. => .nativePanic

/-- The marshal error that caused this one, if one did. -/
def cause? : BridgeError → Option MarshalError
  | marshal cause => some cause
  | _ => none

def isMarshal (error : BridgeError) : Bool :=
  error.cause?.isSome

/-- What the message of a bridge error says. -/
def message : BridgeError → String
  | allocation kind reason => "failed to allocate native " ++ kind ++ ": " ++ reason
  | disposedHandle handle => "handle " ++ handle.text ++ " used after release"
  | marshal cause => "marshal error: " ++ cause.message
  | absentValue type => "Option<" ++ type ++ "> has no value"
  | nativePanic function detail => "native function " ++ function ++ " panicked: " ++ detail

/-- A result of the boundary's own checks, as a managed caller sees it. -/
def ofMarshal {α : Type} : Except MarshalError α → Except BridgeError α :=
  Except.mapError marshal

end BridgeError

end InteropBridge
