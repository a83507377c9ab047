import InteropBridge.Handle
import InteropBridge.Log.Level

/-!
# Log events

An event has a level, a target that says which part of the bridge it is about,
a message, and named fields in a fixed order.  The events below are those that
the bridge emits at the boundary.
-/

namespace InteropBridge.Log

/-- The value of a field. -/
inductive FieldValue
  | text (text : String)
  | count (count : Nat)
  | flag (flag : Bool)
  /-- Text that lines show without quotes. -/
  | display (text : String)
  deriving DecidableEq

/-- One event. -/
structure Event where
  level : Level
  target : String
  message : String
  fields : List (String × FieldValue) := []
  deriving DecidableEq

namespace Event

/-- The names of the event's fields.  The message counts as one of them. -/
def fieldNames (event : Event) : List String :=
  "message" :: event.fields.map (·.1)

/-- An export was entered. -/
def called (function : String) (argCount : Nat) : Event :=
  { level := .trace, target := "ffi", message := "FFI call",
    fields := [("function", .text function), ("args_count", .count argCount)] }

/-- An export came back. -/
def returned (function : String) (success : Bool) : Event :=
  { level := .trace, target := "ffi", message := "FFI return",
    fields := [("function", .text function), ("success", .flag success)] }

/-- An export failed. -/
def failed (function error : String) : Event :=
  { level := .error, target := "ffi", message := "FFI error",
    fields := [("function", .text function), ("error", .text error)] }

/-- A handle was issued; `live` objects are alive since. -/
def allocated (kind : String) (handle : Handle) (live : Nat) : Event :=
  { level := .debug, target := "handles", message := "handle allocated",
    fields := [("kind", .text kind), ("handle", .count handle.raw.toNat),
      ("live", .count live)] }

/-- A handle was released; `live` objects are alive since. -/
def released (kind : String) (handle : Handle) (live : Nat) : Event :=
  { level := .debug, target := "handles", message := "handle released",
    fields := [("kind", .text kind), ("handle", .count handle.raw.toNat),
      ("live", .count live)] }

/-- A second release was let pass. -/
def releaseIgnored (handle : Handle) : Event :=
  { level := .debug, target := "handles", message := "ignoring repeated release",
    fields := [("handle", .count handle.raw.toNat)] }

/-- Dropping a proxy could not release its object. -/
def dropFailed (handle : Handle) (error : String) : Event :=
  { level := .warn, target := "handles", message := "release on drop failed: " ++ error,
    fields := [("handle", .count handle.raw.toNat)] }

/-- Objects were still alive when the bridge shut down. -/
def leaked (count : Nat) : Event :=
  { level := .warn, target := "handles", message := "objects still alive at shutdown",
    fields := [("leaked", .count count)] }

/-- Text was transcoded. -/
def converted (source destination : String) : Event :=
  { level := .trace, target := "marshal", message := "type conversion",
    fields := [("from", .text source), ("to", .text destination)] }

/-- A buffer of the native side was released. -/
def bufferReleased (what : String) (length : Nat) : Event :=
  { level := .trace, target := "marshal", message := "releasing native " ++ what,
    fields := [("len", .count length)] }

/-- A call by name is about to cross. -/
def dispatching (signature : String) : Event :=
  { level := .debug, target := "ffi", message := "dispatching " ++ signature }

/-- A call by name returned something its caller has to release. -/
def callerOwns (function typeName : String) : Event :=
  { level := .debug, target := "handles", message := "caller owns returned " ++ typeName,
    fields := [("function", .text function)] }

/-- A call by name failed. -/
def dynamicCallFailed (function error : String) : Event :=
  { level := .warn, target := "ffi", message := "dynamic call failed: " ++ error,
    fields := [("function", .text function)] }

/-- The bridge started under the given version. -/
def initialized (version : String) : Event :=
  { level := .info, target := "dotbridge", message := "dotbridge initialized",
    fields := [("version", .text version)] }

/-- A configuration file was passed over. -/
def configIgnored (path error : String) : Event :=
  { level := .warn, target := "dotbridge::config", message := "ignoring config",
    fields := [("path", .display path), ("error", .display error)] }

/-- A piece of a filter is no directive. -/
def directiveIgnored (piece : String) : Event :=
  { level := .warn, target := "dotbridge::logging",
    message := "Invalid filter directive: " ++ piece }

/-- The demonstration stopped early. -/
def scenarioFailed (error : String) : Event :=
  { level := .error, target := "dotbridge", message := "scenario failed: " ++ error }

end Event

end InteropBridge.Log
