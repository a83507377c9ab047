import InteropBridge.Crossing
import InteropBridge.Managed.Text

/-!
# Managed calls

What a managed caller does around a crossing: text is transcoded before it, a
failed status is turned back into the error behind it, and buffers that came
back are copied and released.
-/

namespace InteropBridge.Managed

/-- The error for a failed status that came without one. -/
def fallback : Status → BridgeError
  | .allocationFailed => .allocation "object" "no detail recorded"
  | .disposedHandle => .disposedHandle .null
  | .absentValue => .absentValue "unknown"
  | .nativePanic => .nativePanic "unknown" "no detail recorded"
  | .marshalFailed | .ok => .marshal .unspecified

/-- Takes the error behind a failed status. -/
def check (status : Status) : Attempt Unit := do
  unless status.isOk do
    match ← Native.takeLastError with
    | some error => throw error
    | none => throw (fallback status)

/-- Makes a call with a blank place for its result. -/
def ask {kind : ResultKind} (crossing : Crossing kind) : Attempt kind.Result := do
  let (status, place) ← crossing.invoke (some kind.blank)
  check status
  return place.getD kind.blank

/-- Transcodes text for a call.  Text that has no native form never reaches the
boundary, but it counts as a marshal error. -/
def lend (text : ManagedText) : Attempt NativeText := do
  Native.emit (.converted "utf16" "utf8")
  match text.toNative with
  | .ok native => return native
  | .error fault =>
      Native.countMarshalError
      throw (.marshal fault)

/-- Copies a text buffer and releases it. -/
def adoptText (buffer : Buffer NativeText) : Native ManagedText := do
  Native.emit (.converted "utf8" "utf16")
  buffer.releaseText
  return .ofNative buffer.content

/-- Copies a sequence buffer and releases it. -/
def adoptSequence (buffer : Buffer (List Int32)) : Native (List Int32) := do
  buffer.releaseSequence
  return buffer.content

end InteropBridge.Managed
