import InteropBridge.Process

/-!
# The objects of a process

Native objects are integers kept in the handle table of the process.  Issuing
and releasing handles is counted and logged; a release that finds nothing is an
error or nothing at all, as the settings say.
-/

namespace InteropBridge.Objects

/-- Puts another table in the place of the present one. -/
def setTable (table : HandleTable Int32) : Native Unit :=
  Native.changeProcess fun process => { process with objects := table }

/-- The object of a handle. -/
def read (handle : Handle) : Attempt Int32 := do
  MonadExcept.ofExcept ((← get).process.objects.find handle)

/-- Changes the object of a handle. -/
def change (handle : Handle) (change : Int32 → Int32) : Attempt Unit := do
  setTable (← MonadExcept.ofExcept ((← get).process.objects.update handle change))

/-- Stores an object under a new handle, within the limit in force. -/
def register (object : Int32) : Attempt Handle := do
  let process := (← get).process
  let (handle, table) ← MonadExcept.ofExcept
    (process.objects.insert object process.settings.handles.maxLive)
  setTable table
  Native.count fun tally => { tally with handlesAllocated := tally.handlesAllocated + 1 }
  Native.emit (.allocated table.kind handle table.live)
  return handle

/-- Ends a handle.  What happens when it has ended before is up to the policy in
force. -/
def release (handle : Handle) : Attempt Unit := do
  let process := (← get).process
  match process.objects.remove handle with
  | .ok (_, table) =>
      setTable table
      Native.count fun tally => { tally with handlesReleased := tally.handlesReleased + 1 }
      Native.emit (.released table.kind handle table.live)
  | .error (.disposedHandle stale) =>
      match process.settings.handles.doubleRelease with
      | .ignore => Native.emit (.releaseIgnored stale)
      | .report => throw (.disposedHandle stale)
  | .error error => throw error

/-- Ends every live handle and tells how many there were. -/
def releaseAll : Native Nat := do
  let (released, table) := (← get).process.objects.clear
  setTable table
  Native.count fun tally => { tally with handlesReleased := tally.handlesReleased + released }
  return released

/-- Ends every live handle and warns if there were any. -/
def shutdown : Native Nat := do
  let leaked ← releaseAll
  if leaked > 0 then Native.emit (.leaked leaked)
  return leaked

/-- The number of live objects. -/
def live : Native Nat := do
  return (← get).process.objects.live

end InteropBridge.Objects
