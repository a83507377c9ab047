import InteropBridge.BridgeError

/-!
# Handle tables

A handle table keeps native objects and addresses them by handles.  Handles are
issued in order from 1 and never again, so a released handle cannot come to
mean a newer object.  The table counts its live entries itself; the count
decides whether another object fits under the limit in force.
-/

namespace InteropBridge

/-- Native objects addressed by the handles issued for them. -/
structure HandleTable (α : Type) where
  /-- What the objects are called in error messages. -/
  kind : String
  /-- The handle to be issued next. -/
  next : UInt64 := 1
  /-- The number of live entries. -/
  live : Nat := 0
  /-- The live objects, newest first. -/
  entries : List (UInt64 × α) := []

namespace HandleTable

variable {α : Type}

/-- A table without objects. -/
def empty (kind : String) : HandleTable α :=
  { kind }

/-- Why an object was refused: the live count and the limit it ran into. -/
def refusal (live limit : Nat) : String :=
  toString live ++ " live handles, limit is " ++ toString limit

/-- Stores an object under the next handle, unless `limit` objects are live
already. -/
def insert (table : HandleTable α) (value : α) (limit : Nat) :
    Except BridgeError (Handle × HandleTable α) :=
  if table.live < limit then
    .ok (⟨table.next⟩,
      { table with
        next := table.next + 1
        live := table.live + 1
        entries := (table.next, value) :: table.entries })
  else
    .error (.allocation table.kind (refusal table.live limit))

/-- The object of a live handle.  The null handle is refused as such, every
other handle without an object as released. -/
def find (table : HandleTable α) (handle : Handle) : Except BridgeError α :=
  if handle.isNull then .error (.marshal .nullHandle)
  else match table.entries.lookup handle.raw with
    | some value => .ok value
    | none => .error (.disposedHandle handle)

/-- Changes the object of a live handle in place. -/
def update (table : HandleTable α) (handle : Handle) (change : α → α) :
    Except BridgeError (HandleTable α) := do
  let _ ← table.find handle
  return { table with
    entries := table.entries.map fun entry =>
      if entry.1 = handle.raw then (entry.1, change entry.2) else entry }

/-- Takes a live handle's object out of the table, which ends the handle. -/
def remove (table : HandleTable α) (handle : Handle) :
    Except BridgeError (α × HandleTable α) := do
  let value ← table.find handle
  return (value, { table with
    live := table.live - 1
    entries := table.entries.filter (·.1 ≠ handle.raw) })

/-- Whether a handle refers to a live object. -/
def contains (table : HandleTable α) (handle : Handle) : Bool :=
  !handle.isNull && (table.entries.lookup handle.raw).isSome

def isEmpty (table : HandleTable α) : Bool :=
  table.live == 0

/-- Removes every live object and tells how many there were.  The handle to be
issued next stays as it is. -/
def clear (table : HandleTable α) : Nat × HandleTable α :=
  (table.entries.length,
    { table with live := table.live - table.entries.length, entries := [] })

end HandleTable

end InteropBridge
