/-!
# Owned buffers

A buffer carries a result out of the native side, which made it and must be
asked to release it.  Before there is a result its place holds an empty
placeholder with a null pointer; a result is never null, however short it is.
An optional result crosses as a flag beside a value that means nothing while
the flag is down.
-/

namespace InteropBridge

/-- A buffer made by the native side, or the placeholder for one. -/
inductive Buffer (α : Type)
  | placeholder
  | made (content : α)

namespace Buffer

variable {α : Type}

def isNull : Buffer α → Bool
  | placeholder => true
  | made _ => false

/-- What the buffer holds; a placeholder holds the empty content. -/
def content [EmptyCollection α] : Buffer α → α
  | placeholder => ∅
  | made content => content

end Buffer

/-- An optional value as it crosses the boundary. -/
structure Flagged (α : Type) where
  isPresent : Bool
  /-- The value, or a filler while `isPresent` is false. -/
  value : α

namespace Flagged

variable {α : Type}

/-- The crossing form of an optional value, absent ones filled with the
default. -/
def ofOption [Inhabited α] : Option α → Flagged α
  | some value => ⟨true, value⟩
  | none => ⟨false, default⟩

/-- The optional value that crossed. -/
def toOption (flagged : Flagged α) : Option α :=
  if flagged.isPresent then some flagged.value else none

end Flagged

end InteropBridge
