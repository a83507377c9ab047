import InteropBridge.BridgeError

/-!
# Managed optionals

An optional of the managed side fails fast: asking an absent one for its value
is an error that names the type of the value.
-/

namespace InteropBridge

/-- A value that a managed caller may or may not have. -/
structure ManagedOptional (α : Type) where
  content : Option α

/-- The name under which a type appears in the error for an absent value. -/
class ValueTypeName (α : Type) where
  valueTypeName : String

instance : ValueTypeName Int32 := ⟨"i32"⟩

instance : ValueTypeName Int64 := ⟨"i64"⟩

instance : ValueTypeName Bool := ⟨"bool"⟩

instance : ValueTypeName String := ⟨"alloc::string::String"⟩

namespace ManagedOptional

variable {α : Type} [ValueTypeName α]

/-- The value, or the error for an absent one. -/
def value (optional : ManagedOptional α) : Except BridgeError α :=
  match optional.content with
  | some value => .ok value
  | none => .error (.absentValue (ValueTypeName.valueTypeName α))

/-- Puts a new value in the place of a present one. -/
def assign (optional : ManagedOptional α) (value : α) :
    Except BridgeError (ManagedOptional α) := do
  let _ ← optional.value
  return ⟨some value⟩

end ManagedOptional

end InteropBridge
