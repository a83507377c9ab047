import InteropBridge.Boundary.Value

/-!
# Signatures

The signature of an exported function and the check of a caller's arguments
against it.  The number of arguments is checked first, then each argument in
order; the first fault is the one reported.
-/

namespace InteropBridge

/-- The name, parameter types and result type of an exported function. -/
structure Signature where
  name : String
  params : List BoundaryType
  result : BoundaryType

namespace Signature

/-- The number of parameters. -/
def arity (signature : Signature) : Nat :=
  signature.params.length

/-- The signature as shown to a reader; a void result is left out. -/
def text (signature : Signature) : String :=
  let head := signature.name ++ "(" ++
    ", ".intercalate (signature.params.map BoundaryType.nativeName) ++ ")"
  if signature.result = .void then head
  else head ++ " -> " ++ signature.result.nativeName

/-- The error for an argument that does not conform. -/
def mismatch (param : Nat) (expected : BoundaryType) (found : Value) : MarshalError :=
  .typeMismatch param expected.managedName found.typeName

/-- Checks arguments against the parameters from position `param` on. -/
def checkFrom (param : Nat) : List BoundaryType → List Value → Except MarshalError Unit
  | expected :: types, found :: values =>
      if found.conforms expected then checkFrom (param + 1) types values
      else .error (mismatch param expected found)
  | _, _ => .ok ()

/-- Checks the number of arguments, then each of them in order. -/
def validate (signature : Signature) (args : List Value) : Except MarshalError Unit :=
  if args.length = signature.arity then checkFrom 0 signature.params args
  else .error (.argCountMismatch signature.name signature.arity args.length)

end Signature

end InteropBridge
