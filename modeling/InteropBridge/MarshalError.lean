/-!
# Marshal errors

Faults found while data is converted at the boundary, each with what its
message has to say.
-/

namespace InteropBridge

/-- A fault found while converting data at the boundary. -/
inductive MarshalError
  | nullPointer (what : String)
  | misaligned (what : String)
  | nullHandle
  /-- Text whose first `validUpTo` bytes can be read and no more. -/
  | invalidUtf8 (validUpTo : Nat)
  /-- Text with its first unpaired surrogate at `index`. -/
  | invalidUtf16 (index : Nat)
  | tooLong (what : String) (length limit : Nat)
  | typeMismatch (param : Nat) (expected found : String)
  | argCountMismatch (function : String) (expected found : Nat)
  | unknownFunction (name : String)
  /-- A failed status that came with no recorded error. -/
  | unspecified
  deriving DecidableEq

/-- What the message of a marshal error says. -/
def MarshalError.message : MarshalError → String
  | nullPointer what => "null pointer passed for " ++ what
  | misaligned what => "misaligned pointer passed for " ++ what
  | nullHandle => "null handle"
  | invalidUtf8 validUpTo => "invalid UTF-8 after byte " ++ toString validUpTo
  | invalidUtf16 index => "unpaired surrogate at UTF-16 index " ++ toString index
  | tooLong what length limit =>
      what ++ " too long: " ++ toString length ++ " exceeds limit of " ++ toString limit
  | typeMismatch param expected found =>
      "argument " ++ toString param ++ ": expected " ++ expected ++ ", found " ++ found
  | argCountMismatch function expected found =>
      function ++ " expects " ++ toString expected ++ " arguments, got " ++ toString found
  | unknownFunction name => "no exported function named '" ++ name ++ "'"
  | unspecified => "marshal failure with no recorded detail"

end InteropBridge
