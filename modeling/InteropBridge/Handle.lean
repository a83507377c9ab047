import InteropBridge.MarshalError
import InteropBridge.Text.Numeral

/-!
# Handles

A handle is an opaque sixty-four-bit reference to a native object.  Zero is the
null handle; it refers to nothing.
-/

namespace InteropBridge

/-- An opaque reference to a native object. -/
structure Handle where
  raw : UInt64
  deriving DecidableEq, Inhabited

namespace Handle

/-- The null handle. -/
def null : Handle := ⟨0⟩

def isNull (handle : Handle) : Bool :=
  handle.raw == 0

/-- The handle itself, unless it is null. -/
def nonNull (handle : Handle) : Except MarshalError Handle :=
  if handle.isNull then .error .nullHandle else .ok handle

/-- The handle as shown to a reader: its number in hexadecimal. -/
def text (handle : Handle) : String :=
  "0x" ++ Text.hexDigits handle.raw.toNat

end Handle

end InteropBridge
