import InteropBridge.MarshalError
import InteropBridge.Text.Utf16
import InteropBridge.Text.Utf8

/-!
# Managed text

Managed text is UTF-16 and may hold unpaired surrogates.  Such text cannot
cross into native code; it can only be shown, with a replacement for each.
-/

namespace InteropBridge

/-- Text of the managed side. -/
structure ManagedText where
  units : List UInt16
  deriving DecidableEq, Inhabited

namespace ManagedText

/-- The managed copy of a native text. -/
def ofNative (text : NativeText) : ManagedText :=
  ⟨Utf16.encode text⟩

/-- The managed copy of a literal. -/
def ofString (text : String) : ManagedText :=
  ofNative text.toList

/-- The number of units. -/
def length (text : ManagedText) : Nat :=
  text.units.length

def isEmpty (text : ManagedText) : Bool :=
  text.units.isEmpty

/-- The native form, unless some surrogate is unpaired. -/
def toNative (text : ManagedText) : Except MarshalError NativeText :=
  (Utf16.decode text.units).mapError .invalidUtf16

/-- The text as shown to a reader. -/
def shown (text : ManagedText) : NativeText :=
  Utf16.decodeLossy text.units

/-- Whether the managed text spells the native one, unit by unit. -/
def spells (text : ManagedText) (native : NativeText) : Bool :=
  text.units == Utf16.encode native

end ManagedText

end InteropBridge
