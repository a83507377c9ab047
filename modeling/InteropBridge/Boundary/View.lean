import InteropBridge.MarshalError
import InteropBridge.Text.Utf8

/-!
# Views

A view lends memory of the caller to the native side for one call: a pointer,
which may be null, and the length the caller claims for it.  A view is checked
before anything is read through it.  A null view of length zero reads as empty;
apart from that the claimed length must keep to the limit, and only then do the
contents count.
-/

namespace InteropBridge

/-- Text lent by the caller. -/
inductive TextView
  /-- A null pointer with a claimed length. -/
  | null (length : Nat)
  /-- The bytes from the pointer on, of which `length` are claimed. -/
  | memory (bytes : List UInt8) (length : Nat)

/-- Numbers lent by the caller. -/
inductive SequenceView
  /-- A null pointer with a claimed length. -/
  | null (length : Nat)
  /-- The items from the pointer on, of which `length` are claimed.  `aligned`
  says whether the pointer is a place where items can lie. -/
  | memory (items : List Int32) (length : Nat) (aligned : Bool)

namespace TextView

/-- A view of a whole text. -/
def ofNative (text : NativeText) : TextView :=
  let bytes := Utf8.encode text
  .memory bytes bytes.length

/-- The text seen through a view, of at most `limit` bytes. -/
def read (view : TextView) (limit : Nat) : Except MarshalError NativeText :=
  match view with
  | .null length => if length = 0 then .ok [] else .error (.nullPointer "string")
  | .memory bytes length =>
      if length > limit then .error (.tooLong "string" length limit)
      else (Utf8.decode (bytes.take length)).mapError .invalidUtf8

end TextView

namespace SequenceView

/-- A view of a whole list. -/
def ofList (items : List Int32) : SequenceView :=
  .memory items items.length true

/-- The items seen through a view, at most `limit` of them. -/
def read (view : SequenceView) (limit : Nat) : Except MarshalError (List Int32) :=
  match view with
  | .null length => if length = 0 then .ok [] else .error (.nullPointer "sequence")
  | .memory items length aligned =>
      if length > limit then .error (.tooLong "sequence" length limit)
      else if !aligned then .error (.misaligned "sequence")
      else .ok (items.take length)

end SequenceView

end InteropBridge
