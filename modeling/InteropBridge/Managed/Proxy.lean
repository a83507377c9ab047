import InteropBridge.Managed.Call
import InteropBridge.Managed.Optional

/-!
# Object proxies

A proxy owns one native object through its handle.  It asks for the release at
most once, when it is disposed of or dropped, and answers for the object until
then; afterwards every call fails without crossing the boundary.
-/

namespace InteropBridge

/-- A managed object that stands for a native one. -/
structure Proxy where
  /-- The handle the proxy was made for. -/
  raw : Handle
  /-- Whether the proxy has given the handle up. -/
  isDisposed : Bool := false
  deriving DecidableEq

namespace Proxy

instance : ValueTypeName Proxy := ⟨"dotbridge::managed::object::TestClass"⟩

/-- The handle, while the proxy owns it. -/
def handle (proxy : Proxy) : Except BridgeError Handle :=
  if proxy.isDisposed then .error (.disposedHandle proxy.raw) else .ok proxy.raw

/-- A proxy that takes a handle over. -/
def adopt (handle : Handle) : Proxy :=
  { raw := handle }

/-- A call on the object of a proxy. -/
def ask {kind : ResultKind} (proxy : Proxy) (crossing : Handle → Crossing kind) :
    Attempt kind.Result := do
  Managed.ask (crossing (← MonadExcept.ofExcept proxy.handle))

/-- A proxy for a new object. -/
def make : Attempt Proxy := do
  return adopt (← Managed.ask .make)

/-- A proxy for a copy of the object. -/
def duplicate (proxy : Proxy) : Attempt Proxy := do
  return adopt (← proxy.ask .duplicate)

def print (proxy : Proxy) : Attempt Unit :=
  proxy.ask .print

def increment (proxy : Proxy) : Attempt Unit :=
  proxy.ask .increment

def add (proxy : Proxy) (amount : Int32) : Attempt Unit :=
  proxy.ask (.addTo · amount)

def get (proxy : Proxy) : Attempt Int32 :=
  proxy.ask .get

/-- Prints a copy of the object, made on the way across. -/
def printCopy (proxy : Proxy) : Attempt Unit :=
  proxy.ask .printCopy

/-- The proxy once it has given its handle up. -/
def disposed (proxy : Proxy) : Proxy :=
  { proxy with isDisposed := true }

/-- Releases the object, the first time only.  The proxy counts as disposed
even if the release fails. -/
def dispose (proxy : Proxy) : Attempt Unit := do
  unless proxy.isDisposed do
    Managed.ask (.free proxy.raw)

/-- Lets go of a proxy.  A failing release is logged and nothing else. -/
def drop (proxy : Proxy) : Native Unit := do
  match ← proxy.dispose.run with
  | .ok () => return ()
  | .error error => Native.emit (.dropFailed proxy.raw error.message)

end Proxy

end InteropBridge
