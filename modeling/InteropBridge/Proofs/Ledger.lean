import InteropBridge.Process
import InteropBridge.Proofs.Handle.Table

/-!
# The ledger of a process

The ledger is the part of a process that handles live in: the table of objects
and the two counts of handles.  It changes only in a few ways, each with a
happening to its name.  Whatever a process does, however many calls of whatever
kind it makes, comes to a list of such turns.
-/

namespace InteropBridge

/-- What can happen to handles and their objects. -/
inductive Happening
  /-- A new object came under the handle. -/
  | made (handle : Handle)
  /-- A copy of the object of `source` came under the handle. -/
  | copied (source handle : Handle)
  /-- An amount was added to the object of the handle. -/
  | added (handle : Handle) (amount : Int32)
  /-- The release of the handle was asked for, and if it was live it has ended. -/
  | released (handle : Handle)
  /-- Every live handle has ended. -/
  | shutDown
  deriving DecidableEq

/-- The handle that came about, if one did. -/
def Happening.issued? : Happening → Option Handle
  | made handle => some handle
  | copied _ handle => some handle
  | added .. | released _ | shutDown => none

/-- The objects of a process and its counts of handles. -/
structure Ledger where
  objects : HandleTable Int32 := .empty className
  allocated : Nat := 0
  released : Nat := 0

/-- The ledger of a process. -/
def Process.ledger (process : Process) : Ledger where
  objects := process.objects
  allocated := process.tally.handlesAllocated
  released := process.tally.handlesReleased

namespace Ledger

/-- The ledger after an object was stored. -/
def issue (ledger : Ledger) (object : Int32) : Ledger :=
  { ledger with
    objects := ledger.objects.issued object
    allocated := ledger.allocated + 1 }

/-- The ledger after an amount was added to an object. -/
def add (ledger : Ledger) (handle : Handle) (amount : Int32) : Ledger :=
  { ledger with objects := ledger.objects.revised handle (· + amount) }

/-- The ledger after a handle was ended. -/
def release (ledger : Ledger) (handle : Handle) : Ledger :=
  { ledger with
    objects := ledger.objects.without handle
    released := ledger.released + 1 }

/-- The ledger after every handle was ended. -/
def clear (ledger : Ledger) : Ledger :=
  { ledger with
    objects := ledger.objects.clear.2
    released := ledger.released + ledger.objects.clear.1 }

/-- One change of the ledger, and what happened. -/
inductive Turn : Ledger → Happening → Ledger → Prop
  | made (ledger : Ledger) :
      Turn ledger (.made ⟨ledger.objects.next⟩) (ledger.issue 0)
  | copied {ledger : Ledger} {source : Handle} {object : Int32}
      (hsource : ledger.objects.find source = .ok object) :
      Turn ledger (.copied source ⟨ledger.objects.next⟩) (ledger.issue object)
  | added {ledger : Ledger} {handle : Handle} {object : Int32} (amount : Int32)
      (hhandle : ledger.objects.find handle = .ok object) :
      Turn ledger (.added handle amount) (ledger.add handle amount)
  | released {ledger : Ledger} {handle : Handle} {object : Int32}
      (hhandle : ledger.objects.find handle = .ok object) :
      Turn ledger (.released handle) (ledger.release handle)
  | passed {ledger : Ledger} {handle : Handle} {error : BridgeError}
      (hhandle : ledger.objects.find handle = .error error) :
      Turn ledger (.released handle) ledger
  | shutDown (ledger : Ledger) : Turn ledger .shutDown ledger.clear

/-- A list of changes, and what happened in each. -/
inductive Turns : Ledger → List Happening → Ledger → Prop
  | refl (ledger : Ledger) : Turns ledger [] ledger
  | step {before between after : Ledger} {happening : Happening} {rest : List Happening}
      (hturn : Turn before happening between) (hrest : Turns between rest after) :
      Turns before (happening :: rest) after

theorem Turn.turns {before after : Ledger} {happening : Happening}
    (hturn : Turn before happening after) : Turns before [happening] after :=
  .step hturn (.refl after)

theorem Turns.trans {before between after : Ledger} {first second : List Happening}
    (hfirst : Turns before first between) (hsecond : Turns between second after) :
    Turns before (first ++ second) after := by
  induction hfirst with
  | refl ledger => exact hsecond
  | step hturn _ ih => exact .step hturn (ih hsecond)

theorem Turns.trans_nil {before between after : Ledger} {history : List Happening}
    (hfirst : Turns before history between) (hsecond : Turns between [] after) :
    Turns before history after := by
  have hturns := hfirst.trans hsecond
  rwa [List.append_nil] at hturns

theorem Turns.eq_of_nil {before after : Ledger} (hturns : Turns before [] after) :
    after = before := by
  cases hturns
  rfl

end Ledger

end InteropBridge
