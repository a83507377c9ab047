import InteropBridge.Crossing
import InteropBridge.Proofs.Objects

/-!
# Running a crossing

A crossing enters the native side, attempts its function there, and leaves again
with a result or with an error.  This module states what the caller finds in
either case.  The attempt itself leaves nothing behind when it fails, so a failed
crossing shows in the context only where it was entered and left.
-/

namespace InteropBridge

theorem BridgeError.status_ne_ok (error : BridgeError) : error.status ≠ .ok := by
  cases error <;> simp [BridgeError.status]

namespace Crossing

variable {kind : ResultKind}

/-- The context in which the function of an export runs: the call is logged and
counted, and the last error is cleared. -/
def entered (crossing : Crossing kind) (context : Context) : Context where
  process := { context.process with
    tally.callsMade := context.process.tally.callsMade + 1
    journal := context.process.journal.emit
      (.called crossing.target.symbol crossing.target.signature.arity) }
  thread := { context.thread with lastError := none }

/-- The context after a crossing that succeeded. -/
def returned (crossing : Crossing kind) (context : Context) : Context :=
  { context with
    process.journal := context.process.journal.emit
      (.returned crossing.target.symbol true) }

/-- The context after a crossing that failed: a marshal error is counted, the
failure is logged, and the error is the last one of the thread. -/
def refused (crossing : Crossing kind) (error : BridgeError) (context : Context) :
    Context where
  process := { context.process with
    tally.marshalErrors :=
      context.process.tally.marshalErrors + if error.isMarshal then 1 else 0
    journal := context.process.journal.emit
      (.failed crossing.target.symbol error.message) }
  thread := { context.thread with lastError := some error }

/-- Only a place that is asked for and not given stands between a call and its
function. -/
theorem attempt_eq (crossing : Crossing kind) (hasPlace : Bool) :
    crossing.attempt hasPlace =
      match crossing.placeName?, hasPlace with
      | some what, false => throw (.marshal (.nullPointer what))
      | some _, true | none, _ => crossing.run := by
  rw [attempt]
  cases crossing.placeName? with
  | none => rfl
  | some what => cases hasPlace <;> rfl

@[simp]
theorem attempt_true (crossing : Crossing kind) : crossing.attempt true = crossing.run := by
  rw [attempt_eq]
  cases crossing.placeName? <;> rfl

theorem run_fail (crossing : Crossing kind) (error : BridgeError) (context : Context) :
    (fail crossing.target.symbol error).run context =
      ((), crossing.refused error context) := by
  rw [fail, refused]
  cases error.isMarshal <;> rfl

/-- What the caller finds: a result in the place, or the status of the error and
the place as it was. -/
theorem run_invoke (crossing : Crossing kind) (place : Option kind.Result)
    (context : Context) :
    (crossing.invoke place).run context =
      match (crossing.attempt place.isSome).run.run (crossing.entered context) with
      | (.ok result, after) =>
          ((.ok, place.map fun _ => result), crossing.returned after)
      | (.error error, after) =>
          ((error.status, place), crossing.refused error after) := by
  have hentered : ((Native.changeThread fun thread => { thread with lastError := none }).run
      ((Native.count fun tally => { tally with callsMade := tally.callsMade + 1 }).run
        ((Native.emit (.called crossing.target.symbol crossing.target.signature.arity)).run
          context).2).2).2 = crossing.entered context := rfl
  rw [invoke, Native.run_bind, Native.run_bind, Native.run_bind, Native.run_bind, hentered]
  rcases (crossing.attempt place.isSome).run.run (crossing.entered context) with
    ⟨error | result, after⟩
  · dsimp only
    rw [Native.run_bind, run_fail]
    rfl
  · rfl

end Crossing

end InteropBridge
