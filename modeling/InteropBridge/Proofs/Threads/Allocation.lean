import InteropBridge.Proofs.Crossing.Allocation
import InteropBridge.Proofs.Threads.Accounts
import InteropBridge.Proofs.Threads.History

/-!
# Operations that make objects

An operation that is to make an object does so, whatever way it takes to the export, exactly
if there is room for one more under the limit of the moment.  Where there is none it fails
with an error that tells the limit and how many objects there are.
-/

namespace InteropBridge

variable {α : Type} {kind : ResultKind}

namespace Operation

/-- The call of an export that the operation answers for, if it gets to one. -/
def call? : {α : Type} → Operation α → Option AnyCrossing
  | _, cross crossing _ => some ⟨_, crossing⟩
  | _, manage call => call.crossing?
  | _, drop _ | _, takeLastError | _, aside _ => none

/-- A place for the result is given if the export asks for one. -/
def HasPlace : {α : Type} → Operation α → Prop
  | _, cross crossing place => crossing.HasPlace place
  | _, manage _ | _, drop _ | _, takeLastError | _, aside _ => True

/-- Whether the operation, as it stands, is to make an object. -/
def Allocates (operation : Operation α) (process : Process) : Prop :=
  operation.HasPlace ∧ ∃ made, operation.call? = some made ∧ made.2.Allocates process

/-- The error that the operation failed with, if it failed.  A direct call leaves it to the
thread, a managed one answers it. -/
def error? : {α : Type} → Operation α → α → Context → Option BridgeError
  | _, cross _ _, (status, _), after => if status = .ok then none else after.lastError
  | _, manage _, result, _ => errorIn? result
  | _, drop _, _, _ | _, takeLastError, _, _ | _, aside _, _, _ => none

theorem error?_run_cross (crossing : Crossing kind) (place : Option kind.Result)
    (context : Context) :
    (cross crossing place).error? ((crossing.invoke place).run context).1
        ((crossing.invoke place).run context).2 =
      errorIn? (crossing.outcome place.isSome context) := by
  cases houtcome : crossing.outcome place.isSome context with
  | ok result =>
      obtain ⟨hanswer, -⟩ := Crossing.invoke_of_ok place houtcome
      rw [hanswer]
      rfl
  | error error =>
      obtain ⟨hanswer, hafter⟩ := Crossing.invoke_of_error place houtcome
      have hlast : ((crossing.invoke place).run context).2.lastError = some error :=
        congrArg Context.lastError hafter
      rw [hanswer, error?, if_neg error.status_ne_ok, hlast]
      rfl

theorem fails_run_iff (operation : Operation α) (context : Context) :
    operation.Fails (operation.run.run context).1 ↔
      operation.error? (operation.run.run context).1 (operation.run.run context).2 ≠ none := by
  cases operation with
  | cross crossing place =>
      rw [run, error?_run_cross]
      cases houtcome : crossing.outcome place.isSome context with
      | ok result =>
          obtain ⟨hanswer, -⟩ := Crossing.invoke_of_ok place houtcome
          simp [hanswer, Fails, errorIn?]
      | error error =>
          obtain ⟨hanswer, -⟩ := Crossing.invoke_of_error place houtcome
          simp [hanswer, Fails, errorIn?, error.status_ne_ok]
  | manage call =>
      rw [run, error?]
      cases (call.perform.run.run context).1 <;> simp [Fails, errorIn?]
  | drop proxy | takeLastError | aside other => simp [Fails, error?]

variable {operation : Operation α} {made : AnyCrossing}

/-- An operation fails as its export does. -/
theorem error?_run (hcall : operation.call? = some made) (hplace : operation.HasPlace)
    (context : Context) :
    operation.error? (operation.run.run context).1 (operation.run.run context).2 =
      errorIn? (made.2.effect context.process.objects context.process.settings).1 := by
  cases operation with
  | cross crossing place =>
      cases hcall
      rw [run, error?_run_cross, Crossing.outcome_eq, Crossing.effectAt_of_hasPlace hplace]
  | manage call =>
      obtain ⟨decode, hmirrors⟩ := ManagedCall.exists_mirrors_perform hcall
      rw [run, error?, hmirrors.result_eq, Crossing.outcome_eq]
      rw [Crossing.effectAt_true]
      cases (made.2.effect context.process.objects context.process.settings).1 <;> rfl
  | drop proxy | takeLastError | aside other => cases hcall

/-- It does to the objects what its export does. -/
theorem objects_run (hcall : operation.call? = some made) (hplace : operation.HasPlace)
    (context : Context) :
    (operation.run.run context).2.process.objects =
      (made.2.effect context.process.objects context.process.settings).2.objects := by
  cases operation with
  | cross crossing place =>
      cases hcall
      rw [run, Crossing.objects_invoke, Crossing.effectAt_of_hasPlace hplace]
  | manage call =>
      have hobjects := congrArg Ledger.objects (ManagedCall.ledger_perform hcall context)
      have hinvoke := made.2.objects_invoke (some made.1.blank) context
      rw [Option.isSome_some, Crossing.effectAt_true] at hinvoke
      exact hobjects.trans hinvoke
  | drop proxy | takeLastError | aside other => cases hcall

end Operation

end InteropBridge
