import InteropBridge.Proofs.Startup
import InteropBridge.Proofs.Threads

/-!
# The accounts of calls

Calls leave their traces in few places: the counts of calls and of marshal errors, the
calls in the log, and the last error of the thread.  This module states for each kind of
operation what it enters there.
-/

namespace InteropBridge

/-- What calls leave on record. -/
structure Accounts where
  marshalErrors : Nat
  /-- How many calls were counted, and the calls in the log, newest first. -/
  entries : Nat × List Log.Event
  lastError : Option BridgeError

namespace Accounts

/-- One more call of an export, which came to the given result and left the given error
to its thread. -/
def entered {α : Type} (accounts : Accounts) (target : Export) (result : Except BridgeError α)
    (lastError : Option BridgeError) : Accounts where
  marshalErrors := accounts.marshalErrors + marshalErrorsIn result
  entries := (accounts.entries.1 + 1,
    .called target.symbol target.signature.arity :: accounts.entries.2)
  lastError := lastError

/-- Some more marshal errors. -/
def charged (accounts : Accounts) (errors : Nat) : Accounts :=
  { accounts with marshalErrors := accounts.marshalErrors + errors }

/-- The last error was taken. -/
def cleared (accounts : Accounts) : Accounts :=
  { accounts with lastError := none }

end Accounts

namespace Context

def accounts (context : Context) : Accounts where
  marshalErrors := context.process.tally.marshalErrors
  entries := context.entries
  lastError := context.lastError

@[simp]
theorem accounts_outskirts (context : Context) :
    context.outskirts.accounts = context.accounts := by
  simp [accounts, outskirts, entries]

theorem accounts_charged (context : Context) (errors : Nat) :
    (context.charged errors).accounts = context.accounts.charged errors := rfl

theorem accounts_cleared (context : Context) :
    context.cleared.accounts = context.accounts.cleared := rfl

theorem accounts_eq_of_outskirts_eq {left right : Context}
    (houtskirts : left.outskirts = right.outskirts) : left.accounts = right.accounts := by
  rw [← accounts_outskirts, houtskirts, accounts_outskirts]

theorem aloof_accounts : Aloof accounts where
  relogged _ _ hcalls := congrArg (Accounts.mk _ · _) (congrArg (Prod.mk _) hcalls)
  installed _ _ := rfl
  handedOver _ _ := rfl

end Context

/-- The error that a result is, if it is one. -/
def errorIn? {α : Type} : Except BridgeError α → Option BridgeError
  | .ok _ => none
  | .error error => some error

theorem errorIn?_eq_some_iff {α : Type} {result : Except BridgeError α} {error : BridgeError} :
    errorIn? result = some error ↔ result = .error error := by
  cases result <;> simp [errorIn?]

open Attempt

variable {α : Type} {kind : ResultKind}

namespace Crossing

/-- A direct call leaves the error that it comes to, if it comes to one. -/
theorem accounts_invoke (crossing : Crossing kind) (place : Option kind.Result)
    (context : Context) :
    ((crossing.invoke place).run context).2.accounts =
      context.accounts.entered crossing.target (crossing.outcome place.isSome context)
        (errorIn? (crossing.outcome place.isSome context)) := by
  cases houtcome : crossing.outcome place.isSome context with
  | ok result =>
      rw [Context.accounts_eq_of_outskirts_eq (invoke_of_ok place houtcome).2]
      rfl
  | error error =>
      rw [Context.accounts_eq_of_outskirts_eq (invoke_of_error place houtcome).2]
      rfl

end Crossing

namespace ManagedCall

/-- A managed call that gets to the boundary leaves no error. -/
theorem accounts_perform {call : ManagedCall α} {made : AnyCrossing}
    (hmade : call.crossing? = some made) (context : Context) :
    (call.perform.run.run context).2.accounts =
      context.accounts.entered made.2.target (call.perform.run.run context).1 none := by
  obtain ⟨decode, hmirrors⟩ := exists_mirrors_perform hmade
  -- Any place for the result would do.
  rw [← Context.accounts_outskirts, hmirrors.outskirts context made.1.blank,
    Context.accounts_cleared, Context.accounts_outskirts, Crossing.accounts_invoke,
    Option.isSome_some, hmirrors.result_eq]
  cases made.2.outcome true context <;> rfl

/-- One that does not leaves the last error alone. -/
theorem accounts_perform_of_none {call : ManagedCall α} (hnone : call.crossing? = none)
    (context : Context) :
    (call.perform.run.run context).2.accounts =
      context.accounts.charged (marshalErrorsIn (call.perform.run.run context).1) := by
  rw [← Context.accounts_outskirts, (staysOutside_perform hnone).outskirts context,
    Context.accounts_charged, Context.accounts_outskirts]

end ManagedCall

/-! ## Drops -/

theorem Objects.ends_release {handle : Handle} (hhandle : handle ≠ .null) :
    (release handle).Ends (fun _ => True) fun error => error.isMarshal = false := by
  intro context
  rw [run_release]
  cases hfind : context.process.objects.find handle with
  | ok object => trivial
  | error error =>
      obtain ⟨rfl, -⟩ | ⟨-, rfl⟩ := HandleTable.find_error hfind
      · exact absurd rfl hhandle
      · cases context.process.settings.handles.doubleRelease with
        | ignore => trivial
        | report => rfl

/-- Freeing the null handle is no error, so freeing never ends in a marshal error. -/
theorem Crossing.ends_free (handle : Handle) :
    (free handle).run.Ends (fun _ => True) fun error => error.isMarshal = false := by
  by_cases hhandle : handle = .null
  · subst hhandle
    exact ends_pure trivial
  · rw [run, HandleTable.isNull_eq_false hhandle]
    exact Objects.ends_release hhandle

theorem Proxy.ends_dispose (proxy : Proxy) :
    proxy.dispose.Ends (fun _ => True) fun error => error.isMarshal = false := by
  cases hproxy : proxy.isDisposed with
  | true =>
      rw [dispose_of_disposed hproxy]
      exact ends_pure trivial
  | false =>
      rw [dispose_of_not_disposed hproxy]
      apply Managed.ends_ask (.free proxy.raw)
      rw [Crossing.attempt_true]
      exact Crossing.ends_free proxy.raw

theorem Log.Event.isCall_dropFailed (handle : Handle) (error : String) :
    (dropFailed handle error).isCall = false := by
  apply isCall_eq_false
  simp [dropFailed, String.toList_append]

/-- The drop of a proxy that has its handle leaves no error, even where the release
fails. -/
theorem Proxy.accounts_drop (proxy : Proxy) (context : Context) :
    (proxy.drop.run context).2.accounts = (proxy.dispose.run.run context).2.accounts := by
  rw [drop, Native.run_bind]
  cases (proxy.dispose.run.run context).1 with
  | ok released => rfl
  | error error => exact Context.aloof_accounts.keeps_emit (Log.Event.isCall_dropFailed _ _) _

/-! ## Operations aside from calls -/

theorem Objects.keeps_shutdown : shutdown.Keeps Context.accounts := by
  intro context
  rw [run_shutdown]
  split
  · exact Context.aloof_accounts.keeps_emit rfl _
  · rfl

/-- Nothing but calls is on record. -/
theorem Aside.keeps_run (other : Aside α) : other.run.Keeps Context.accounts := by
  cases other with
  | releaseText buffer =>
      cases buffer with
      | placeholder => exact fun _ => rfl
      | made text => exact Context.aloof_accounts.keeps_emit rfl
  | releaseSequence buffer =>
      cases buffer with
      | placeholder => exact fun _ => rfl
      | made items => exact Context.aloof_accounts.keeps_emit rfl
  | shutdown => exact Objects.keeps_shutdown
  | start installed => exact Context.aloof_accounts.keeps_start installed
  | startFrom files directory => exact Context.aloof_accounts.keeps_startFrom files directory
  | startLogging plan => exact Context.aloof_accounts.keeps_startLogging plan
  | cleanUp => exact Objects.keeps_shutdown.bind fun _ => Context.aloof_accounts.keeps_letGoOfWriter
  | writeLine line =>
      intro context
      apply Context.accounts_eq_of_outskirts_eq
      exact Native.keeps_writeLine line context
  | lastErrorCode | lastErrorLength | lastErrorMessage buffer capacity | tally | settings
  | install installed | live | openCapture | closeCapture outer => exact fun _ => rfl

end InteropBridge
