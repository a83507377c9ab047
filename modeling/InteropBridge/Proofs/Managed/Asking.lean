import InteropBridge.Managed.Proxy
import InteropBridge.Proofs.Crossing.Faults

/-!
# Running a managed call

A managed caller gives a blank place away, and turns the status that comes back
into the error behind it.  What it learns is therefore what the attempt of the
export came to, and the last error of the thread is gone afterwards.  A proxy makes
such calls on its object, until it has given the handle up.
-/

namespace InteropBridge

variable {kind : ResultKind}

namespace Managed

/-- The context after a managed call that failed: the error has been taken. -/
def declined (crossing : Crossing kind) (error : BridgeError) (context : Context) : Context :=
  { crossing.refused error context with
    thread := { context.thread with lastError := none } }

theorem run_takeLastError (context : Context) :
    Native.takeLastError.run context =
      (context.thread.lastError,
        { context with thread := { context.thread with lastError := none } }) := rfl

theorem run_check_error {status : Status} {error : BridgeError} {context : Context}
    (hstatus : status ≠ .ok) (herror : context.thread.lastError = some error) :
    (check status).run.run context =
      (.error error,
        { context with thread := { context.thread with lastError := none } }) := by
  have hfailed : status.isOk = false := by
    cases status with
    | ok => exact absurd rfl hstatus
    | allocationFailed | disposedHandle | marshalFailed | absentValue | nativePanic => rfl
  rw [check, hfailed, if_neg Bool.false_ne_true, Attempt.run_bind, Attempt.run_lift,
    run_takeLastError, herror]
  rfl

/-- A managed call comes to what the attempt of the export comes to. -/
theorem run_ask (crossing : Crossing kind) (context : Context) :
    (ask crossing).run.run context =
      match (crossing.attempt true).run.run (crossing.entered context) with
      | (.ok result, after) => (.ok result, crossing.returned after)
      | (.error error, after) => (.error error, declined crossing error after) := by
  rw [ask, Attempt.run_bind, Attempt.run_lift, Crossing.run_invoke]
  simp only [Option.isSome_some]
  rcases (crossing.attempt true).run.run (crossing.entered context) with
    ⟨error | result, after⟩
  · have herror : (crossing.refused error after).thread.lastError = some error := rfl
    dsimp only
    rw [Attempt.run_bind_error (run_check_error error.status_ne_ok herror)]
    rfl
  · rfl

/-- Freeing a handle that has an object succeeds. -/
theorem exists_run_ask_free {handle : Handle} {context : Context} {object : Int32}
    (hfind : context.process.objects.find handle = .ok object) :
    ∃ after, (ask (.free handle)).run.run context = (.ok (), after) := by
  have hnull : handle.isNull = false :=
    HandleTable.isNull_eq_false (HandleTable.ne_null_of_find hfind)
  have hrun : (Crossing.free handle).run = Objects.release handle := by
    rw [Crossing.run, hnull]
    rfl
  have hentered :
      ((Crossing.free handle).entered context).process.objects.find handle = .ok object :=
    hfind
  rw [run_ask, Crossing.attempt_true, hrun, Objects.run_release, hentered]
  exact ⟨_, rfl⟩

/-- A managed call fails in the ways its export does. -/
theorem ends_ask (crossing : Crossing kind) {fault : BridgeError → Prop}
    (hattempt : (crossing.attempt true).Ends (fun _ => True) fault) :
    (ask crossing).Ends (fun _ => True) fault := by
  intro context
  have hends := hattempt (crossing.entered context)
  rw [run_ask]
  rcases hrun : (crossing.attempt true).run.run (crossing.entered context) with
    ⟨error | result, after⟩
  · rw [hrun] at hends
    exact hends
  · trivial

theorem fits_ask (crossing : Crossing kind) : (ask crossing).FitsSignatures :=
  ends_ask crossing (crossing.fits_attempt true)

theorem fits_lend (text : ManagedText) : (lend text).FitsSignatures := by
  refine (Attempt.ends_lift _).bind fun _ _ => ?_
  cases hnative : text.toNative with
  | ok native => exact Attempt.ends_pure trivial
  | error fault =>
    refine (Attempt.ends_lift _).bind fun _ _ => Attempt.ends_throw ?_
    rw [ManagedText.toNative] at hnative
    cases hdecode : Utf16.decode text.units with
    | ok native =>
        rw [hdecode] at hnative
        cases hnative
    | error index =>
        rw [hdecode] at hnative
        cases hnative
        rfl

end Managed

namespace Proxy

theorem ask_of_not_disposed {proxy : Proxy} (hproxy : proxy.isDisposed = false)
    (crossing : Handle → Crossing kind) :
    proxy.ask crossing = Managed.ask (crossing proxy.raw) := by
  rw [ask, handle, hproxy]
  rfl

/-- A disposed proxy refuses a call by itself. -/
theorem run_ask_of_disposed {proxy : Proxy} (hproxy : proxy.isDisposed = true)
    (crossing : Handle → Crossing kind) (context : Context) :
    (proxy.ask crossing).run.run context =
      (.error (.disposedHandle proxy.raw), context) := by
  rw [ask, handle, hproxy]
  rfl

end Proxy

end InteropBridge
