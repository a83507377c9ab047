import InteropBridge.Objects
import InteropBridge.Proofs.Computation
import InteropBridge.Proofs.Handle.Table

/-!
# Running the operations on objects

Each operation on the objects of a process comes to one operation of the handle
table.  Where the table refuses, nothing else happens; where it does not, the
table is put in place, the handle is counted and the event is emitted.
-/

namespace InteropBridge.Objects

/-- A process that has stored an object: the table with it, one more handle
allocated, and the event. -/
def stored (object : Int32) (process : Process) : Process :=
  let objects := process.objects.issued object
  { process with
    objects
    tally.handlesAllocated := process.tally.handlesAllocated + 1
    journal := process.journal.emit
      (.allocated objects.kind ⟨process.objects.next⟩ objects.live) }

/-- A process that has ended a handle: the table without it, one more handle
released, and the event. -/
def ended (handle : Handle) (process : Process) : Process :=
  let objects := process.objects.without handle
  { process with
    objects
    tally.handlesReleased := process.tally.handlesReleased + 1
    journal := process.journal.emit (.released objects.kind handle objects.live) }

/-- A process that has ended every handle. -/
def emptied (process : Process) : Process :=
  { process with
    objects := process.objects.clear.2
    tally.handlesReleased :=
      process.tally.handlesReleased + process.objects.clear.1 }

theorem run_read (handle : Handle) (context : Context) :
    (read handle).run.run context = (context.process.objects.find handle, context) :=
  Attempt.run_ofExcept _ _

theorem run_change (handle : Handle) (revise : Int32 → Int32) (context : Context) :
    (change handle revise).run.run context =
      match context.process.objects.find handle with
      | .ok _ =>
          (.ok (), { context with
            process.objects := context.process.objects.revised handle revise })
      | .error error => (.error error, context) := by
  rw [change]
  simp only [Attempt.run_bind, Attempt.run_get, Attempt.run_ofExcept,
    HandleTable.update_eq]
  cases context.process.objects.find handle <;> rfl

theorem run_register (object : Int32) (context : Context) :
    (register object).run.run context =
      if context.process.objects.live < context.process.settings.handles.maxLive then
        (.ok ⟨context.process.objects.next⟩,
          { context with process := stored object context.process })
      else
        (.error (.allocation context.process.objects.kind
          (HandleTable.refusal context.process.objects.live
            context.process.settings.handles.maxLive)), context) := by
  rw [register]
  simp only [Attempt.run_bind, Attempt.run_get, Attempt.run_ofExcept,
    HandleTable.insert_eq]
  by_cases hroom : context.process.objects.live < context.process.settings.handles.maxLive
  · simp only [if_pos hroom]
    rfl
  · simp only [if_neg hroom]

/-- A release that finds nothing is an error or an ignored event, as the policy
says; the null handle is refused whatever it says. -/
theorem run_release (handle : Handle) (context : Context) :
    (release handle).run.run context =
      match context.process.objects.find handle with
      | .ok _ => (.ok (), { context with process := ended handle context.process })
      | .error (.disposedHandle stale) =>
          match context.process.settings.handles.doubleRelease with
          | .ignore => (.ok (), ((Native.emit (.releaseIgnored stale)).run context).2)
          | .report => (.error (.disposedHandle stale), context)
      | .error error => (.error error, context) := by
  rw [release]
  simp only [Attempt.run_bind, Attempt.run_get, HandleTable.remove_eq]
  cases context.process.objects.find handle with
  | ok object => rfl
  | error error =>
      cases error with
      | disposedHandle stale =>
          cases context.process.settings.handles.doubleRelease <;> rfl
      | allocation _ _ | marshal _ | absentValue _ | nativePanic _ _ => rfl

theorem run_releaseAll (context : Context) :
    releaseAll.run context =
      (context.process.objects.clear.1,
        { context with process := emptied context.process }) := rfl

theorem run_shutdown (context : Context) :
    shutdown.run context =
      (context.process.objects.clear.1,
        if context.process.objects.clear.1 > 0 then
          ((Native.emit (.leaked context.process.objects.clear.1)).run
            { context with process := emptied context.process }).2
        else { context with process := emptied context.process }) := by
  rw [shutdown, Native.run_bind, run_releaseAll]
  dsimp only
  split <;> rfl

/-! ## Failing without a trace -/

theorem looks_read (handle : Handle) : Attempt.Looks (read handle) := by
  intro context
  rw [run_read]

theorem traceless_change (handle : Handle) (revise : Int32 → Int32) :
    Attempt.Traceless (change handle revise) := by
  intro context error after hrun
  rw [run_change] at hrun
  split at hrun
  · cases hrun
  · cases hrun
    rfl

theorem traceless_register (object : Int32) : Attempt.Traceless (register object) := by
  intro context error after hrun
  rw [run_register] at hrun
  split at hrun
  · cases hrun
  · cases hrun
    rfl

theorem traceless_release (handle : Handle) : Attempt.Traceless (release handle) := by
  intro context error after hrun
  rw [run_release] at hrun
  split at hrun
  · cases hrun
  · split at hrun
    · cases hrun
    · cases hrun
      rfl
  · cases hrun
    rfl

end InteropBridge.Objects
