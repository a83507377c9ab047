import InteropBridge.Proofs.Threads.Booking

/-!
# The last error of a thread

The last error of a thread follows from the operations of that thread alone.  A direct
call of an export clears it or records the error that the call failed with, and a managed
call takes it.  Whatever does not get to an export leaves it alone, and so does everything
that other threads do.
-/

namespace InteropBridge

open Attempt

variable {α : Type}

namespace Operation

/-- Whether the operation is a managed call or lets go of a proxy. -/
def IsManaged : {α : Type} → Operation α → Prop
  | _, manage _ | _, drop _ => True
  | _, cross .. | _, takeLastError | _, aside _ => False

/-- A managed call takes the error of the export that it enters. -/
theorem mark_of_isManaged {operation : Operation α} (hmanaged : operation.IsManaged)
    (context : Context) :
    operation.mark context = if operation.target?.isSome then .cleared else .kept := by
  cases operation with
  | manage call => simp [mark, target?]
  | drop proxy => cases hproxy : proxy.isDisposed <;> simp [mark, target?, hproxy]
  | cross crossing place => cases hmanaged
  | takeLastError => cases hmanaged
  | aside other => cases hmanaged

end Operation

namespace Machine

variable {Name : Type} [DecidableEq Name]

theorem lastError_perform (machine : Machine Name) (name : Name) (operation : Operation α) :
    ((machine.perform name operation).2.threads name).lastError =
      (operation.mark (machine.seenBy name)).next (machine.threads name).lastError := by
  have hseen := congrArg Context.lastError (machine.seenBy_perform name operation)
  exact hseen.trans (operation.lastError_run (machine.seenBy name))

/-- A direct call answers the status of the error that it leaves, or that of success. -/
theorem status_perform_cross {kind : ResultKind} (machine : Machine Name) (name : Name)
    (crossing : Crossing kind) (place : Option kind.Result) :
    (machine.perform name (.cross crossing place)).1.1 =
      ((machine.perform name (.cross crossing place)).2.threads name).lastError.elim .ok
        (·.status) := by
  rw [lastError_perform]
  change ((crossing.invoke place).run (machine.seenBy name)).1.1 = _
  cases houtcome : crossing.outcome place.isSome (machine.seenBy name) with
  | ok result =>
      obtain ⟨hanswer, -⟩ := Crossing.invoke_of_ok place houtcome
      simp [hanswer, Operation.mark, houtcome, Mark.next]
  | error error =>
      obtain ⟨hanswer, -⟩ := Crossing.invoke_of_error place houtcome
      simp [hanswer, Operation.mark, houtcome, Mark.next]

/-- What the turns of one thread in a run do to its last error, in order. -/
def marks (name : Name) : Machine Name → List (Move Name) → List Mark
  | _, [] => []
  | machine, move :: rest =>
      if move.thread = name then
        move.operation.mark (machine.seenBy name) :: marks name (machine.step move) rest
      else marks name (machine.step move) rest

/-- After a run, the last error of a thread is what its own turns have made of it. -/
theorem lastError_after (machine : Machine Name) (name : Name) (moves : List (Move Name)) :
    ((machine.after moves).threads name).lastError =
      (marks name machine moves).foldl (fun last mark => mark.next last)
        (machine.threads name).lastError := by
  induction moves generalizing machine with
  | nil => rfl
  | cons move rest ih =>
      have hrest : ((machine.after (move :: rest)).threads name).lastError = _ :=
        ih (machine.step move)
      rw [hrest, marks]
      by_cases hown : move.thread = name
      · rw [if_pos hown, List.foldl_cons, ← lastError_perform, step, hown]
      · have hother := machine.threads_perform_of_ne (Ne.symm hown) move.operation
        rw [if_neg hown, step, hother]

/-- What the operations of a thread do to its last error from a machine on. -/
structure LastErrorProtocol (machine : Machine Name) (name : Name) : Prop where
  /-- A direct call of an export that answers success leaves no error. -/
  succeeded : ∀ {kind : ResultKind} (crossing : Crossing kind) (place : Option kind.Result),
    let performed := machine.perform name (.cross crossing place)
    performed.1.1 = .ok → (performed.2.threads name).lastError = none
  /-- One that answers another status leaves the error of this status. -/
  failed : ∀ {kind : ResultKind} (crossing : Crossing kind) (place : Option kind.Result),
    let performed := machine.perform name (.cross crossing place)
    performed.1.1 ≠ .ok → ∃ error, error.status = performed.1.1 ∧
      (performed.2.threads name).lastError = some error
  /-- The code that the thread asks for next is that of the status, whatever other threads
  do in between. -/
  code : ∀ {kind : ResultKind} (crossing : Crossing kind) (place : Option kind.Result)
    (between : List (Move Name)), (∀ move ∈ between, move.thread ≠ name) →
    let performed := machine.perform name (.cross crossing place)
    ((performed.2.after between).perform name (.aside .lastErrorCode)).1 =
      performed.1.1.code
  /-- A managed call that enters an export leaves no error, however it ends. -/
  managed : ∀ {α : Type} (operation : Operation α), operation.IsManaged →
    let after := (machine.perform name operation).2
    (∃ target, (machine.seenBy name).Entered target (after.seenBy name)) →
      (after.threads name).lastError = none
  /-- One that enters none leaves the last error as it is. -/
  rejected : ∀ {α : Type} (operation : Operation α), operation.IsManaged →
    let after := (machine.perform name operation).2
    (∀ target, ¬ (machine.seenBy name).Entered target (after.seenBy name)) →
      (after.threads name).lastError = (machine.threads name).lastError
  /-- So does everything aside from calls. -/
  asides : ∀ {α : Type} (other : Aside α),
    ((machine.perform name (.aside other)).2.threads name).lastError =
      (machine.threads name).lastError
  /-- Taking the last error returns it and leaves none. -/
  taken :
    (machine.perform name .takeLastError).1 = (machine.threads name).lastError ∧
    ((machine.perform name .takeLastError).2.threads name).lastError = none
  /-- Other threads leave the thread alone. -/
  others : ∀ {α : Type} (other : Name) (operation : Operation α), other ≠ name →
    (machine.perform other operation).2.threads name = machine.threads name

theorem lastErrorProtocol (machine : Machine Name) (name : Name) :
    machine.LastErrorProtocol name where
  succeeded crossing place := by
    intro performed hok
    cases hlast : (performed.2.threads name).lastError with
    | none => rfl
    | some error =>
        have hstatus := machine.status_perform_cross name crossing place
        rw [hlast] at hstatus
        exact absurd (hstatus.symm.trans hok) error.status_ne_ok
  failed crossing place := by
    intro performed hfailed
    have hstatus := machine.status_perform_cross name crossing place
    cases hlast : (performed.2.threads name).lastError with
    | none =>
        rw [hlast] at hstatus
        exact absurd hstatus hfailed
    | some error =>
        rw [hlast] at hstatus
        exact ⟨error, hstatus.symm, rfl⟩
  code crossing place between hbetween := by
    intro performed
    have hkept := threads_after_of_others hbetween performed.2
    calc
      ((performed.2.after between).perform name (.aside .lastErrorCode)).1 =
          (((performed.2.after between).threads name).lastError.elim Status.ok
            (·.status)).code := rfl
      _ = ((performed.2.threads name).lastError.elim Status.ok (·.status)).code := by
        rw [hkept]
      _ = performed.1.1.code := by
        rw [← machine.status_perform_cross name crossing place]
  managed operation hmanaged := by
    intro after ⟨target, hentered⟩
    rw [machine.seenBy_perform, operation.entered_iff] at hentered
    have hlast := machine.lastError_perform name operation
    rw [Operation.mark_of_isManaged hmanaged, hentered] at hlast
    exact hlast
  rejected operation hmanaged := by
    intro after hentered
    have hlast := machine.lastError_perform name operation
    have htarget : operation.target? = none := by
      apply Option.eq_none_iff_forall_ne_some.mpr
      intro target htarget
      apply hentered target
      rw [machine.seenBy_perform, operation.entered_iff]
      exact htarget
    rw [Operation.mark_of_isManaged hmanaged, htarget] at hlast
    exact hlast
  asides other := machine.lastError_perform name (.aside other)
  taken := ⟨rfl, machine.lastError_perform name .takeLastError⟩
  others other operation hother := machine.threads_perform_of_ne hother.symm operation

/-- At every point of a run of any threads, the last error of a thread is what its own
operations have made of it, and what they make of it follows the protocol. -/
theorem lastError_follows_protocol (machine : Machine Name) (moves : List (Move Name))
    (name : Name) :
    ((machine.after moves).threads name).lastError =
      (marks name machine moves).foldl (fun last mark => mark.next last)
        (machine.threads name).lastError ∧
    (machine.after moves).LastErrorProtocol name :=
  ⟨machine.lastError_after name moves, (machine.after moves).lastErrorProtocol name⟩

/-- A call by an unknown name is rejected, so the error of the call before it stays. -/
example :
    let machine := ({} : Machine Bool).after
      [⟨true, .cross (.get ⟨5⟩) (some 0)⟩, ⟨false, .cross .hello none⟩,
        ⟨true, .manage (.byName "TestClass.set" [])⟩]
    (machine.threads true).lastError = some (.disposedHandle ⟨5⟩) ∧
      (machine.threads false).lastError = none := by
  decide

end Machine

end InteropBridge
