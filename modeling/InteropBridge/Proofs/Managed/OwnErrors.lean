import InteropBridge.Proofs.Managed.ManagedCall

/-!
# The errors of managed calls are those of their exports

A managed caller learns of a failure by its status only and takes the error behind it from
its thread.  An export clears that place when it is entered and fills it when it fails, so
what the caller finds there is what this very call failed with.  An earlier error that
nobody has taken makes no difference, and there is no need for the errors that stand in
for a missing one.
-/

namespace InteropBridge

open Attempt

variable {kind : ResultKind} {α : Type}

theorem HandleTable.refusal_ne_noDetail (live limit : Nat) :
    refusal live limit ≠ "no detail recorded" := by
  intro heq
  have hcomma : ',' ∈ (refusal live limit).toList := by
    simp [refusal, String.toList_append]
  rw [heq] at hcomma
  revert hcomma
  decide

/-- No export fails with one of the errors that stand in for a missing one. -/
theorem Crossing.Fault.ne_fallback {error : BridgeError} (hfault : Crossing.Fault error)
    (status : Status) : error ≠ Managed.fallback status := by
  cases hfault with
  | nullPointer what | misaligned what | tooLong what length limit | invalidUtf8 validUpTo
  | nullHandle => cases status <;> simp [Managed.fallback]
  | disposedHandle hhandle => cases status <;> simp [Managed.fallback, hhandle]
  | noRoom kind live limit =>
      cases status <;> simp [Managed.fallback, HandleTable.refusal_ne_noDetail]

namespace ManagedCall

/-- A call during which an export was entered is a direct call of that export. -/
theorem exists_crossing?_of_entered {call : ManagedCall α} {context : Context}
    {target : Export}
    (hentered : context.Entered target (call.perform.run.run context).2) :
    ∃ made, call.crossing? = some made ∧ made.2.target = target := by
  cases hmade : call.crossing? with
  | none =>
      have hkept := (staysOutside_perform hmade).entries context
      have hcounted := hentered.counted
      rw [hkept] at hcounted
      omega
  | some made =>
      obtain ⟨decode, hmirrors⟩ := exists_mirrors_perform hmade
      exact ⟨made, rfl, (hmirrors.enters context).unique hentered⟩

/-- A managed call that crosses the boundary and fails, fails with the very error that its
export ended in, and whatever place for the result a direct call is given, that call
answers the status of this error and records it.  The error is none of those that stand in
for a missing one, and an error that was pending before makes no difference to it. -/
theorem fails_with_own_error (call : ManagedCall α) (context after : Context)
    (error : BridgeError) (hfails : call.perform.run.run context = (.error error, after))
    (hcrosses : ∃ target, context.Entered target after) :
    ∃ made : AnyCrossing, call.crossing? = some made ∧ context.Entered made.2.target after ∧
      made.2.outcome true context = .error error ∧
      (∀ place, ((made.2.invoke (some place)).run context).1 = (error.status, some place) ∧
        ((made.2.invoke (some place)).run context).2.thread.lastError = some error) ∧
      (∀ status, error ≠ Managed.fallback status) ∧
      ∀ pending, (call.perform.run.run
        { context with thread.lastError := pending }).1 = .error error := by
  obtain ⟨target, hentered⟩ := hcrosses
  obtain rfl : (call.perform.run.run context).2 = after := congrArg Prod.snd hfails
  obtain ⟨made, hmade, rfl⟩ := exists_crossing?_of_entered hentered
  obtain ⟨decode, hmirrors⟩ := exists_mirrors_perform hmade
  have hresult := hmirrors.result_eq context
  rw [hfails] at hresult
  cases houtcome : made.2.outcome true context with
  | ok result =>
      rw [houtcome] at hresult
      cases hresult
  | error own =>
      rw [houtcome] at hresult
      obtain rfl : error = own := Except.error.inj hresult
      refine ⟨made, hmade, hentered, houtcome, fun place => ?_, fun status => ?_,
        fun pending => ?_⟩
      · obtain ⟨hanswer, hafter⟩ := Crossing.invoke_of_error (some place) houtcome
        exact ⟨hanswer, congrArg Context.lastError hafter⟩
      · have hfault := made.2.faults_attempt true (made.2.entered context)
        rw [Crossing.outcome] at houtcome
        rw [houtcome] at hfault
        exact hfault.ne_fallback status
      · -- Entering the export makes the two contexts one.
        have hsame : made.2.outcome true { context with thread.lastError := pending } =
            .error error := houtcome
        rw [hmirrors.result_eq, hsame]
        rfl

/-- Getting the value of an object that is gone fails with the error for its handle, and
not with the one that an earlier call has left. -/
theorem fails_with_own_error_pending :
    ∃ after,
      (ManagedCall.get ⟨⟨5⟩, false⟩).perform.run.run
          { thread.lastError := some (.marshal .unspecified) } =
        (.error (.disposedHandle ⟨5⟩), after) ∧
      (∃ target, Context.Entered target
        { thread.lastError := some (.marshal .unspecified) } after) ∧
      ∀ status, BridgeError.disposedHandle ⟨5⟩ ≠ Managed.fallback status := by
  have hcrosses : ∃ target, Context.Entered target
      { thread.lastError := some (.marshal .unspecified) }
      ((ManagedCall.get ⟨⟨5⟩, false⟩).perform.run.run
        { thread.lastError := some (.marshal .unspecified) }).2 :=
    ⟨.get, rfl, rfl⟩
  obtain ⟨-, -, -, -, -, hown, -⟩ :=
    fails_with_own_error (.get ⟨⟨5⟩, false⟩)
      { thread.lastError := some (.marshal .unspecified) } _ (.disposedHandle ⟨5⟩) rfl hcrosses
  exact ⟨_, rfl, hcrosses, hown⟩

end ManagedCall

end InteropBridge
