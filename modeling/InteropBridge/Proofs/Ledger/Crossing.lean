import InteropBridge.Proofs.Crossing.Atomicity
import InteropBridge.Proofs.Ledger.Recording
import InteropBridge.Proofs.Managed.Asking

/-!
# What crossings tell

The result of an export tells what became of handles and objects, and it tells
the whole of it: the ledger takes no other turn in the call.  This holds of the
call itself and of what a managed caller makes of it.
-/

namespace InteropBridge

open Attempt

namespace Crossing

variable {kind : ResultKind}

/-- What the result of a successful call tells of. -/
def happenings : {kind : ResultKind} → Crossing kind → kind.Result → List Happening
  | _, .make, handle => [.made handle]
  | _, .maybeMake _, made => made.toOption.toList.map .made
  | _, .duplicate source, handle => [.copied source handle]
  | _, .increment handle, _ => [.added handle 1]
  | _, .addTo handle amount, _ => [.added handle amount]
  | _, .free handle, _ => [.released handle]
  | _, .hello, _ | _, .printNumber _, _ | _, .add .., _ | _, .concat .., _
  | _, .concatLent .., _ | _, .printCopy _, _ | _, .printLength _, _ | _, .getNumbers, _
  | _, .maybeAddOne _, _ | _, .print _, _ | _, .get _, _ => []

/-- What a status and the place after the call tell of. -/
def told (crossing : Crossing kind) : Status → kind.Result → List Happening
  | .ok, result => crossing.happenings result
  | .allocationFailed, _ | .disposedHandle, _ | .marshalFailed, _ | .absentValue, _
  | .nativePanic, _ => []

theorem told_of_ne_ok (crossing : Crossing kind) {status : Status} (hstatus : status ≠ .ok)
    (result : kind.Result) : crossing.told status result = [] := by
  cases status with
  | ok => exact absurd rfl hstatus
  | allocationFailed | disposedHandle | marshalFailed | absentValue | nativePanic => rfl

/-- Exports without a place for a result tell the same whatever is looked at in its
place. -/
theorem happenings_of_no_place {crossing : Crossing kind}
    (hplace : crossing.placeName? = none) (left right : kind.Result) :
    crossing.happenings left = crossing.happenings right := by
  cases crossing with
  | hello | printNumber | printCopy | printLength | free | print | increment | addTo => rfl
  | add | concat | concatLent | getNumbers | maybeMake | maybeAddOne | make | duplicate
  | get => cases hplace

theorem silent_print (handle : Handle) (line : Int32 → String) :
    Attempt.Silent (do
      let object ← Objects.read handle
      Native.writeLine (line object)) :=
  (Objects.looks_read handle).silent.bind fun _ => records_lift (Native.silent_writeLine _)

theorem records_maybeMake (name : Flagged TextView) :
    Records (maybeMake name).happenings (maybeMake name).run := by
  simp only [run]
  split
  · exact (looks_pure _).silent
  · exact (looks_readText _).silent.bind fun _ =>
      Objects.records_make.map fun _ => rfl

theorem records_free (handle : Handle) :
    Records (free handle).happenings (free handle).run := by
  simp only [run]
  cases hnull : handle.isNull with
  | false => exact Objects.records_release handle
  | true =>
      obtain rfl : handle = .null := by
        by_contra hhandle
        rw [HandleTable.isNull_eq_false hhandle] at hnull
        cases hnull
      intro context
      exact (Ledger.Turn.passed (HandleTable.find_null _)).turns

theorem records_run (crossing : Crossing kind) :
    Records crossing.happenings crossing.run := by
  cases crossing with
  | hello => exact records_lift (Native.silent_writeLine _)
  | printNumber number => exact records_lift (Native.silent_writeLine _)
  | add left right => exact (looks_pure _).silent
  | concat left right => exact (looks_joinTexts left right).silent
  | concatLent left right => exact (looks_joinTexts left right).silent
  | printCopy handle => exact silent_print handle _
  | printLength items =>
      exact looks_settings.silent.bind fun _ => (looks_demand _).silent.bind fun _ =>
        records_lift (Native.silent_writeLine _)
  | getNumbers => exact (looks_pure _).silent
  | maybeMake name => exact records_maybeMake name
  | maybeAddOne value => exact (looks_pure _).silent
  | make => exact Objects.records_make
  | free handle => exact records_free handle
  | duplicate handle => exact Objects.records_duplicate handle
  | print handle => exact silent_print handle _
  | increment handle => exact Objects.records_change handle 1
  | addTo handle amount => exact Objects.records_change handle amount
  | get handle => exact (Objects.looks_read handle).silent

/-- Checking that there is a place touches nothing. -/
theorem records_attempt (crossing : Crossing kind) (hasPlace : Bool) :
    Records crossing.happenings (crossing.attempt hasPlace) := by
  rw [attempt_eq]
  split
  · exact (looks_throw _).silent
  · exact records_run crossing
  · exact records_run crossing

theorem attempt_needs_place {crossing : Crossing kind} {before after : Context}
    {result : kind.Result}
    (hattempt : (crossing.attempt false).run.run before = (.ok result, after)) :
    crossing.placeName? = none := by
  cases hplace : crossing.placeName? with
  | none => rfl
  | some what =>
      rw [attempt_eq, hplace] at hattempt
      cases hattempt

/-- The ledger takes the turns that the status and the place after the call tell
of. -/
theorem records_invoke (crossing : Crossing kind) (place : Option kind.Result)
    (otherwise : kind.Result) :
    (crossing.invoke place).Records fun answer =>
      crossing.told answer.1 (answer.2.getD otherwise) := by
  intro context
  have hturns := records_attempt crossing place.isSome (crossing.entered context)
  rw [run_invoke]
  rcases hattempt : (crossing.attempt place.isSome).run.run (crossing.entered context) with
    ⟨error | result, after⟩
  · rw [hattempt] at hturns
    dsimp only
    rw [told_of_ne_ok crossing error.status_ne_ok]
    exact hturns
  · rw [hattempt] at hturns
    cases place with
    | some held => exact hturns
    | none =>
        have hnone := attempt_needs_place hattempt
        change Ledger.Turns _ (crossing.happenings otherwise) _
        rw [happenings_of_no_place hnone otherwise result]
        exact hturns

end Crossing

namespace Managed

variable {kind : ResultKind}

theorem records_ask (crossing : Crossing kind) :
    Records crossing.happenings (ask crossing) := by
  intro context
  have hturns := Crossing.records_attempt crossing true (crossing.entered context)
  rw [run_ask]
  rcases hattempt : (crossing.attempt true).run.run (crossing.entered context) with
    ⟨error | result, after⟩ <;>
  · rw [hattempt] at hturns
    exact hturns

theorem silent_lend (text : ManagedText) : Attempt.Silent (lend text) := by
  refine Silent.bind (records_lift (Native.silent_emit _)) fun _ => ?_
  cases text.toNative with
  | ok native => exact (looks_pure _).silent
  | error fault =>
      exact Silent.bind (records_lift Native.silent_countMarshalError) fun _ =>
        (looks_throw _).silent

theorem silent_releaseText (buffer : Buffer NativeText) : buffer.releaseText.Silent := by
  cases buffer with
  | placeholder => exact Native.silent_pure ()
  | made text => exact Native.silent_emit _

theorem silent_releaseSequence (buffer : Buffer (List Int32)) :
    buffer.releaseSequence.Silent := by
  cases buffer with
  | placeholder => exact Native.silent_pure ()
  | made items => exact Native.silent_emit _

theorem silent_adoptText (buffer : Buffer NativeText) : (adoptText buffer).Silent :=
  (Native.silent_emit _).bind fun _ =>
    (silent_releaseText buffer).bind fun _ => Native.silent_pure _

theorem silent_adoptSequence (buffer : Buffer (List Int32)) : (adoptSequence buffer).Silent :=
  (silent_releaseSequence buffer).bind fun _ => Native.silent_pure _

end Managed

end InteropBridge
