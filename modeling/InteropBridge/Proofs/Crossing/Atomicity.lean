import InteropBridge.Proofs.Crossing.Running

/-!
# Failed crossings leave nothing behind

Every export looks at its arguments, its place and the objects before it does
anything that can be seen, and what it does then cannot fail any more.
-/

namespace InteropBridge.Crossing

open Attempt

variable {kind : ResultKind}

theorem looks_demand {α : Type} (checked : Except MarshalError α) :
    Looks (demand checked) :=
  looks_ofExcept _

theorem looks_settings : Looks (liftM Native.settings) := fun _ => rfl

theorem looks_readText (view : TextView) : Looks (readText view) :=
  looks_settings.bind fun _ => looks_demand _

theorem looks_joinTexts (left right : TextView) : Looks (joinTexts left right) :=
  (looks_readText left).bind fun _ => (looks_readText right).bind fun _ => looks_pure _

theorem traceless_print (handle : Handle) (line : Int32 → String) :
    Traceless (do
      let object ← Objects.read handle
      Native.writeLine (line object)) :=
  (Objects.looks_read handle).bind_traceless fun _ => (certain_lift _).traceless

/-- The function of every export fails without a trace. -/
theorem traceless_run (crossing : Crossing kind) : Traceless crossing.run := by
  cases crossing with
  | hello => exact (certain_lift _).traceless
  | printNumber number => exact (certain_lift _).traceless
  | add left right => exact (looks_pure _).traceless
  | concat left right => exact (looks_joinTexts left right).traceless
  | concatLent left right => exact (looks_joinTexts left right).traceless
  | printCopy handle => exact traceless_print handle _
  | printLength items =>
      exact looks_settings.bind_traceless fun _ =>
        (looks_demand _).bind_traceless fun _ => (certain_lift _).traceless
  | getNumbers => exact (looks_pure _).traceless
  | maybeMake name =>
      simp only [run]
      split
      · exact (looks_pure _).traceless
      · exact (looks_readText _).bind_traceless fun _ =>
          (Objects.traceless_register 0).bind_certain fun _ => certain_pure _
  | maybeAddOne value => exact (looks_pure _).traceless
  | make => exact Objects.traceless_register 0
  | free handle =>
      simp only [run]
      split
      · exact (certain_pure _).traceless
      · exact Objects.traceless_release handle
  | duplicate handle =>
      exact (Objects.looks_read handle).bind_traceless Objects.traceless_register
  | print handle => exact traceless_print handle _
  | increment handle => exact Objects.traceless_change handle _
  | addTo handle amount => exact Objects.traceless_change handle _
  | get handle => exact (Objects.looks_read handle).traceless

/-- So does the check of the place before it. -/
theorem traceless_attempt (crossing : Crossing kind) (hasPlace : Bool) :
    Traceless (crossing.attempt hasPlace) := by
  rw [attempt_eq]
  split
  · exact (looks_throw _).traceless
  · exact traceless_run crossing
  · exact traceless_run crossing

/-- The context after a failed call of an export: the call is counted, its error
is counted if it is a marshal error, both are logged, and the error is the last
one of the thread.  All else is as it was. -/
def failedFrom (crossing : Crossing kind) (error : BridgeError) (before : Context) :
    Context where
  process := { before.process with
    tally := { before.process.tally with
      callsMade := before.process.tally.callsMade + 1
      marshalErrors :=
        before.process.tally.marshalErrors + if error.isMarshal then 1 else 0 }
    journal := (before.process.journal.emit
      (.called crossing.target.symbol crossing.target.signature.arity)).emit
        (.failed crossing.target.symbol error.message) }
  thread := { before.thread with lastError := some error }

/-- A failed call of an export leaves the place for its result as it was, and
nothing but the record of the call behind. -/
theorem failed_invoke_leaves_no_trace (crossing : Crossing kind)
    (place : Option kind.Result) (before : Context)
    (hfail : ((crossing.invoke place).run before).1.1 ≠ .ok) :
    ((crossing.invoke place).run before).1.2 = place ∧
      ∃ error : BridgeError,
        error.status = ((crossing.invoke place).run before).1.1 ∧
        ((crossing.invoke place).run before).2 = crossing.failedFrom error before := by
  rw [run_invoke] at hfail ⊢
  rcases hattempt : (crossing.attempt place.isSome).run.run (crossing.entered before) with
    ⟨error | result, entered⟩
  · have hentered := traceless_attempt crossing _ _ error entered hattempt
    subst hentered
    exact ⟨rfl, error, rfl, rfl⟩
  · rw [hattempt] at hfail
    exact absurd rfl hfail

/-- A copy that there is no room for fails, and the place keeps what it held. -/
theorem failed_invoke_leaves_no_trace_duplicate :
    (((Crossing.duplicate ⟨1⟩).invoke (some ⟨9⟩)).run
      { process.objects := (HandleTable.empty className).issued 5
        process.settings.handles.maxLive := 1 }).1.1 ≠ .ok ∧
    (((Crossing.duplicate ⟨1⟩).invoke (some ⟨9⟩)).run
      { process.objects := (HandleTable.empty className).issued 5
        process.settings.handles.maxLive := 1 }).1.2 = some ⟨9⟩ := by
  have hfail : (((Crossing.duplicate ⟨1⟩).invoke (some ⟨9⟩)).run
      { process.objects := (HandleTable.empty className).issued 5
        process.settings.handles.maxLive := 1 }).1.1 ≠ .ok := by
    decide
  exact ⟨hfail, (failed_invoke_leaves_no_trace (.duplicate ⟨1⟩) (some ⟨9⟩) _ hfail).1⟩

end InteropBridge.Crossing
