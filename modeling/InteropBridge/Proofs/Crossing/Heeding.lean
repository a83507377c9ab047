import InteropBridge.Proofs.Crossing.Effect
import InteropBridge.Proofs.Crossing.Entering

/-!
# What exports heed

An export heeds the objects and the settings, and nothing else.  So if two contexts agree on
these, and in whatever else one cares for, a call of an export gives the same answer in both,
and the contexts after it agree in the same way.  In particular no export reads the log: it
makes no difference to a call what was logged on the way to it.
-/

namespace InteropBridge

/-- From contexts that look alike the computation comes to the same result, and the
contexts after it look alike. -/
def Native.Heeds {α β : Type} (view : Context → β) (body : Native α) : Prop :=
  ∀ left right, view left = view right →
    (body.run left).1 = (body.run right).1 ∧
      view (body.run left).2 = view (body.run right).2

namespace Context

/-- Contexts that are alike agree on what exports heed, and they stay alike whatever is done
at the boundary. -/
structure Likeness (alike : Context → Context → Prop) : Prop where
  objects : ∀ {left right}, alike left right → left.process.objects = right.process.objects
  settings : ∀ {left right}, alike left right → left.process.settings = right.process.settings
  affected : ∀ (effect : Effect) {left right}, alike left right →
    alike (effect.on left) (effect.on right)
  emitted : ∀ (event : Log.Event) {left right}, alike left right →
    alike ((Native.emit event).run left).2 ((Native.emit event).run right).2
  counted : ∀ {left right}, alike left right →
    alike
      { left with process.tally.callsMade := left.process.tally.callsMade + 1 }
      { right with process.tally.callsMade := right.process.tally.callsMade + 1 }
  faulted : ∀ (errors : Nat) {left right}, alike left right →
    alike
      { left with process.tally.marshalErrors := left.process.tally.marshalErrors + errors }
      { right with process.tally.marshalErrors := right.process.tally.marshalErrors + errors }
  marked : ∀ (last : Option BridgeError) {left right}, alike left right →
    alike { left with thread.lastError := last } { right with thread.lastError := last }

end Context

open Attempt

namespace Crossing

variable {kind : ResultKind} {alike : Context → Context → Prop}

/-- What exports do respects every likeness. -/
theorem respects_attempt (hlike : Context.Likeness alike) (crossing : Crossing kind)
    (hasPlace : Bool) : Respects alike (crossing.attempt hasPlace) := by
  intro left right halike
  rw [run_attempt, run_attempt, hlike.objects halike, hlike.settings halike]
  exact ⟨rfl, hlike.affected _ halike⟩

theorem alike_entered (hlike : Context.Likeness alike) (crossing : Crossing kind)
    {left right : Context} (halike : alike left right) :
    alike (crossing.entered left) (crossing.entered right) :=
  hlike.marked none (hlike.counted (hlike.emitted _ halike))

theorem alike_returned (hlike : Context.Likeness alike) (crossing : Crossing kind)
    {left right : Context} (halike : alike left right) :
    alike (crossing.returned left) (crossing.returned right) :=
  hlike.emitted _ halike

theorem alike_refused (hlike : Context.Likeness alike) (crossing : Crossing kind)
    (error : BridgeError) {left right : Context} (halike : alike left right) :
    alike (crossing.refused error left) (crossing.refused error right) :=
  hlike.marked (some error) (hlike.emitted _ (hlike.faulted _ halike))

/-- So does a direct call of an export. -/
theorem respects_invoke (hlike : Context.Likeness alike) (crossing : Crossing kind)
    (place : Option kind.Result) : (crossing.invoke place).Respects alike := by
  intro left right halike
  obtain ⟨hresult, hafter⟩ :=
    respects_attempt hlike crossing place.isSome _ _ (alike_entered hlike crossing halike)
  rw [run_invoke, run_invoke]
  rcases hleft : (crossing.attempt place.isSome).run.run (crossing.entered left) with
    ⟨found, leftAfter⟩
  rcases hright : (crossing.attempt place.isSome).run.run (crossing.entered right) with
    ⟨other, rightAfter⟩
  rw [hleft, hright] at hresult hafter
  obtain rfl : found = other := hresult
  cases found with
  | ok result => exact ⟨rfl, alike_returned hlike crossing hafter⟩
  | error error => exact ⟨rfl, alike_refused hlike crossing error hafter⟩

end Crossing

/-! ## The log -/

theorem Native.run_writeLine (line : String) (context : Context) :
    (writeLine line).run context =
      ((), match context.thread.capture with
        | some collected =>
            { context with thread.capture := some (collected ++ line ++ "\n") }
        | none =>
            { context with process.stdout := context.process.stdout ++ line ++ "\n" }) := rfl

namespace Context

theorem muted_on (effect : Effect) (context : Context) :
    (effect.on context.muted).muted = (effect.on context).muted := by
  rcases context with ⟨process, lastError, _ | collected⟩ <;>
    rcases effect with ⟨objects, allocated, released, _ | line, _ | event⟩ <;>
    simp [Effect.on, muted, Native.run_writeLine, Log.Journal.emit, List.filter_cons]

/-- Contexts that agree but for the log. -/
theorem likeness_muted : Likeness fun left right => left.muted = right.muted where
  objects hmuted := congrArg (·.process.objects) hmuted
  settings hmuted := congrArg (·.process.settings) hmuted
  affected effect left right hmuted := by
    rw [← muted_on, hmuted, muted_on]
  emitted event left right hmuted := by
    have hemitted : ∀ context : Context, ((Native.emit event).run context.muted).2.muted =
        ((Native.emit event).run context).2.muted := by
      intro context
      simp [Native.run_emit, muted, Log.Journal.emit, List.filter_cons]
    rw [← hemitted, hmuted, hemitted]
  counted hmuted := by
    exact congrArg (fun context : Context => { context with
      process.tally.callsMade := context.process.tally.callsMade + 1 }) hmuted
  faulted errors _ _ hmuted := by
    exact congrArg (fun context : Context => { context with
      process.tally.marshalErrors := context.process.tally.marshalErrors + errors }) hmuted
  marked last _ _ hmuted := by
    exact congrArg (fun context : Context => { context with thread.lastError := last }) hmuted

end Context

/-- What was logged before a call makes no difference to it. -/
theorem Crossing.heeds_invoke {kind : ResultKind} (crossing : Crossing kind)
    (place : Option kind.Result) : (crossing.invoke place).Heeds Context.muted :=
  crossing.respects_invoke Context.likeness_muted place

end InteropBridge
