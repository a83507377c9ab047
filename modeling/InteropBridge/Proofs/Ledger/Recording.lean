import InteropBridge.Proofs.Objects
import InteropBridge.Proofs.Computation
import InteropBridge.Proofs.Ledger

/-!
# Computations that tell what they did

A computation records something if its result tells, wherever it runs, what
turns the ledger took.  Calls are composed in few ways: silent work before a
call that tells, and silent work on what it told.  The rules here follow these
ways, so that a call of whatever kind is followed without running it.
-/

namespace InteropBridge

namespace Native

variable {α β : Type}

/-- The ledger takes the turns that the result tells of. -/
def Records (happenings : α → List Happening) (body : Native α) : Prop :=
  ∀ context, Ledger.Turns context.process.ledger
    (happenings (body.run context).1) (body.run context).2.process.ledger

/-- A computation that the ledger takes no part in. -/
abbrev Silent (body : Native α) : Prop :=
  body.Records fun _ => []

theorem silent_of_ledger {body : Native α}
    (hledger : ∀ context,
      (body.run context).2.process.ledger = context.process.ledger) :
    body.Silent := by
  intro context
  rw [hledger context]
  exact .refl _

theorem silent_pure (value : α) : Silent (pure value) :=
  silent_of_ledger fun _ => rfl

theorem silent_emit (event : Log.Event) : (emit event).Silent :=
  silent_of_ledger fun _ => rfl

theorem silent_countMarshalError : countMarshalError.Silent :=
  silent_of_ledger fun _ => rfl

theorem silent_writeLine (line : String) : (writeLine line).Silent := by
  refine silent_of_ledger fun context => ?_
  rcases context with ⟨process, lastError, _ | collected⟩ <;> rfl

/-- One computation after another: their turns follow each other. -/
theorem Records.bind {first : α → List Happening} {second : α → β → List Happening}
    {happenings : β → List Happening} {body : Native α} {next : α → Native β}
    (hbody : body.Records first) (hnext : ∀ value, (next value).Records (second value))
    (happenings_eq : ∀ value result, happenings result = first value ++ second value result) :
    (body >>= next).Records happenings := by
  intro context
  rw [run_bind, happenings_eq (body.run context).1]
  exact (hbody context).trans (hnext _ _)

theorem Silent.bind {happenings : β → List Happening} {body : Native α}
    {next : α → Native β} (hbody : body.Silent)
    (hnext : ∀ value, (next value).Records happenings) :
    (body >>= next).Records happenings :=
  Records.bind hbody hnext fun _ _ => rfl

end Native

/-- What the outcome of a computation that may fail tells of: its value tells, a
failure does not. -/
def onSuccess {α : Type} (happenings : α → List Happening) :
    Except BridgeError α → List Happening
  | .ok value => happenings value
  | .error _ => []

namespace Attempt

variable {α β : Type}

/-- The ledger takes the turns that the value tells of, and none if there is no
value. -/
abbrev Records (happenings : α → List Happening) (body : Attempt α) : Prop :=
  Native.Records (onSuccess happenings) body.run

abbrev Silent (body : Attempt α) : Prop :=
  Records (fun _ => []) body

theorem silent_of_ledger {body : Attempt α}
    (hledger : ∀ context,
      (body.run.run context).2.process.ledger = context.process.ledger) :
    Silent body := by
  intro context
  rw [hledger context]
  cases (body.run.run context).1 <;> exact .refl _

theorem Looks.silent {body : Attempt α} (hbody : Looks body) : Silent body :=
  silent_of_ledger fun context => by rw [hbody context]

theorem records_lift {happenings : α → List Happening} {body : Native α}
    (hbody : body.Records happenings) : Records happenings (liftM body) := by
  intro context
  rw [run_lift]
  exact hbody context

theorem Silent.bind {happenings : β → List Happening} {body : Attempt α}
    {next : α → Attempt β} (hbody : Silent body)
    (hnext : ∀ value, Records happenings (next value)) :
    Records happenings (body >>= next) := by
  intro context
  have hfirst := hbody context
  rcases hrun : body.run.run context with ⟨error | value, after⟩
  · rw [run_bind_error hrun]
    rw [hrun] at hfirst
    exact hfirst
  · rw [run_bind_ok hrun]
    rw [hrun] at hfirst
    exact hfirst.trans (hnext value after)

/-- Silent work on the value of a computation, which fails only where the value
told of nothing. -/
theorem Records.bind_ofExcept {first : α → List Happening}
    {happenings : β → List Happening} {body : Attempt α}
    {next : α → Except BridgeError β} (hbody : Records first body)
    (hnext : ∀ value, onSuccess happenings (next value) = first value) :
    Records happenings (body >>= fun value => MonadExcept.ofExcept (next value)) := by
  intro context
  have hfirst := hbody context
  rcases hrun : body.run.run context with ⟨error | value, after⟩
  · rw [run_bind_error hrun]
    rw [hrun] at hfirst
    exact hfirst
  · rw [run_bind_ok hrun, run_ofExcept]
    rw [hrun] at hfirst
    change Ledger.Turns _ (onSuccess happenings (next value)) _
    rw [hnext value]
    exact hfirst

theorem Records.map {first : α → List Happening} {happenings : β → List Happening}
    {body : Attempt α} {next : α → β} (hbody : Records first body)
    (hnext : ∀ value, happenings (next value) = first value) :
    Records happenings (body >>= fun value => pure (next value)) := by
  have hbound : Records happenings
      (body >>= fun value => MonadExcept.ofExcept (.ok (next value))) :=
    hbody.bind_ofExcept hnext
  exact hbound

end Attempt

namespace Objects

theorem records_change (handle : Handle) (amount : Int32) :
    Attempt.Records (fun _ => [.added handle amount]) (change handle (· + amount)) := by
  intro context
  rw [run_change]
  cases hfind : context.process.objects.find handle with
  | error error => exact .refl _
  | ok object => exact (Ledger.Turn.added amount hfind).turns

theorem records_make :
    Attempt.Records (fun handle => [.made handle]) (register 0) := by
  intro context
  rw [run_register]
  split
  · exact (Ledger.Turn.made _).turns
  · exact .refl _

theorem records_duplicate (source : Handle) :
    Attempt.Records (fun handle => [.copied source handle]) (do
      let object ← read source
      register object) := by
  intro context
  rw [Attempt.run_bind, run_read]
  cases hfind : context.process.objects.find source with
  | error error => exact .refl _
  | ok object =>
      dsimp only
      rw [run_register]
      split
      · exact (Ledger.Turn.copied hfind).turns
      · exact .refl _

/-- A release that succeeds has ended the handle or found that there was nothing
to end. -/
theorem records_release (handle : Handle) :
    Attempt.Records (fun _ => [.released handle]) (release handle) := by
  intro context
  rw [run_release]
  cases hfind : context.process.objects.find handle with
  | ok object => exact (Ledger.Turn.released hfind).turns
  | error error =>
      obtain ⟨-, rfl⟩ | ⟨-, rfl⟩ := HandleTable.find_error hfind
      · exact .refl _
      · cases context.process.settings.handles.doubleRelease with
        | ignore => exact (Ledger.Turn.passed hfind).turns
        | report => exact .refl _

theorem records_shutdown : shutdown.Records fun _ => [.shutDown] := by
  intro context
  rw [run_shutdown]
  split <;> exact (Ledger.Turn.shutDown _).turns

end Objects

end InteropBridge
