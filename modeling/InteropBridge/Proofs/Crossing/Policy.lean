import InteropBridge.Proofs.Crossing.Allocation
import InteropBridge.Proofs.Handle.Finding
import InteropBridge.Proofs.Managed.Steadiness
import InteropBridge.Proofs.Threads.Bare

/-!
# The policy for repeated releases

The policy is looked at in one place only: where an export that frees a handle finds that the
handle is gone.  There it decides whether the call fails or succeeds, and neither way does the
call leave anything behind but records.  A call that does not get into this place runs the same
under every policy.
-/

namespace InteropBridge

open Attempt Context

variable {kind : ResultKind} {α : Type}

/-- The same settings under another policy for repeated releases. -/
def Settings.under (settings : Settings) (policy : ReleasePolicy) : Settings :=
  { settings with handles.doubleRelease := policy }

def Process.under (process : Process) (policy : ReleasePolicy) : Process :=
  { process with settings := process.settings.under policy }

def Context.under (context : Context) (policy : ReleasePolicy) : Context :=
  { context with process := context.process.under policy }

/-- The call is to free a handle, not null, that refers to no object. -/
structure AnyCrossing.FreesGone (made : AnyCrossing) (objects : HandleTable Int32)
    (handle : Handle) : Prop where
  call : made = ⟨.nothing, .free handle⟩
  nonNull : handle ≠ .null
  gone : objects.contains handle = false

namespace Context

theorem under_on (effect : Effect) (context : Context) (policy : ReleasePolicy) :
    effect.on (context.under policy) = (effect.on context).under policy := by
  rcases context with ⟨process, lastError, _ | collected⟩ <;>
    rcases effect with ⟨objects, allocated, released, _ | line, event⟩ <;> rfl

/-- Contexts that are alike are so under every policy. -/
theorem Alike.under {left right : Context} (halike : Alike left right) (policy : ReleasePolicy) :
    Alike (left.under policy) (right.under policy) :=
  congrArg (Context.under · policy) halike

end Context

namespace Crossing

variable {crossing : Crossing kind} {objects : HandleTable Int32}

theorem effectAt_under (hkept : ∀ handle, ¬ AnyCrossing.FreesGone ⟨kind, crossing⟩ objects handle)
    (hasPlace : Bool) (settings : Settings) (policy : ReleasePolicy) :
    crossing.effectAt hasPlace objects (settings.under policy) =
      crossing.effectAt hasPlace objects settings := by
  cases crossing with
  | free handle =>
      by_cases hhandle : handle = .null
      · subst hhandle
        rfl
      · cases hfind : objects.find handle with
        | ok object => simp [effectAt, placeName?, effect, Objects.ending, hfind]
        | error error =>
            have hgone := HandleTable.contains_of_find_error hfind
            exact absurd ⟨rfl, hhandle, hgone⟩ (hkept handle)
  | _ => rfl

/-- Where the handle is gone, the policy decides how the call ends. -/
theorem effectAt_of_freesGone {handle : Handle}
    (hfrees : AnyCrossing.FreesGone ⟨_, .free handle⟩ objects handle) (hasPlace : Bool)
    (settings : Settings) :
    (free handle).effectAt hasPlace objects settings =
      match settings.handles.doubleRelease with
      | .ignore => (.ok (), { objects, event := some (.releaseIgnored handle) })
      | .report => (.error (.disposedHandle handle), { objects }) := by
  have hfind := HandleTable.find_of_gone hfrees.nonNull hfrees.gone
  have heffect : (free handle).effectAt hasPlace objects settings =
      (free handle).effect objects settings := rfl
  rw [heffect, effect, HandleTable.isNull_eq_false hfrees.nonNull, Objects.ending, hfind]
  rfl

theorem outcome_of_freesGone {handle : Handle} {context : Context}
    (hfrees : AnyCrossing.FreesGone ⟨_, .free handle⟩ context.process.objects handle)
    (hasPlace : Bool) :
    (free handle).outcome hasPlace context =
      match context.process.settings.handles.doubleRelease with
      | .ignore => .ok ()
      | .report => .error (.disposedHandle handle) := by
  rw [outcome_eq, effectAt_of_freesGone hfrees]
  cases context.process.settings.handles.doubleRelease <;> rfl

/-- There the call leaves nothing but records, however it ends. -/
theorem alike_invoke_of_freesGone {handle : Handle} (context : Context)
    (hfrees : AnyCrossing.FreesGone ⟨_, .free handle⟩ context.process.objects handle)
    (place : Option Unit) : Alike (((free handle).invoke place).run context).2 context := by
  have heffect : (free handle).effectAt place.isSome
      ((free handle).entered context).process.objects
      ((free handle).entered context).process.settings = _ :=
    effectAt_of_freesGone hfrees place.isSome context.process.settings
  rw [run_invoke, run_attempt, heffect]
  cases context.process.settings.handles.doubleRelease <;>
    simp [Alike, bare, Process.bare, Thread.bare, Effect.on, refused, returned, entered,
      BridgeError.isMarshal, BridgeError.cause?]

/-- Elsewhere it runs the same under every policy. -/
theorem invoke_under {context : Context}
    (hkept : ∀ handle, ¬ AnyCrossing.FreesGone ⟨kind, crossing⟩ context.process.objects handle)
    (place : Option kind.Result) (policy : ReleasePolicy) :
    (crossing.invoke place).run (context.under policy) =
      (((crossing.invoke place).run context).1,
        ((crossing.invoke place).run context).2.under policy) := by
  have hentered : crossing.entered (context.under policy) =
      (crossing.entered context).under policy := rfl
  have heffect : crossing.effectAt place.isSome
      ((crossing.entered context).under policy).process.objects
      ((crossing.entered context).under policy).process.settings =
      crossing.effectAt place.isSome (crossing.entered context).process.objects
        (crossing.entered context).process.settings :=
    effectAt_under hkept place.isSome context.process.settings policy
  rw [run_invoke, run_attempt, run_invoke, run_attempt, hentered, heffect]
  dsimp only
  rw [under_on]
  rcases crossing.effectAt place.isSome (crossing.entered context).process.objects
    (crossing.entered context).process.settings with ⟨error | result, effect⟩ <;> rfl

/-- Under two policies a call leaves the same, but for records. -/
theorem alike_invoke_under (crossing : Crossing kind) (place : Option kind.Result)
    (context : Context) (first second : ReleasePolicy) :
    Alike ((((crossing.invoke place).run (context.under first)).2).under second)
      ((crossing.invoke place).run (context.under second)).2 := by
  by_cases hgone : ∃ handle, AnyCrossing.FreesGone ⟨kind, crossing⟩ context.process.objects handle
  · obtain ⟨handle, hfrees⟩ := hgone
    cases hfrees.call
    have hfirst := alike_invoke_of_freesGone (context.under first) hfrees place
    have hsecond := alike_invoke_of_freesGone (context.under second) hfrees place
    exact (hfirst.under second).trans hsecond.symm
  · have hkept := not_exists.mp hgone
    rw [invoke_under hkept, invoke_under hkept]
    rfl

end Crossing

namespace ManagedCall

variable {call : ManagedCall α} {context : Context}

/-- Out of the reach of exports, a call leaves what is around it alone, but for the count of
marshal errors. -/
theorem alike_perform_of_none (hnone : call.crossing? = none) (context : Context) :
    Alike (call.perform.run.run context).2
      (context.charged (marshalErrorsIn (call.perform.run.run context).1)) := by
  have hjournal := Context.journal_of_respects
    (fun journal => call.respects_perform (Context.likeness_journal journal)) context
  have hmuted := staysOutside_perform hnone context
  have hbare := congrArg₂ (fun (muted : Context) journal => Context.mk
    { muted.process with tally.callsMade := 0, journal := journal }
    { muted.thread with lastError := none }) hmuted hjournal
  exact hbare

/-- Under two policies a managed call leaves the same, but for records. -/
theorem alike_perform_under (call : ManagedCall α) (context : Context)
    (first second : ReleasePolicy) :
    Alike ((call.perform.run.run (context.under first)).2.under second)
      (call.perform.run.run (context.under second)).2 := by
  cases hmade : call.crossing? with
  | some made =>
      calc
        ((call.perform.run.run (context.under first)).2.under second).bare =
            ((((made.2.invoke (some made.1.blank)).run (context.under first)).2).under
              second).bare := (alike_perform hmade (context.under first)).under second
        _ = ((made.2.invoke (some made.1.blank)).run (context.under second)).2.bare :=
            made.2.alike_invoke_under (some made.1.blank) context first second
        _ = (call.perform.run.run (context.under second)).2.bare :=
            (alike_perform hmade (context.under second)).symm
  | none =>
      have hresult := (steady_perform hmade (context.under first) (context.under second)
        trivial).1
      have hfirst := (alike_perform_of_none hmade (context.under first)).under second
      rw [hresult] at hfirst
      exact hfirst.trans (alike_perform_of_none hmade (context.under second)).symm

/-- Unless it is to free a handle that is gone, it comes to the same. -/
theorem perform_under
    (hkept : ∀ made, call.crossing? = some made →
      ∀ handle, ¬ made.FreesGone context.process.objects handle)
    (first second : ReleasePolicy) :
    (call.perform.run.run (context.under first)).1 =
      (call.perform.run.run (context.under second)).1 := by
  cases hmade : call.crossing? with
  | none => exact (steady_perform hmade _ _ trivial).1
  | some made =>
      obtain ⟨decode, hmirrors⟩ := exists_mirrors_perform hmade
      have houtcome : ∀ policy, made.2.outcome true (context.under policy) =
          made.2.outcome true context := by
        intro policy
        rw [Crossing.outcome_eq, Crossing.outcome_eq]
        exact congrArg Prod.fst (Crossing.effectAt_under (hkept made hmade) true
          context.process.settings policy)
      rw [hmirrors.result_eq, hmirrors.result_eq, houtcome, houtcome]

/-- If it is, the policy decides. -/
theorem perform_of_freesGone {made : AnyCrossing} {handle : Handle}
    (hmade : call.crossing? = some made)
    (hfrees : made.FreesGone context.process.objects handle) :
    (context.process.settings.handles.doubleRelease = .report →
        (call.perform.run.run context).1 = .error (.disposedHandle handle)) ∧
      (context.process.settings.handles.doubleRelease = .ignore →
        ∃ value, (call.perform.run.run context).1 = .ok value) := by
  cases hfrees.call
  obtain ⟨decode, hmirrors⟩ := exists_mirrors_perform hmade
  rw [hmirrors.result_eq, Crossing.outcome_of_freesGone hfrees]
  constructor
  · intro hpolicy
    rw [hpolicy]
    rfl
  · intro hpolicy
    rw [hpolicy]
    exact ⟨decode (), rfl⟩

end ManagedCall

/-- The drop of a proxy disposes of it, and tells a failure to the log alone. -/
theorem Proxy.alike_drop (proxy : Proxy) (context : Context) :
    Alike (proxy.drop.run context).2 (proxy.dispose.run.run context).2 := by
  rw [drop, Native.run_bind]
  cases (proxy.dispose.run.run context).1 with
  | ok released => rfl
  | error error => exact bare_emit _ _

end InteropBridge
