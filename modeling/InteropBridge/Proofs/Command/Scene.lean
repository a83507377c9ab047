import InteropBridge.Command.Scenario
import InteropBridge.Proofs.Crossing.Allocation
import InteropBridge.Proofs.Ledger
import InteropBridge.Proofs.Managed.Console

/-!
# Scenes of a scenario

What a scenario can come to see of its process is the ledger of handles, and what it has to
show for itself are the lines that it printed.  Both together are a scene.  Under given
settings, a computation takes a scene to one result and one other scene, which follow from
the effects of the calls that it makes.
-/

namespace InteropBridge

/-- How far a scenario has got. -/
structure Scene where
  ledger : Ledger := {}
  /-- What was printed, in order. -/
  lines : List String := []

namespace Scene

/-- The scene after the effect of an export. -/
def after (scene : Scene) (effect : Effect) : Scene where
  ledger := {
    objects := effect.objects
    allocated := scene.ledger.allocated + effect.allocated
    released := scene.ledger.released + effect.released }
  lines := scene.lines ++ effect.line.toList

@[simp]
theorem after_unchanged (scene : Scene) :
    scene.after { objects := scene.ledger.objects } = scene := by
  simp [after]

/-- The scene once another line was printed. -/
def printed (scene : Scene) (line : String) : Scene :=
  { scene with lines := scene.lines ++ [line] }

end Scene

/-- The context is at the scene, and nothing is captured. -/
structure Context.At (settings : Settings) (scene : Scene) (context : Context) : Prop where
  settings : context.process.settings = settings
  ledger : context.process.ledger = scene.ledger
  console : context.console = { stdout := textOf scene.lines }

section At

variable {settings : Settings} {scene : Scene} {context : Context}

theorem Effect.ledger_on (effect : Effect) (context : Context) :
    (effect.on context).process.ledger = {
      objects := effect.objects
      allocated := context.process.ledger.allocated + effect.allocated
      released := context.process.ledger.released + effect.released } := by
  rcases effect with ⟨objects, allocated, released, _ | line, event⟩
  · rfl
  · rcases context with ⟨process, lastError, _ | collected⟩ <;> rfl

theorem Effect.settings_on (effect : Effect) (context : Context) :
    (effect.on context).process.settings = context.process.settings := by
  rcases effect with ⟨objects, allocated, released, _ | line, event⟩
  · rfl
  · rcases context with ⟨process, lastError, _ | collected⟩ <;> rfl

theorem Context.At.on (hat : context.At settings scene) (effect : Effect) :
    (effect.on context).At settings (scene.after effect) where
  settings := (effect.settings_on context).trans hat.settings
  ledger := by rw [effect.ledger_on, hat.ledger, Scene.after]
  console := by
    rw [effect.console_on, hat.console, Console.receive, Scene.after, textOf_append]

/-- Neither the log nor the last error shows on the scene. -/
theorem Context.At.of_muted_eq {other : Context} (hat : other.At settings scene)
    (hmuted : context.muted = other.cleared.muted) : context.At settings scene where
  settings := (congrArg (·.process.settings) hmuted).trans hat.settings
  ledger := (congrArg (·.process.ledger) hmuted).trans hat.ledger
  console := (congrArg Context.console hmuted).trans hat.console

/-- A direct call has the effect of its export. -/
theorem Context.At.invoke {kind : ResultKind} (hat : context.At settings scene)
    (crossing : Crossing kind) (place : kind.Result) :
    ((crossing.invoke (some place)).run context).2.At settings
      (scene.after (crossing.effect scene.ledger.objects settings).2) := by
  have hentered : (crossing.entered context).At settings scene :=
    ⟨hat.settings, hat.ledger, hat.console⟩
  have hobjects : (crossing.entered context).process.objects = scene.ledger.objects :=
    congrArg Ledger.objects hentered.ledger
  rw [Crossing.run_invoke, Option.isSome_some, Crossing.run_attempt, Crossing.effectAt_true,
    hobjects, hentered.settings]
  rcases crossing.effect scene.ledger.objects settings with ⟨error | result, effect⟩
  · have heffect := hentered.on effect
    exact ⟨heffect.settings, heffect.ledger, heffect.console⟩
  · have heffect := hentered.on effect
    exact ⟨heffect.settings, heffect.ledger, heffect.console⟩

end At

/-- A call on the object of a proxy that has its handle enters the export with the handle. -/
theorem Proxy.mirrors_ask {kind : ResultKind} (crossing : Handle → Crossing kind) {proxy : Proxy}
    (hproxy : proxy.isDisposed = false) :
    Attempt.Mirrors (crossing proxy.raw) id (proxy.ask crossing) := by
  rw [ask_of_not_disposed hproxy]
  exact Managed.mirrors_ask _

theorem Proxy.mirrors_dispose {proxy : Proxy} (hproxy : proxy.isDisposed = false) :
    Attempt.Mirrors (.free proxy.raw) id proxy.dispose := by
  rw [dispose_of_not_disposed hproxy]
  exact Managed.mirrors_ask _

/-! ## Computations on scenes -/

namespace Attempt

variable {α β : Type}

/-- From the scene before, the computation ends in the result, at the scene after. -/
def Plays (settings : Settings) (before : Scene) (body : Attempt α)
    (result : Except BridgeError α) (after : Scene) : Prop :=
  ∀ context, context.At settings before →
    (body.run.run context).1 = result ∧ (body.run.run context).2.At settings after

variable {settings : Settings} {before between after : Scene}

theorem plays_pure (value : α) : Plays settings before (pure value) (.ok value) before :=
  fun _ hat => ⟨rfl, hat⟩

theorem plays_ofExcept (result : Except BridgeError α) :
    Plays settings before (MonadExcept.ofExcept result) result before := by
  intro context hat
  rw [run_ofExcept]
  exact ⟨rfl, hat⟩

theorem Plays.bind {body : Attempt α} {value : α} {next : α → Attempt β}
    {result : Except BridgeError β} (hbody : Plays settings before body (.ok value) between)
    (hnext : Plays settings between (next value) result after) :
    Plays settings before (body >>= next) result after := by
  intro context hat
  obtain ⟨hresult, hbetween⟩ := hbody context hat
  rw [run_bind_ok (Prod.ext hresult rfl)]
  exact hnext _ hbetween

theorem Plays.bind_error {body : Attempt α} {error : BridgeError} {next : α → Attempt β}
    (hbody : Plays settings before body (.error error) after) :
    Plays settings before (body >>= next) (.error error) after := by
  intro context hat
  obtain ⟨hresult, hafter⟩ := hbody context hat
  rw [run_bind_error (Prod.ext hresult rfl)]
  exact ⟨rfl, hafter⟩

/-- A call has the effect of the export that it enters. -/
theorem Mirrors.plays {kind : ResultKind} {crossing : Crossing kind}
    {decode : kind.Result → α} {body : Attempt α} (hbody : Mirrors crossing decode body)
    (before : Scene) :
    Plays settings before body
      ((crossing.effect before.ledger.objects settings).1.map decode)
      (before.after (crossing.effect before.ledger.objects settings).2) := by
  intro context hat
  have hobjects : context.process.objects = before.ledger.objects :=
    congrArg Ledger.objects hat.ledger
  constructor
  · rw [hbody.result_eq, Crossing.outcome_eq, Crossing.effectAt_true, hobjects, hat.settings]
  · exact (hat.invoke crossing kind.blank).of_muted_eq (hbody context kind.blank).after

/-- A proxy that can be disposed of can be let go of. -/
theorem plays_drop {proxy : Proxy} (hdispose : Plays settings before proxy.dispose (.ok ()) after) :
    Plays settings before (liftM proxy.drop) (.ok ()) after := by
  intro context hat
  obtain ⟨hresult, hafter⟩ := hdispose context hat
  have hdrop : proxy.drop.run context = ((), (proxy.dispose.run.run context).2) := by
    rw [Proxy.drop, Native.run_bind, hresult]
    rfl
  rw [run_lift, hdrop]
  exact ⟨rfl, hafter⟩

/-! ## How the scenario is put together -/

theorem Plays.tryCatch_ok {body : Attempt α} {handler : BridgeError → Attempt α} {value : α}
    (hbody : Plays settings before body (.ok value) after) :
    Plays settings before (tryCatch body handler) (.ok value) after := by
  intro context hat
  obtain ⟨hresult, hafter⟩ := hbody context hat
  have hrun : body.run.run context = (.ok value, (body.run.run context).2) :=
    Prod.ext hresult rfl
  rw [run_tryCatch, hrun]
  exact ⟨rfl, hafter⟩

theorem Plays.tryCatch_error {body : Attempt α} {handler : BridgeError → Attempt α}
    {error : BridgeError} {result : Except BridgeError α}
    (hbody : Plays settings before body (.error error) between)
    (hhandler : Plays settings between (handler error) result after) :
    Plays settings before (tryCatch body handler) result after := by
  intro context hat
  obtain ⟨hresult, hbetween⟩ := hbody context hat
  have hrun : body.run.run context = (.error error, (body.run.run context).2) :=
    Prod.ext hresult rfl
  rw [run_tryCatch, hrun]
  exact hhandler _ hbetween

/-- What a loop does with one item after the other. -/
abbrev forEach (items : List β) (body : β → Attempt Unit) : Attempt PUnit :=
  forIn items PUnit.unit fun item _ => do
    body item
    pure (ForInStep.yield PUnit.unit)

theorem plays_forEach_nil (body : β → Attempt Unit) :
    Plays settings before (forEach [] body) (.ok ⟨⟩) before :=
  plays_pure _

theorem Plays.forEach_cons {body : β → Attempt Unit} {item : β} {rest : List β}
    {result : Except BridgeError PUnit}
    (hfirst : Plays settings before (body item) (.ok ()) between)
    (hrest : Plays settings between (forEach rest body) result after) :
    Plays settings before (forEach (item :: rest) body) result after := by
  rw [forEach, List.forIn_cons]
  refine Plays.bind (hfirst.bind (plays_pure (ForInStep.yield PUnit.unit))) ?_
  exact hrest

end Attempt

namespace Command

open Attempt

variable {α : Type} {settings : Settings} {before between after : Scene}

theorem plays_say (text : String) :
    Plays settings before (liftM (say text)) (.ok ()) (before.printed text) := by
  intro context hat
  obtain ⟨hstdout, hcapture⟩ := Console.mk.inj hat.console
  have hafter : context.process.stdout ++ text ++ "\n" = textOf (before.printed text).lines := by
    rw [hstdout, Scene.printed, textOf_append, textOf_singleton, String.append_assoc]
  exact ⟨rfl, hat.settings, hat.ledger, congrArg₂ Console.mk hafter hcapture⟩

theorem plays_droppingOnFailure {proxies : List Proxy} {body : Attempt α} {value : α}
    (hbody : Plays settings before body (.ok value) after) :
    Plays settings before (droppingOnFailure proxies body) (.ok value) after :=
  hbody.tryCatch_ok

/-- If the body fails, the proxies are let go of and the failure stays what it is. -/
theorem plays_droppingOnFailure_error {proxies : List Proxy} {body : Attempt α}
    {error : BridgeError} (hbody : Plays settings before body (.error error) between)
    (hdropped : Plays settings between (forEach proxies fun proxy => liftM proxy.drop) (.ok ⟨⟩)
      after) :
    Plays settings before (droppingOnFailure proxies body) (.error error) after := by
  refine hbody.tryCatch_error (hdropped.bind ?_)
  exact fun _ hat => ⟨rfl, hat⟩

end Command

end InteropBridge
