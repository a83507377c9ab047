import InteropBridge.Proofs.Command.Scene
import InteropBridge.Proofs.Logging

/-!
# Where the log of a run goes

The scenario emits events and does nothing else to the log.  So its events go where the settings
say, which is the standard error or a file and never the standard output.
-/

namespace InteropBridge

/-- Events come on top of a journal, and its writer writes where it did before. -/
theorem Log.Journal.Continues.map_output {earlier later : Journal}
    (hcontinues : Continues earlier later) :
    later.writer.map Writer.output = earlier.writer.map Writer.output := by
  obtain ⟨since, -, hlater⟩ := hcontinues
  rw [hlater, Option.map_map]
  congr 1
  funext writer
  rw [Function.comp_apply, writer.takeAll_eq]

theorem Log.Plan.map_output_start (plan : Plan) :
    ((Journal.start {} plan).2.writer).map Writer.output = some plan.output := by
  obtain ⟨since, -, hwarned⟩ := Journal.continues_warned {} plan.strayPieces
  rw [Option.map_none] at hwarned
  rw [Journal.start, hwarned]
  rfl

theorem LogSettings.output_toPlan_ne_stdout (settings : LogSettings) :
    settings.toPlan.output ≠ .stdout := by
  rw [toPlan]
  cases settings.directory <;> exact Log.Output.noConfusion

/-! ## Computations that can fail -/

namespace Attempt

variable {α β : Type}

/-- The computation emits events, whether it fails or not, and does nothing else to the log. -/
def Emits (body : Attempt α) : Prop :=
  Native.Emits body.run

theorem emits_pure (value : α) : Emits (pure value) :=
  Native.emits_pure _

theorem emits_throw (error : BridgeError) : Emits (throw error : Attempt α) :=
  Native.emits_pure _

theorem emits_ofExcept (result : Except BridgeError α) :
    Emits (MonadExcept.ofExcept result) := by
  cases result with
  | ok value => exact emits_pure value
  | error error => exact emits_throw error

theorem emits_lift {body : Native α} (hbody : body.Emits) : Emits (liftM body) := by
  intro context
  rw [run_lift]
  exact hbody context

theorem Emits.bind {body : Attempt α} {next : α → Attempt β} (hbody : Emits body)
    (hnext : ∀ value, Emits (next value)) : Emits (body >>= next) := by
  intro context
  obtain ⟨hfirst, hkept⟩ := hbody context
  rcases hrun : body.run.run context with ⟨error | value, between⟩ <;> rw [hrun] at hfirst hkept
  · rw [run_bind_error hrun]
    exact ⟨hfirst, hkept⟩
  · rw [run_bind_ok hrun]
    obtain ⟨hsecond, hstill⟩ := hnext value between
    exact ⟨hfirst.trans hsecond, hstill.trans hkept⟩

theorem Emits.tryCatch {body : Attempt α} {handler : BridgeError → Attempt α}
    (hbody : Emits body) (hhandler : ∀ error, Emits (handler error)) :
    Emits (tryCatch body handler) := by
  intro context
  obtain ⟨hfirst, hkept⟩ := hbody context
  rw [run_tryCatch]
  rcases hrun : body.run.run context with ⟨error | value, between⟩ <;> rw [hrun] at hfirst hkept
  · obtain ⟨hsecond, hstill⟩ := hhandler error between
    exact ⟨hfirst.trans hsecond, hstill.trans hkept⟩
  · exact ⟨hfirst, hkept⟩

theorem emits_forEach {body : β → Attempt Unit} (hbody : ∀ item, Emits (body item))
    (items : List β) : Emits (forEach items body) := by
  induction items with
  | nil => exact emits_pure _
  | cons item rest ih =>
      rw [forEach, List.forIn_cons]
      refine ((hbody item).bind fun _ => emits_pure _).bind fun step => ?_
      cases step with
      | done result => exact emits_pure result
      | yield result => exact ih

/-- A call emits events and no more. -/
theorem emits_perform (call : ManagedCall α) : Emits call.perform :=
  Native.emits_of_respects fun hlike => call.respects_perform hlike

theorem emits_drop (proxy : Proxy) : Emits (liftM proxy.drop) :=
  emits_lift (Native.emits_of_respects fun hlike => proxy.respects_drop hlike)

end Attempt

/-! ## The scenario -/

namespace Command

open Attempt

theorem emits_say (text : String) : (say text).Emits :=
  Native.emits_of_journal fun _ => ⟨rfl, rfl⟩

theorem emits_lift_say (text : String) : Emits (liftM (say text)) :=
  emits_lift (emits_say text)

theorem emits_droppingOnFailure {α : Type} (proxies : List Proxy) {body : Attempt α}
    (hbody : Emits body) : Emits (droppingOnFailure proxies body) :=
  hbody.tryCatch fun error => (emits_forEach emits_drop proxies).bind fun _ => emits_throw error

theorem emits_greet : Emits greet := by
  have hhello : Emits Library.hello := emits_perform .hello
  have hnumber : Emits (Library.printNumber 123) := emits_perform (.printNumber 123)
  have hadd : Emits (Library.add 1 2) := emits_perform (.add 1 2)
  have hconcat (left right : ManagedText) : Emits (Library.concat left right) :=
    emits_perform (.concat left right)
  have hconcatLent (left right : ManagedText) : Emits (Library.concatLent left right) :=
    emits_perform (.concatLent left right)
  exact hhello.bind fun _ => hnumber.bind fun _ =>
    hadd.bind fun _ => (emits_lift_say _).bind fun _ =>
    (hconcat _ _).bind fun _ => (emits_lift_say _).bind fun _ =>
    (hconcatLent _ _).bind fun _ => emits_lift_say _

theorem emits_exercise (object : Proxy) : Emits (exercise object) := by
  have hprint : Emits object.print := emits_perform (.print object)
  have hincrement : Emits object.increment := emits_perform (.increment object)
  have hadd : Emits (object.add 3) := emits_perform (.addTo object 3)
  have hget : Emits object.get := emits_perform (.get object)
  have hcopy : Emits object.printCopy := emits_perform (.printCopy object)
  exact hprint.bind fun _ => hincrement.bind fun _ => hprint.bind fun _ => hadd.bind fun _ =>
    hprint.bind fun _ => hget.bind fun _ => (emits_lift_say _).bind fun _ => hcopy

theorem emits_count : Emits count := by
  have hlength : Emits (Library.printLength [1, 2]) := emits_perform (.printLength [1, 2])
  have hnumbers : Emits Library.getNumbers := emits_perform .getNumbers
  have hloop (numbers : List Int32) :
      Emits (forEach numbers fun number => sayInt number) :=
    emits_forEach (fun _ => emits_lift_say _) numbers
  exact hlength.bind fun _ => hnumbers.bind fun _ => (hloop _).bind fun _ => emits_pure _

theorem emits_wonder : Emits wonder := by
  have hmade (name : ManagedOptional ManagedText) : Emits (Library.maybeMake name) :=
    emits_perform (.maybeMake name)
  have hprint (proxy : Proxy) : Emits proxy.print := emits_perform (.print proxy)
  have hanswer (value : ManagedOptional Int32) : Emits (Library.maybeAddOne value) :=
    emits_perform (.maybeAddOne value)
  exact (hmade _).bind fun found =>
    (emits_droppingOnFailure _ <| (emits_ofExcept found.value).bind fun proxy =>
      (hprint proxy).bind fun _ => (hanswer _).bind fun _ => emits_lift_say _).bind fun _ =>
    emits_pure _

theorem emits_finish (object : Proxy) (found : ManagedOptional Proxy) :
    Emits (finish object found) := by
  have hdispose : Emits object.dispose := emits_perform (.dispose object)
  exact (emits_droppingOnFailure _ hdispose).bind fun _ =>
    (emits_forEach emits_drop _).bind fun _ => emits_pure _

theorem emits_scenario : Emits scenario := by
  have hmake : Emits Proxy.make := emits_perform .make
  exact emits_greet.bind fun _ => hmake.bind fun object =>
    (emits_droppingOnFailure _ <| (emits_exercise object).bind fun _ =>
      emits_count.bind fun _ => emits_wonder).bind fun found =>
    emits_finish object found

end Command

end InteropBridge
