import InteropBridge.Proofs.Crossing.Entering
import InteropBridge.Startup

/-!
# What starting and stopping leave alone

To start and to stop the bridge is a matter of the settings, the log and its writer.  A view
of the context is aloof if it shows none of these but for the calls in the log.  Such a view
is the same before and after, whatever is started or stopped.
-/

namespace InteropBridge

namespace Startup

/-! ## Starting -/

theorem run_startLogging (plan : Log.Plan) (context : Context) :
    (startLogging plan).run context =
      ((context.process.journal.start plan).1,
        { context with process.journal := (context.process.journal.start plan).2 }) := rfl

theorem run_start (settings : Settings) (context : Context) :
    (start settings).run context =
      let started := context.process.journal.start settings.logging.toPlan
      (started.1, { context with process := { context.process with
        settings, journal := started.2.emit (.initialized version) } }) := rfl

theorem run_startFrom (files : FileTree) (directory : Place) (context : Context) :
    (startFrom files directory).run context =
      let discovered := ((discover files directory).run context).2
      let started :=
        (start (Config.discover files directory).settings).run discovered
      let ended := (letGoOfWriter.run started.2).2
      ((), { ended with process.keepsWriter := started.1 }) := by
  have hsettings : ((discover files directory).run context).1 =
      (Config.discover files directory).settings := rfl
  rw [startFrom, Native.run_bind, hsettings, Native.run_bind, Native.run_bind]
  rfl

/-- What holds of doing nothing, and goes on to hold when one file more is reported, holds of
reporting any files that were passed over. -/
theorem reports_induction {holds : Native Unit → Prop} (hnone : holds (pure ()))
    (hmore : ∀ (passed : Config.PassedOver) (rest : Native Unit), holds rest →
      holds (Native.emit (.configIgnored passed.path passed.fault.message) >>= fun _ => rest))
    (passedOver : List Config.PassedOver) :
    holds (do
      for passed in passedOver do
        Native.emit (.configIgnored passed.path passed.fault.message)) := by
  induction passedOver with
  | nil => exact hnone
  | cons passed rest ih =>
      rw [List.forIn_cons]
      exact hmore passed _ ih

end Startup

/-! ## Views that are aloof -/

variable {β : Type}

/-- The calls in the log, newest first. -/
def Log.Journal.calls (journal : Journal) : List Event :=
  journal.emitted.filter (·.isCall)

/-- The view shows neither settings nor the writer, and of the log only the calls. -/
structure Context.Aloof (view : Context → β) : Prop where
  relogged : ∀ (context : Context) {journal : Log.Journal},
    journal.calls = context.process.journal.calls →
    view { context with process.journal := journal } = view context
  installed : ∀ (context : Context) (settings : Settings),
    view { context with process.settings := settings } = view context
  handedOver : ∀ (context : Context) (keepsWriter : Bool),
    view { context with process.keepsWriter := keepsWriter } = view context

namespace Log

theorem Event.isCall_directiveIgnored (piece : String) :
    (Event.directiveIgnored piece).isCall = false := by
  apply Event.isCall_eq_false
  simp [Event.directiveIgnored, String.toList_append]

namespace Journal

theorem calls_emit (journal : Journal) {event : Event} (hevent : event.isCall = false) :
    (journal.emit event).calls = journal.calls := by
  simp [calls, emit, hevent]

/-- Starting to log emits nothing but warnings. -/
theorem calls_start (journal : Journal) (plan : Plan) :
    (journal.start plan).2.calls = journal.calls := by
  have hwarned : ∀ (pieces : List String) (journal : Journal),
      (pieces.foldl (fun journal piece => journal.emit (.directiveIgnored piece))
        journal).calls = journal.calls := by
    intro pieces
    induction pieces with
    | nil => exact fun _ => rfl
    | cons piece rest ih =>
        intro journal
        rw [List.foldl_cons, ih, journal.calls_emit (Event.isCall_directiveIgnored piece)]
  rw [start]
  split <;> exact hwarned _ _

end Journal

end Log

namespace Context.Aloof

variable {view : Context → β} (haloof : Aloof view)

include haloof

theorem keeps_emit {event : Log.Event} (hevent : event.isCall = false) :
    (Native.emit event).Keeps view :=
  fun context => haloof.relogged context (context.process.journal.calls_emit hevent)

theorem keeps_install (settings : Settings) : (Native.install settings).Keeps view :=
  fun context => haloof.installed context settings

theorem keeps_startLogging (plan : Log.Plan) : (Startup.startLogging plan).Keeps view :=
  fun context => haloof.relogged context (context.process.journal.calls_start plan)

theorem keeps_start (settings : Settings) : (Startup.start settings).Keeps view :=
  (haloof.keeps_install settings).bind fun _ => (haloof.keeps_startLogging _).bind fun _ =>
    (haloof.keeps_emit rfl).bind fun _ _ => rfl

theorem keeps_reports (passedOver : List Config.PassedOver) :
    Native.Keeps view (do
      for passed in passedOver do
        Native.emit (.configIgnored passed.path passed.fault.message)) :=
  Startup.reports_induction (fun _ => rfl)
    (fun _ _ hrest => (haloof.keeps_emit rfl).bind fun _ => hrest) passedOver

theorem keeps_letGoOfWriter : Startup.letGoOfWriter.Keeps view := by
  intro context
  change view { context with process := if context.process.keepsWriter then _ else _ } =
    view context
  split
  · have hclosed : context.process.journal.close.calls = context.process.journal.calls := rfl
    exact (haloof.handedOver _ false).trans (haloof.relogged context hclosed)
  · rfl

theorem keeps_startFrom (files : FileTree) (directory : Place) :
    (Startup.startFrom files directory).Keeps view := by
  have hdiscover : (Startup.discover files directory).Keeps view :=
    (haloof.keeps_reports _).bind fun _ _ => rfl
  exact hdiscover.bind fun settings => (haloof.keeps_start settings).bind fun started =>
    haloof.keeps_letGoOfWriter.bind fun _ context => haloof.handedOver context started

end Context.Aloof

end InteropBridge
