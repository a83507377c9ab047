import InteropBridge.Proofs.Managed.Heeding
import InteropBridge.Proofs.Startup
import InteropBridge.Proofs.Threads

/-!
# What operations heed

The count of calls, the last errors and what the log holds are records: they are written on
every occasion, but nothing depends on them except for the operations that read them out.
Two contexts that agree but for these records answer every operation alike, again but for
the records, and agree in the same way afterwards.
-/

namespace InteropBridge

open Attempt

variable {α : Type}

/-! ## Contexts without their records -/

/-- The log without the events in it.  The writer stays, if there is one. -/
def Log.Journal.bare (journal : Journal) : Journal where
  writer := journal.writer.map fun writer => { writer with written := [] }

/-- The process without the count of calls and the events in its log. -/
def Process.bare (process : Process) : Process :=
  { process with
    tally := { process.tally with callsMade := 0 }
    journal := process.journal.bare }

/-- The thread without its last error. -/
def Thread.bare (thread : Thread) : Thread :=
  { thread with lastError := none }

def Context.bare (context : Context) : Context where
  process := context.process.bare
  thread := context.thread.bare

/-- Counts that agree but for the calls agree if the calls do. -/
theorem Tally.eq_of_calls {left right : Tally} (hcalls : left.callsMade = right.callsMade)
    (hothers : { left with callsMade := 0 } = { right with callsMade := 0 }) : left = right := by
  have hboth := congrArg (fun tally : Tally => { tally with callsMade := left.callsMade }) hothers
  calc
    left = { right with callsMade := left.callsMade } := hboth
    _ = right := by rw [hcalls]

namespace Log.Journal

@[simp]
theorem bare_emit (journal : Journal) (event : Event) :
    (journal.emit event).bare = journal.bare := by
  rcases journal with ⟨emitted, _ | writer⟩
  · rfl
  · simp only [emit, bare, Option.map_some, Writer.take]
    split <;> rfl

@[simp]
theorem bare_bare (journal : Journal) : journal.bare.bare = journal.bare := by
  rcases journal with ⟨emitted, _ | writer⟩ <;> rfl

theorem bare_close (journal : Journal) : journal.bare.close.bare = journal.close.bare := by
  rcases journal with ⟨emitted, _ | writer⟩ <;> rfl

/-- The warnings that come before logging starts are events like any other. -/
theorem bare_warned (journal : Journal) (pieces : List String) :
    (pieces.foldl (fun journal piece => journal.emit (.directiveIgnored piece))
      journal).bare = journal.bare := by
  induction pieces generalizing journal with
  | nil => rfl
  | cons piece rest ih => rw [List.foldl_cons, ih, bare_emit]

/-- Starting to log heeds the writer alone. -/
theorem start_alike {left right : Journal} (halike : left.bare = right.bare) (plan : Plan) :
    (left.start plan).1 = (right.start plan).1 ∧
      (left.start plan).2.bare = (right.start plan).2.bare := by
  have hwarned := (left.bare_warned plan.strayPieces).trans
    (halike.trans (right.bare_warned plan.strayPieces).symm)
  rw [start, start]
  generalize plan.strayPieces.foldl (fun journal piece =>
    journal.emit (.directiveIgnored piece)) left = leftWarned at hwarned ⊢
  generalize plan.strayPieces.foldl (fun journal piece =>
    journal.emit (.directiveIgnored piece)) right = rightWarned at hwarned ⊢
  rcases leftWarned with ⟨leftEmitted, _ | leftWriter⟩ <;>
    rcases rightWarned with ⟨rightEmitted, _ | rightWriter⟩
  · exact ⟨rfl, rfl⟩
  · cases hwarned
  · cases hwarned
  · exact ⟨rfl, hwarned⟩

end Log.Journal

namespace Context

theorem bare_on (effect : Effect) (context : Context) :
    (effect.on context.bare).bare = (effect.on context).bare := by
  rcases context with ⟨process, lastError, _ | collected⟩ <;>
    rcases effect with ⟨objects, allocated, released, _ | line, _ | event⟩ <;>
    simp [Effect.on, bare, Process.bare, Thread.bare, Native.run_writeLine]

theorem bare_emit (event : Log.Event) (context : Context) :
    ((Native.emit event).run context).2.bare = context.bare := by
  simp [Native.run_emit, bare, Process.bare]

/-- Contexts that agree but for their records. -/
abbrev Alike (left right : Context) : Prop :=
  left.bare = right.bare

theorem likeness_alike : Likeness Alike where
  objects halike := congrArg (·.process.objects) halike
  settings halike := congrArg (·.process.settings) halike
  affected effect left right halike := by
    rw [Alike, ← bare_on, halike, bare_on]
  emitted event left right halike := by
    rw [Alike, bare_emit, bare_emit, halike]
  counted halike := halike
  faulted errors left right halike :=
    congrArg (fun context : Context => { context with
      process.tally.marshalErrors := context.process.tally.marshalErrors + errors }) halike
  marked last left right halike := halike

theorem journal_on (effect : Effect) (context : Context) :
    (effect.on context).process.journal.bare = context.process.journal.bare := by
  rcases context with ⟨process, lastError, _ | collected⟩ <;>
    rcases effect with ⟨objects, allocated, released, _ | line, _ | event⟩ <;>
    simp [Effect.on, Native.run_writeLine]

/-- Contexts that are the same are alike too, and while they stay so their log has its writer. -/
theorem likeness_journal (journal : Log.Journal) :
    Likeness fun left right => left = right ∧ left.process.journal.bare = journal where
  objects halike := congrArg (·.process.objects) halike.1
  settings halike := congrArg (·.process.settings) halike.1
  affected effect left right := by
    rintro ⟨rfl, rfl⟩
    exact ⟨rfl, journal_on effect left⟩
  emitted event left right := by
    rintro ⟨rfl, rfl⟩
    exact ⟨rfl, Log.Journal.bare_emit _ _⟩
  counted := by
    rintro left right ⟨rfl, rfl⟩
    exact ⟨rfl, rfl⟩
  faulted errors left right := by
    rintro ⟨rfl, rfl⟩
    exact ⟨rfl, rfl⟩
  marked last left right := by
    rintro ⟨rfl, rfl⟩
    exact ⟨rfl, rfl⟩

/-- What respects that leaves the log its writer. -/
theorem journal_of_respects {body : Native α}
    (hbody : ∀ journal, body.Respects fun left right =>
      left = right ∧ left.process.journal.bare = journal) (context : Context) :
    (body.run context).2.process.journal.bare = context.process.journal.bare :=
  (hbody _ context context ⟨rfl, rfl⟩).2.2

/-- Contexts agree but for their records if they do so but for their logs and last errors,
and their logs have the same writer. -/
theorem alike_of_muted {left right : Context} (hmuted : left.muted = right.cleared.muted)
    (hjournal : left.process.journal.bare = right.process.journal.bare) : Alike left right := by
  have hbare := congrArg₂ (fun (muted : Context) journal => Context.mk
    { muted.process with tally.callsMade := 0, journal := journal }
    { muted.thread with lastError := none }) hmuted hjournal
  exact hbare

end Context

/-- But for records, a managed call leaves what the direct call leaves that it makes. -/
theorem ManagedCall.alike_perform {call : ManagedCall α} {made : AnyCrossing}
    (hmade : call.crossing? = some made) (context : Context) :
    Context.Alike (call.perform.run.run context).2
      ((made.2.invoke (some made.1.blank)).run context).2 := by
  obtain ⟨decode, hmirrors⟩ := exists_mirrors_perform hmade
  have hmanaged := Context.journal_of_respects
    (fun journal => call.respects_perform (Context.likeness_journal journal)) context
  have hdirect := Context.journal_of_respects
    (fun journal => made.2.respects_invoke (Context.likeness_journal journal)
      (some made.1.blank)) context
  exact Context.alike_of_muted (hmirrors context made.1.blank).after
    (hmanaged.trans hdirect.symm)

/-! ## Operations aside from calls -/

open Context

namespace Objects

theorem alike_shutdown : shutdown.Respects Alike := by
  intro left right halike
  have hobjects := likeness_alike.objects halike
  have hemptied : Alike { left with process := emptied left.process }
      { right with process := emptied right.process } := by
    have hbare := congrArg (fun context : Context =>
      { context with process := emptied context.process }) halike
    exact hbare
  rw [run_shutdown, run_shutdown, hobjects]
  refine ⟨rfl, ?_⟩
  dsimp only
  split
  · exact likeness_alike.emitted _ hemptied
  · exact hemptied

end Objects

namespace Startup

theorem alike_install (settings : Settings) : (Native.install settings).Respects Alike :=
  fun _ _ halike => ⟨rfl, congrArg (fun context : Context =>
    { context with process.settings := settings }) halike⟩

theorem alike_startLogging (plan : Log.Plan) : (startLogging plan).Respects Alike := by
  intro left right halike
  have hjournal : left.process.journal.bare = right.process.journal.bare :=
    congrArg (·.process.journal) halike
  obtain ⟨hstarted, hbare⟩ := Log.Journal.start_alike hjournal plan
  rw [run_startLogging, run_startLogging, hstarted]
  exact ⟨rfl, congrArg₂ (fun (context : Context) journal =>
    { context with process.journal := journal }) halike hbare⟩

theorem alike_start (settings : Settings) : (start settings).Respects Alike :=
  (alike_install settings).bind fun _ => (alike_startLogging _).bind fun _ =>
    (Native.respects_emit likeness_alike _).bind fun _ => Native.respects_pure _

theorem alike_reports (passedOver : List Config.PassedOver) :
    Native.Respects Alike (do
      for passed in passedOver do
        Native.emit (.configIgnored passed.path passed.fault.message)) :=
  reports_induction (Native.respects_pure ())
    (fun _ _ hrest => (Native.respects_emit likeness_alike _).bind fun _ => hrest) passedOver

theorem alike_letGoOfWriter : letGoOfWriter.Respects Alike := by
  have hbare : ∀ context : Context,
      (letGoOfWriter.run context.bare).2.bare = (letGoOfWriter.run context).2.bare := by
    intro context
    change Context.bare { context.bare with
        process := if context.process.keepsWriter then _ else context.bare.process } =
      Context.bare { context with
        process := if context.process.keepsWriter then _ else context.process }
    cases context.process.keepsWriter with
    | true => simp [Context.bare, Process.bare, Thread.bare, Log.Journal.bare_close]
    | false => simp [Context.bare, Process.bare, Thread.bare]
  intro left right halike
  exact ⟨rfl, by rw [Alike, ← hbare, halike, hbare]⟩

theorem alike_startFrom (files : FileTree) (directory : Place) :
    (startFrom files directory).Respects Alike := by
  have hdiscover : (discover files directory).Respects Alike :=
    (alike_reports _).bind fun _ => Native.respects_pure _
  have hkeep : ∀ started, (Native.changeProcess fun process =>
      { process with keepsWriter := started }).Respects Alike :=
    fun started _ _ halike => ⟨rfl, congrArg (fun context : Context =>
      { context with process.keepsWriter := started }) halike⟩
  exact hdiscover.bind fun settings => (alike_start settings).bind fun started =>
    alike_letGoOfWriter.bind fun _ => hkeep started

theorem alike_cleanUp : cleanUp.Respects Alike :=
  Objects.alike_shutdown.bind fun _ => alike_letGoOfWriter

end Startup

namespace Aside

/-- The answer without what it tells of records. -/
def masked : {α : Type} → Aside α → α → α
  | _, lastErrorCode, _ => 0
  | _, lastErrorLength, _ => 0
  | _, lastErrorMessage .., _ => (0, [])
  | _, tally, counts => { counts with callsMade := 0 }
  | _, releaseText _, answer | _, releaseSequence _, answer | _, settings, answer
  | _, install _, answer | _, live, answer | _, shutdown, answer | _, start _, answer
  | _, startFrom .., answer | _, startLogging _, answer | _, cleanUp, answer
  | _, writeLine _, answer | _, openCapture, answer | _, closeCapture _, answer => answer

theorem alike_run (other : Aside α) {left right : Context} (halike : Alike left right) :
    other.masked (other.run.run left).1 = other.masked (other.run.run right).1 ∧
      Alike (other.run.run left).2 (other.run.run right).2 := by
  cases other with
  | lastErrorCode | lastErrorLength | lastErrorMessage => exact ⟨rfl, halike⟩
  | tally => exact ⟨congrArg (·.process.tally) halike, halike⟩
  | settings => exact ⟨likeness_alike.settings halike, halike⟩
  | live => exact ⟨congrArg HandleTable.live (likeness_alike.objects halike), halike⟩
  | releaseText buffer => exact Managed.respects_releaseText likeness_alike buffer _ _ halike
  | releaseSequence buffer =>
      exact Managed.respects_releaseSequence likeness_alike buffer _ _ halike
  | install installed => exact Startup.alike_install installed _ _ halike
  | shutdown => exact Objects.alike_shutdown _ _ halike
  | start installed => exact Startup.alike_start installed _ _ halike
  | startFrom files directory => exact Startup.alike_startFrom files directory _ _ halike
  | startLogging plan => exact Startup.alike_startLogging plan _ _ halike
  | cleanUp => exact Startup.alike_cleanUp _ _ halike
  | writeLine line => exact Native.respects_writeLine likeness_alike line _ _ halike
  | openCapture =>
      have hcapture := congrArg (·.thread.capture) halike
      exact ⟨hcapture, congrArg (fun context : Context =>
        { context with thread.capture := some "" }) halike⟩
  | closeCapture outer =>
      have hcapture := congrArg (·.thread.capture.getD "") halike
      exact ⟨hcapture, congrArg (fun context : Context =>
        { context with thread.capture := outer }) halike⟩

end Aside

namespace Operation

/-- The answer without what it tells of records. -/
def masked : {α : Type} → Operation α → α → α
  | _, takeLastError, _ => none
  | _, aside other, answer => other.masked answer
  | _, cross .., answer | _, manage _, answer | _, drop _, answer => answer

/-- No operation heeds the records. -/
theorem alike_run (operation : Operation α) {left right : Context} (halike : Alike left right) :
    operation.masked (operation.run.run left).1 = operation.masked (operation.run.run right).1 ∧
      Alike (operation.run.run left).2 (operation.run.run right).2 := by
  cases operation with
  | cross crossing place => exact crossing.respects_invoke likeness_alike place _ _ halike
  | manage call => exact call.respects_perform likeness_alike _ _ halike
  | drop proxy => exact proxy.respects_drop likeness_alike _ _ halike
  | takeLastError => exact ⟨rfl, halike⟩
  | aside other => exact other.alike_run halike

end Operation

end InteropBridge
