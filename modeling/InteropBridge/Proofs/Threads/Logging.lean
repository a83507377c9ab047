import InteropBridge.Proofs.Logging
import InteropBridge.Proofs.Threads.Bare
import InteropBridge.Proofs.Threads.History

/-!
# How long a process logs

A process that starts the bridge itself keeps the writer of its log open.  Everything that
passes the filter is written, whatever its threads do, until it starts the bridge once more or
cleans up.  Either lets go of the writer: no other takes its place, and nothing is written any
more, whatever comes.
-/

namespace InteropBridge

variable {α : Type}

/-! ## Operations and the log -/

namespace Aside

/-- Logging may be started by it or the writer let go of. -/
def TouchesWriter : {α : Type} → Aside α → Prop
  | _, start _ | _, startFrom .. | _, startLogging _ | _, cleanUp => True
  | _, lastErrorCode | _, lastErrorLength | _, lastErrorMessage .. | _, releaseText _
  | _, releaseSequence _ | _, tally | _, settings | _, install _ | _, live | _, shutdown
  | _, writeLine _ | _, openCapture | _, closeCapture _ => False

/-- The process lets go of the writer that it keeps open. -/
def LetsGo : {α : Type} → Aside α → Prop
  | _, startFrom .. | _, cleanUp => True
  | _, start _ | _, startLogging _ | _, lastErrorCode | _, lastErrorLength
  | _, lastErrorMessage .. | _, releaseText _ | _, releaseSequence _ | _, tally | _, settings
  | _, install _ | _, live | _, shutdown | _, writeLine _ | _, openCapture
  | _, closeCapture _ => False

theorem emits_run {other : Aside α} (hother : ¬ other.TouchesWriter) : other.run.Emits := by
  cases other with
  | start | startFrom | startLogging | cleanUp => exact absurd trivial hother
  | releaseText buffer =>
      exact Native.emits_of_respects fun hlike => Managed.respects_releaseText hlike buffer
  | releaseSequence buffer =>
      exact Native.emits_of_respects fun hlike => Managed.respects_releaseSequence hlike buffer
  | shutdown => exact Objects.emits_shutdown
  | writeLine line => exact Native.emits_writeLine line
  | lastErrorCode | lastErrorLength | lastErrorMessage | tally | settings | install | live
  | openCapture | closeCapture => exact Native.emits_of_journal fun _ => ⟨rfl, rfl⟩

end Aside

namespace Operation

def TouchesWriter : {α : Type} → Operation α → Prop
  | _, aside other => other.TouchesWriter
  | _, cross .. | _, manage _ | _, drop _ | _, takeLastError => False

def LetsGo : {α : Type} → Operation α → Prop
  | _, aside other => other.LetsGo
  | _, cross .. | _, manage _ | _, drop _ | _, takeLastError => False

variable {operation : Operation α} (context : Context)

theorem emits_run (hoperation : ¬ operation.TouchesWriter) : operation.run.Emits := by
  cases operation with
  | cross crossing place =>
      exact Native.emits_of_respects fun hlike => crossing.respects_invoke hlike place
  | manage call => exact Native.emits_of_respects fun hlike => call.respects_perform hlike
  | drop proxy => exact Native.emits_of_respects fun hlike => proxy.respects_drop hlike
  | takeLastError => exact Native.emits_of_journal fun _ => ⟨rfl, rfl⟩
  | aside other => exact Aside.emits_run hoperation

/-- Once there is a writer, an operation that does not let go of it emits events and does
nothing else to the log. -/
theorem continues_run (hkeeps : ¬ operation.LetsGo)
    (hwriter : context.process.journal.writer.isSome) :
    context.process.journal.Continues (operation.run.run context).2.process.journal ∧
      (operation.run.run context).2.process.keepsWriter = context.process.keepsWriter := by
  by_cases htouches : operation.TouchesWriter
  · cases operation with
    | cross | manage | drop | takeLastError => cases htouches
    | aside other =>
        cases other with
        | startFrom | cleanUp => exact absurd trivial hkeeps
        | start installed => exact (Startup.emits_start_again context hwriter installed).2
        | startLogging plan =>
            obtain ⟨later, hstart, hcontinues⟩ := Log.Journal.start_of_isSome hwriter plan
            rw [run, Aside.run, Startup.run_startLogging, hstart]
            exact ⟨hcontinues, rfl⟩
        | lastErrorCode | lastErrorLength | lastErrorMessage | releaseText | releaseSequence
        | tally | settings | install | live | shutdown | writeLine | openCapture
        | closeCapture => cases htouches
  · exact emits_run htouches context

/-- One that lets go of it emits events, and then closes it if the process keeps it. -/
theorem exists_continues_run (hletsGo : operation.LetsGo)
    (hwriter : context.process.journal.writer.isSome) :
    ∃ last, context.process.journal.Continues last ∧
      (operation.run.run context).2.process.journal =
        (if context.process.keepsWriter then last.close else last) ∧
      (operation.run.run context).2.process.keepsWriter = false := by
  cases operation with
  | cross | manage | drop | takeLastError => cases hletsGo
  | aside other =>
      cases other with
      | startFrom files directory =>
          obtain ⟨hdiscovered, hkept⟩ := Startup.emits_discover files directory context
          obtain ⟨hstarted, hcontinues, hstill⟩ :=
            Startup.emits_start_again _ (hdiscovered.isSome hwriter)
              (Config.discover files directory).settings
          obtain ⟨hclosed, -⟩ := Startup.letGoOfWriter_closes
            ((Startup.start (Config.discover files directory).settings).run
              ((Startup.discover files directory).run context).2).2
          rw [hstill, hkept] at hclosed
          rw [run, Aside.run, Startup.run_startFrom]
          dsimp only
          exact ⟨_, hdiscovered.trans hcontinues, hclosed, hstarted⟩
      | cleanUp =>
          obtain ⟨hshut, hkept⟩ := Objects.emits_shutdown context
          obtain ⟨hclosed, hletGo⟩ :=
            Startup.letGoOfWriter_closes (Objects.shutdown.run context).2
          rw [hkept] at hclosed
          exact ⟨_, hshut, hclosed, hletGo⟩
      | start | startLogging | lastErrorCode | lastErrorLength | lastErrorMessage | releaseText
      | releaseSequence | tally | settings | install | live | shutdown | writeLine | openCapture
      | closeCapture => cases hletsGo

/-- What was closed stays so, and nothing more is written. -/
theorem isClosed_run (operation : Operation α) (context : Context)
    (hclosed : context.process.journal.IsClosed) :
    (operation.run.run context).2.process.journal.IsClosed ∧
      (operation.run.run context).2.process.journal.lines = context.process.journal.lines := by
  by_cases hletsGo : operation.LetsGo
  · obtain ⟨last, hcontinues, hjournal, -⟩ := exists_continues_run context hletsGo hclosed.isSome
    obtain ⟨hlast, hlines⟩ := hclosed.continues hcontinues
    rw [hjournal]
    split
    · exact ⟨Log.Journal.isClosed_close hlast.isSome, (Log.Journal.lines_close last).trans hlines⟩
    · exact ⟨hlast, hlines⟩
  · exact hclosed.continues (continues_run context hletsGo hclosed.isSome).1

/-- A process keeps no writer that there is not. -/
theorem isSome_run (operation : Operation α) (context : Context)
    (hkeeps : context.process.keepsWriter = true → context.process.journal.writer.isSome)
    (hkept : (operation.run.run context).2.process.keepsWriter = true) :
    (operation.run.run context).2.process.journal.writer.isSome := by
  by_cases hwriter : context.process.journal.writer.isSome
  · by_cases hletsGo : operation.LetsGo
    · obtain ⟨last, -, -, hletGo⟩ := exists_continues_run context hletsGo hwriter
      rw [hletGo] at hkept
      cases hkept
    · exact (continues_run context hletsGo hwriter).1.isSome hwriter
  · have hnone : context.process.journal.writer = none := Option.not_isSome_iff_eq_none.mp hwriter
    have hnot : context.process.keepsWriter = false :=
      Bool.eq_false_iff.mpr fun hkeeps' => hwriter (hkeeps hkeeps')
    by_cases htouches : operation.TouchesWriter
    · cases operation with
      | cross | manage | drop | takeLastError => cases htouches
      | aside other =>
          cases other with
          | startFrom files directory =>
              exact (Startup.opens_startFrom context hnone hnot files directory).1.isSome
          | start installed => exact (Startup.opens_start context hnone installed).2.1.isSome
          | startLogging plan =>
              obtain ⟨later, hstart, hopen⟩ := Log.Journal.start_of_none hnone plan
              rw [run, Aside.run, Startup.run_startLogging, hstart]
              exact hopen.isSome
          | cleanUp =>
              have hletGo : (Startup.cleanUp.run context).2.process.keepsWriter = false :=
                (Startup.letGoOfWriter_closes _).2
              rw [run, Aside.run, hletGo] at hkept
              cases hkept
          | lastErrorCode | lastErrorLength | lastErrorMessage | releaseText | releaseSequence
          | tally | settings | install | live | shutdown | writeLine | openCapture
          | closeCapture => cases htouches
    · rw [(emits_run htouches context).2, hnot] at hkept
      cases hkept

end Operation

/-! ## Runs -/

namespace Machine

variable {Name : Type} [DecidableEq Name] (machine : Machine Name)

theorem continues_after {moves : List (Move Name)}
    (hkeeps : ∀ move ∈ moves, ¬ move.operation.LetsGo)
    (hwriter : machine.process.journal.writer.isSome) :
    machine.process.journal.Continues (machine.after moves).process.journal ∧
      (machine.after moves).process.keepsWriter = machine.process.keepsWriter := by
  induction moves generalizing machine with
  | nil => exact ⟨.refl _, rfl⟩
  | cons move rest ih =>
      obtain ⟨hstep, hkept⟩ := Operation.continues_run (machine.seenBy move.thread)
        (hkeeps move (List.mem_cons_self ..)) hwriter
      obtain ⟨hrest, hstill⟩ := ih (machine.step move)
        (fun later hlater => hkeeps later (List.mem_cons_of_mem _ hlater)) (hstep.isSome hwriter)
      exact ⟨hstep.trans hrest, hstill.trans hkept⟩

theorem isClosed_after (hclosed : machine.process.journal.IsClosed) (moves : List (Move Name)) :
    (machine.after moves).process.journal.IsClosed ∧
      (machine.after moves).process.journal.lines = machine.process.journal.lines := by
  induction moves generalizing machine with
  | nil => exact ⟨hclosed, rfl⟩
  | cons move rest ih =>
      obtain ⟨hstep, hlines⟩ :=
        move.operation.isClosed_run (machine.seenBy move.thread) hclosed
      obtain ⟨hrest, hstill⟩ := ih (machine.step move) hstep
      exact ⟨hrest, hstill.trans hlines⟩

theorem isSome_after
    (hkeeps : machine.process.keepsWriter = true → machine.process.journal.writer.isSome)
    (moves : List (Move Name)) (hkept : (machine.after moves).process.keepsWriter = true) :
    (machine.after moves).process.journal.writer.isSome := by
  induction moves generalizing machine with
  | nil => exact hkeeps hkept
  | cons move rest ih =>
      have hstep := fun hkept => move.operation.isSome_run (machine.seenBy move.thread)
        hkeeps hkept
      exact ih (machine.step move) hstep hkept

/-- While there is no writer, a process that began afresh keeps none. -/
theorem keepsWriter_after {moves : List (Move Name)}
    (hnone : (({} : Machine Name).after moves).process.journal.writer = none) :
    (({} : Machine Name).after moves).process.keepsWriter = false := by
  rw [Bool.eq_false_iff]
  intro hkept
  have hsome := isSome_after ({} : Machine Name) (fun hkeeps => absurd hkeeps Bool.false_ne_true)
    moves hkept
  rw [hnone] at hsome
  cases hsome

/-- A process in which logging has not started starts the bridge from its files.  The writer
that this opens writes all that passes its filter, until a thread starts the bridge from files
once more or cleans up.  From then on nothing is written. -/
theorem logging_ends_with_second_start {before : List (Move Name)}
    (hfresh : (({} : Machine Name).after before).process.journal.writer = none)
    (name : Name) (files : FileTree) (directory : Place) {moves : List (Move Name)}
    (hkeeps : ∀ move ∈ moves, ¬ move.operation.LetsGo) :
    let begun := (({} : Machine Name).after before).step
      ⟨name, .aside (.startFrom files directory)⟩
    let filter := (Config.discover files directory).settings.logging.toPlan.toFilter
    begun.process.journal.IsOpen filter ∧
    begun.process.journal.WritesAll filter (begun.after moves).process.journal ∧
    ∀ last : Move Name, last.operation.LetsGo →
      let ended := (begun.after moves).step last
      begun.process.journal.WritesAll filter ended.process.journal ∧
      ∀ later, (ended.after later).process.journal.lines = ended.process.journal.lines := by
  intro begun filter
  obtain ⟨hopen, hkept⟩ : begun.process.journal.IsOpen filter ∧ begun.process.keepsWriter = true :=
    Startup.opens_startFrom ((({} : Machine Name).after before).seenBy name) hfresh
      (keepsWriter_after hfresh) files directory
  obtain ⟨hcontinues, hstill⟩ := begun.continues_after hkeeps hopen.isSome
  refine ⟨hopen, (hopen.continues hcontinues).2, fun last hlast => ?_⟩
  obtain ⟨final, hfinal, hjournal, -⟩ :=
    Operation.exists_continues_run ((begun.after moves).seenBy last.thread) hlast
      (hcontinues.isSome hopen.isSome)
  have hended : ((begun.after moves).step last).process.journal = final.close := by
    have hkeeper : (begun.after moves).process.keepsWriter = true := hstill.trans hkept
    exact hjournal.trans (if_pos hkeeper)
  intro ended
  rw [hended]
  obtain ⟨since, hemitted, hlines⟩ := (hopen.continues (hcontinues.trans hfinal)).2
  refine ⟨⟨since, hemitted, (Log.Journal.lines_close final).trans hlines⟩, fun later => ?_⟩
  have hclosed : ended.process.journal.IsClosed := by
    rw [hended]
    exact Log.Journal.isClosed_close (hfinal.isSome (hcontinues.isSome hopen.isSome))
  rw [← hended]
  exact (ended.isClosed_after hclosed later).2

/-- The failure of a call is written after the first start, and not after the second. -/
theorem logging_ends_with_second_start_failed_call :
    let start : Move Unit := ⟨(), .aside (.startFrom {} [])⟩
    let fail : Move Unit := ⟨(), .cross (.get ⟨5⟩) (some 0)⟩
    let begun := (({} : Machine Unit).after []).step start
    let ended := (begun.after [fail]).step start
    (({} : Machine Unit).after []).process.journal.writer = none ∧
      ¬ fail.operation.LetsGo ∧
      (ended.after [fail]).process.journal.lines = ended.process.journal.lines ∧
      ended.process.journal.lines.length = 3 := by
  intro start fail begun ended
  have hkeeps : ∀ move ∈ [fail], ¬ move.operation.LetsGo := by
    intro move hmove
    rw [List.mem_singleton.mp hmove]
    exact not_false
  have hfresh : (({} : Machine Unit).after []).process.journal.writer = none := rfl
  obtain ⟨-, -, hends⟩ := logging_ends_with_second_start hfresh () {} [] hkeeps
  obtain ⟨-, hsilent⟩ := hends start trivial
  exact ⟨hfresh, hkeeps fail (List.mem_singleton_self _), hsilent [fail], by decide⟩

/-- A process that starts twice does not write all that passes the filter of its writer: the
failure of a call after the second start is lost. -/
theorem logging_lost_on_second_start :
    let start : Move Unit := ⟨(), .aside (.startFrom {} [])⟩
    let fail : Move Unit := ⟨(), .cross (.get ⟨5⟩) (some 0)⟩
    let begun := ({} : Machine Unit).step start
    let ended := begun.after [start, fail]
    let filter := (Config.discover {} []).settings.logging.toPlan.toFilter
    ¬ ∃ since, ended.process.journal.emitted = since ++ begun.process.journal.emitted ∧
      ∀ event ∈ since, filter.admits event = true → event ∈ ended.process.journal.lines := by
  intro start fail begun ended filter ⟨since, hemitted, hwritten⟩
  let lost : Log.Event :=
    .failed "dotbridge_test_class_get" (BridgeError.disposedHandle ⟨5⟩).message
  have hlost : lost ∈ since := by
    cases since with
    | nil => exact absurd (congrArg List.length hemitted) (by decide)
    | cons event rest =>
        have hhead : some lost = some event := congrArg List.head? hemitted
        exact List.mem_cons.mpr (.inl (Option.some.inj hhead))
  exact absurd (hwritten lost hlost (by decide)) (by decide)

end Machine

end InteropBridge
