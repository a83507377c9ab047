import InteropBridge.Proofs.Managed.Heeding
import InteropBridge.Proofs.Objects
import InteropBridge.Proofs.Startup

/-!
# What is written to the log

A writer writes every event that it lets through for as long as it is open.  Exports, and
calls of them, do nothing to the log but emit events.  So the journal after them continues the
one before: the new events come on top, and those that the writer lets through are written.
Only starting and stopping the bridge do more.
-/

namespace InteropBridge

open Attempt

variable {α β : Type}

namespace Log

/-- The writer after some events, newest first, have passed on to it. -/
def Writer.takeAll (writer : Writer) (events : List Event) : Writer :=
  events.foldr (fun event writer => writer.take event) writer

theorem Writer.takeAll_eq (writer : Writer) (events : List Event) :
    writer.takeAll events = { writer with
      written := (if writer.isOpen then events.filter (writer.filter.admits ·) else []) ++
        writer.written } := by
  rcases writer with ⟨filter, format, output, isOpen, written⟩
  induction events with
  | nil => cases isOpen <;> rfl
  | cons event rest ih =>
      have hcons : ∀ writer : Writer,
          writer.takeAll (event :: rest) = (writer.takeAll rest).take event := fun _ => rfl
      rw [hcons, ih]
      cases isOpen with
      | false => rfl
      | true => cases hadmits : filter.admits event <;> simp [take, hadmits]

namespace Journal

/-- The later journal has come of the earlier one by emitting events. -/
def Continues (earlier later : Journal) : Prop :=
  ∃ since, later.emitted = since ++ earlier.emitted ∧
    later.writer = earlier.writer.map (·.takeAll since)

/-- Of what was emitted in between, all that the filter lets through was written and nothing
else. -/
def WritesAll (filter : Filter) (earlier later : Journal) : Prop :=
  ∃ since, later.emitted = since ++ earlier.emitted ∧
    later.lines = earlier.lines ++ (since.filter (filter.admits ·)).reverse

/-- The journal has an open writer with this filter. -/
def IsOpen (journal : Journal) (filter : Filter) : Prop :=
  ∃ writer, journal.writer = some writer ∧ writer.isOpen = true ∧ writer.filter = filter

/-- The journal has a writer that was closed. -/
def IsClosed (journal : Journal) : Prop :=
  ∃ writer, journal.writer = some writer ∧ writer.isOpen = false

variable {earlier between later : Journal} {filter : Filter}

theorem Continues.refl (journal : Journal) : Continues journal journal :=
  ⟨[], rfl, by cases journal.writer <;> rfl⟩

theorem Continues.trans (hfirst : Continues earlier between)
    (hsecond : Continues between later) : Continues earlier later := by
  obtain ⟨first, hfirst, hbetween⟩ := hfirst
  obtain ⟨second, hsecond, hlater⟩ := hsecond
  refine ⟨second ++ first, by rw [hsecond, hfirst, List.append_assoc], ?_⟩
  rw [hlater, hbetween, Option.map_map]
  congr 1
  funext writer
  exact (List.foldr_append ..).symm

theorem continues_emit (journal : Journal) (event : Event) :
    Continues journal (journal.emit event) :=
  ⟨[event], rfl, rfl⟩

theorem continues_warned (journal : Journal) (pieces : List String) :
    Continues journal
      (pieces.foldl (fun journal piece => journal.emit (.directiveIgnored piece)) journal) := by
  induction pieces generalizing journal with
  | nil => exact .refl _
  | cons piece rest ih => exact (journal.continues_emit _).trans (ih _)

/-- To start logging again only warns of the filter. -/
theorem start_of_isSome (hwriter : earlier.writer.isSome) (plan : Plan) :
    ∃ later, earlier.start plan = (false, later) ∧ Continues earlier later := by
  obtain ⟨since, hemitted, hwarned⟩ := earlier.continues_warned plan.strayPieces
  refine ⟨_, ?_, since, hemitted, hwarned⟩
  obtain ⟨writer, hsome⟩ := Option.isSome_iff_exists.mp hwriter
  rw [start, hwarned, hsome]
  rfl

/-- To start it for the first time opens a writer with the filter of the plan. -/
theorem start_of_none (hwriter : earlier.writer = none) (plan : Plan) :
    ∃ later, earlier.start plan = (true, later) ∧ later.IsOpen plan.toFilter := by
  obtain ⟨since, hemitted, hwarned⟩ := earlier.continues_warned plan.strayPieces
  rw [hwriter, Option.map_none] at hwarned
  rw [start, hwarned]
  exact ⟨_, rfl, _, rfl, rfl, rfl⟩

theorem Continues.isSome (hcontinues : Continues earlier later)
    (hwriter : earlier.writer.isSome) : later.writer.isSome := by
  obtain ⟨since, -, hlater⟩ := hcontinues
  rw [hlater, Option.isSome_map]
  exact hwriter

theorem IsOpen.isSome (hopen : earlier.IsOpen filter) : earlier.writer.isSome := by
  obtain ⟨writer, hwriter, -⟩ := hopen
  rw [hwriter]
  rfl

theorem IsClosed.isSome (hclosed : earlier.IsClosed) : earlier.writer.isSome := by
  obtain ⟨writer, hwriter, -⟩ := hclosed
  rw [hwriter]
  rfl

theorem IsOpen.continues (hopen : earlier.IsOpen filter) (hcontinues : Continues earlier later) :
    later.IsOpen filter ∧ WritesAll filter earlier later := by
  obtain ⟨writer, hwriter, hisOpen, rfl⟩ := hopen
  obtain ⟨since, hemitted, hlater⟩ := hcontinues
  rw [hwriter, Option.map_some, writer.takeAll_eq, if_pos hisOpen] at hlater
  refine ⟨⟨_, hlater, hisOpen, rfl⟩, since, hemitted, ?_⟩
  simp [lines, hlater, hwriter]

/-- Nothing more is written once the writer is closed. -/
theorem IsClosed.continues (hclosed : earlier.IsClosed) (hcontinues : Continues earlier later) :
    later.IsClosed ∧ later.lines = earlier.lines := by
  obtain ⟨writer, hwriter, hisClosed⟩ := hclosed
  obtain ⟨since, -, hlater⟩ := hcontinues
  rw [hwriter, Option.map_some, writer.takeAll_eq, hisClosed] at hlater
  exact ⟨⟨_, hlater, rfl⟩, by simp [lines, hlater, hwriter]⟩

@[simp]
theorem lines_close (journal : Journal) : journal.close.lines = journal.lines := by
  rcases journal with ⟨emitted, _ | writer⟩ <;> rfl

theorem isClosed_close (hwriter : earlier.writer.isSome) : earlier.close.IsClosed := by
  obtain ⟨writer, hsome⟩ := Option.isSome_iff_exists.mp hwriter
  exact ⟨{ writer with isOpen := false }, by rw [close, hsome, Option.map_some], rfl⟩

end Journal

end Log

/-! ## Computations that emit events -/

/-- The computation emits events and does nothing else to the log and to who keeps its
writer. -/
def Native.Emits (body : Native α) : Prop :=
  ∀ context, context.process.journal.Continues (body.run context).2.process.journal ∧
    (body.run context).2.process.keepsWriter = context.process.keepsWriter

namespace Native

theorem Emits.bind {body : Native α} {next : α → Native β} (hbody : body.Emits)
    (hnext : ∀ value, (next value).Emits) : (body >>= next).Emits := by
  intro context
  obtain ⟨hfirst, hkept⟩ := hbody context
  obtain ⟨hsecond, hstill⟩ := hnext (body.run context).1 (body.run context).2
  rw [run_bind]
  exact ⟨hfirst.trans hsecond, hstill.trans hkept⟩

/-- What leaves the log alone emits nothing. -/
theorem emits_of_journal {body : Native α}
    (hbody : ∀ context, (body.run context).2.process.journal = context.process.journal ∧
      (body.run context).2.process.keepsWriter = context.process.keepsWriter) : body.Emits := by
  intro context
  obtain ⟨hjournal, hkept⟩ := hbody context
  rw [hjournal]
  exact ⟨.refl _, hkept⟩

theorem emits_pure (value : α) : (pure value : Native α).Emits :=
  emits_of_journal fun _ => ⟨rfl, rfl⟩

theorem emits_emit (event : Log.Event) : (emit event).Emits :=
  fun context => ⟨context.process.journal.continues_emit event, rfl⟩

theorem emits_writeLine (line : String) : (writeLine line).Emits := by
  apply emits_of_journal
  rintro ⟨process, lastError, _ | collected⟩ <;> exact ⟨rfl, rfl⟩

end Native

namespace Context

theorem continues_on (effect : Effect) (context : Context) :
    context.process.journal.Continues (effect.on context).process.journal ∧
      (effect.on context).process.keepsWriter = context.process.keepsWriter := by
  rcases context with ⟨process, lastError, _ | collected⟩ <;>
    rcases effect with ⟨objects, allocated, released, _ | line, _ | event⟩
  all_goals first
    | exact ⟨.refl _, rfl⟩
    | exact ⟨process.journal.continues_emit event, rfl⟩

/-- Contexts that are the same are alike too, as long as their log continues a given one. -/
theorem likeness_continues (journal : Log.Journal) (keeps : Bool) :
    Likeness fun left right => left = right ∧
      journal.Continues left.process.journal ∧ left.process.keepsWriter = keeps where
  objects halike := congrArg (·.process.objects) halike.1
  settings halike := congrArg (·.process.settings) halike.1
  affected effect left right := by
    rintro ⟨rfl, hcontinues, hkeeps⟩
    obtain ⟨heffect, hkept⟩ := continues_on effect left
    exact ⟨rfl, hcontinues.trans heffect, hkept.trans hkeeps⟩
  emitted event left right := by
    rintro ⟨rfl, hcontinues, hkeeps⟩
    exact ⟨rfl, hcontinues.trans (left.process.journal.continues_emit event), hkeeps⟩
  counted := by
    rintro left right ⟨rfl, hlog⟩
    exact ⟨rfl, hlog⟩
  faulted errors left right := by
    rintro ⟨rfl, hlog⟩
    exact ⟨rfl, hlog⟩
  marked last left right := by
    rintro ⟨rfl, hlog⟩
    exact ⟨rfl, hlog⟩

end Context

/-- What respects every likeness emits events and no more. -/
theorem Native.emits_of_respects {body : Native α}
    (hbody : ∀ {alike : Context → Context → Prop}, Context.Likeness alike →
      body.Respects alike) : body.Emits := by
  intro context
  have hlike := Context.likeness_continues context.process.journal context.process.keepsWriter
  exact (hbody hlike context context ⟨rfl, .refl _, rfl⟩).2.2

/-! ## Starting and stopping -/

namespace Objects

theorem emits_shutdown : shutdown.Emits := by
  intro context
  rw [run_shutdown]
  dsimp only
  split
  · exact ⟨context.process.journal.continues_emit _, rfl⟩
  · exact ⟨.refl _, rfl⟩

end Objects

namespace Startup

theorem emits_discover (files : FileTree) (directory : Place) :
    (discover files directory).Emits :=
  Native.Emits.bind (reports_induction (Native.emits_pure _)
    (fun _ _ hrest => (Native.emits_emit _).bind fun _ => hrest) _) fun _ => Native.emits_pure _

theorem letGoOfWriter_closes (context : Context) :
    (letGoOfWriter.run context).2.process.journal =
        (if context.process.keepsWriter then context.process.journal.close
          else context.process.journal) ∧
      (letGoOfWriter.run context).2.process.keepsWriter = false := by
  rcases context with ⟨⟨objects, counts, settings, journal, _ | _, stdout⟩, thread⟩ <;>
    exact ⟨rfl, rfl⟩

variable (context : Context)

/-- To start again only emits events. -/
theorem emits_start_again (hwriter : context.process.journal.writer.isSome)
    (settings : Settings) :
    ((start settings).run context).1 = false ∧
      context.process.journal.Continues ((start settings).run context).2.process.journal ∧
      ((start settings).run context).2.process.keepsWriter = context.process.keepsWriter := by
  obtain ⟨later, hstart, hcontinues⟩ :=
    Log.Journal.start_of_isSome hwriter settings.logging.toPlan
  rw [run_start, hstart]
  exact ⟨rfl, hcontinues.trans (later.continues_emit _), rfl⟩

/-- To start for the first time opens a writer with the filter of the settings. -/
theorem opens_start (hwriter : context.process.journal.writer = none) (settings : Settings) :
    ((start settings).run context).1 = true ∧
      ((start settings).run context).2.process.journal.IsOpen
        settings.logging.toPlan.toFilter ∧
      ((start settings).run context).2.process.keepsWriter = context.process.keepsWriter := by
  obtain ⟨later, hstart, hopen⟩ := Log.Journal.start_of_none hwriter settings.logging.toPlan
  rw [run_start, hstart]
  exact ⟨rfl, (hopen.continues (later.continues_emit _)).1, rfl⟩

/-- A process that starts itself for the first time keeps the writer. -/
theorem opens_startFrom (hwriter : context.process.journal.writer = none)
    (hkeeps : context.process.keepsWriter = false) (files : FileTree) (directory : Place) :
    ((startFrom files directory).run context).2.process.journal.IsOpen
        (Config.discover files directory).settings.logging.toPlan.toFilter ∧
      ((startFrom files directory).run context).2.process.keepsWriter = true := by
  obtain ⟨⟨since, -, hdiscovered⟩, hkept⟩ := emits_discover files directory context
  rw [hwriter, Option.map_none] at hdiscovered
  obtain ⟨hstarted, hopen, hstill⟩ :=
    opens_start _ hdiscovered (Config.discover files directory).settings
  obtain ⟨hjournal, -⟩ := letGoOfWriter_closes ((start
    (Config.discover files directory).settings).run ((discover files directory).run context).2).2
  rw [hstill, hkept, hkeeps, if_neg Bool.false_ne_true] at hjournal
  rw [run_startFrom]
  dsimp only
  rw [hjournal]
  exact ⟨hopen, hstarted⟩

end Startup

end InteropBridge
