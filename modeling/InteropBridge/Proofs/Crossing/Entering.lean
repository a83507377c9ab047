import InteropBridge.Proofs.Crossing.Atomicity

/-!
# Entering exports

A call of an export is counted and logged when it is entered, and nothing else is.
So the count and the log together show which exports a computation has entered.
Whatever an export does inside, it enters no other.
-/

namespace InteropBridge

namespace Log.Event

/-- Whether the event says that an export was entered. -/
def isCall (event : Log.Event) : Bool :=
  event.message == "FFI call"

theorem isCall_eq_false {event : Log.Event} (hhead : event.message.toList.head? ≠ some 'F') :
    event.isCall = false := by
  rw [isCall, beq_eq_false_iff_ne]
  intro hmessage
  rw [hmessage] at hhead
  exact hhead rfl

end Log.Event

namespace Context

/-- How many calls were counted, and the calls in the log, newest first. -/
def entries (context : Context) : Nat × List Log.Event :=
  (context.process.tally.callsMade, context.process.journal.emitted.filter (·.isCall))

/-- The last error of the thread. -/
abbrev lastError (context : Context) : Option BridgeError :=
  context.thread.lastError

/-- The part of a context that is out of the reach of what exports do inside: the counts
of calls and of marshal errors, the settings, the last error, and the calls in the log. -/
def outskirts (context : Context) : Context where
  process := {
    tally := {
      callsMade := context.process.tally.callsMade
      marshalErrors := context.process.tally.marshalErrors }
    settings := context.process.settings
    journal := { emitted := context.process.journal.emitted.filter (·.isCall) } }
  thread := { lastError := context.thread.lastError }

/-- The context with only the calls left in its log. -/
def muted (context : Context) : Context :=
  { context with
    process.journal := { emitted := context.process.journal.emitted.filter (·.isCall) } }

@[simp]
theorem outskirts_muted (context : Context) : context.muted.outskirts = context.outskirts := by
  simp [outskirts, muted]

/-- An event that is no call does not show. -/
theorem muted_emit {event : Log.Event} (hevent : event.isCall = false)
    (context : Context) :
    { context with process.journal := context.process.journal.emit event }.muted =
      context.muted := by
  simp [muted, Log.Journal.emit, hevent]

@[simp]
theorem entries_outskirts (context : Context) : context.outskirts.entries = context.entries := by
  simp [outskirts, entries]

theorem entries_eq_of_outskirts_eq {left right : Context}
    (houtskirts : left.outskirts = right.outskirts) : left.entries = right.entries := by
  rw [← entries_outskirts, houtskirts, entries_outskirts]

/-- The export, and no other, was entered once in between. -/
structure Entered (target : Export) (before after : Context) : Prop where
  counted : after.entries.1 = before.entries.1 + 1
  logged : after.entries.2 =
    .called target.symbol target.signature.arity :: before.entries.2

theorem Entered.of_entries_eq {target : Export} {before first last after : Context}
    (hbefore : first.entries = before.entries) (hentered : Entered target first last)
    (hafter : after.entries = last.entries) : Entered target before after := by
  refine ⟨?_, ?_⟩
  · rw [hafter, hentered.counted, hbefore]
  · rw [hafter, hentered.logged, hbefore]

end Context

theorem Native.run_emit (event : Log.Event) (context : Context) :
    (emit event).run context =
      ((), { context with process.journal := context.process.journal.emit event }) := rfl

/-- The computation leaves what is seen of the context as it is. -/
def Native.Keeps {α β : Type} (view : Context → β) (body : Native α) : Prop :=
  ∀ context, view (body.run context).2 = view context

theorem Native.Keeps.bind {α β γ : Type} {view : Context → γ} {body : Native α}
    {next : α → Native β} (hbody : body.Keeps view) (hnext : ∀ value, (next value).Keeps view) :
    (body >>= next).Keeps view := by
  intro context
  rw [run_bind, hnext, hbody]

namespace Attempt

variable {α β γ : Type} {view : Context → γ}

/-- The computation leaves what is seen of the context as it is, also where it
fails. -/
abbrev Keeps (view : Context → γ) (body : Attempt α) : Prop :=
  Native.Keeps view body.run

theorem Looks.keeps {body : Attempt α} (hbody : Looks body) : Keeps view body := by
  intro context
  exact congrArg view (hbody context)

theorem keeps_lift {body : Native α} (hbody : body.Keeps view) :
    Keeps view (liftM body) := by
  intro context
  rw [run_lift]
  exact hbody context

theorem Keeps.bind {body : Attempt α} {next : α → Attempt β} (hbody : Keeps view body)
    (hnext : ∀ value, Keeps view (next value)) : Keeps view (body >>= next) := by
  intro context
  have hfirst := hbody context
  rcases hrun : body.run.run context with ⟨error | value, after⟩
  · rw [run_bind_error hrun]
    rw [hrun] at hfirst
    exact hfirst
  · rw [run_bind_ok hrun, hnext value after]
    rw [hrun] at hfirst
    exact hfirst

/-- The computation enters the export once, however it ends. -/
def Enters (target : Export) (body : Attempt α) : Prop :=
  ∀ context, Context.Entered target context (body.run.run context).2

end Attempt

open Attempt

namespace Native

theorem keeps_writeLine (line : String) : (writeLine line).Keeps Context.outskirts := by
  intro context
  rcases context with ⟨process, lastError, _ | collected⟩ <;> rfl

end Native

namespace Objects

theorem keeps_change (handle : Handle) (revise : Int32 → Int32) :
    Keeps Context.outskirts (change handle revise) := by
  intro context
  rw [run_change]
  split <;> rfl

theorem keeps_register (object : Int32) : Keeps Context.outskirts (register object) := by
  intro context
  rw [run_register]
  split <;> rfl

theorem keeps_release (handle : Handle) : Keeps Context.outskirts (release handle) := by
  intro context
  rw [run_release]
  split
  · rfl
  · split <;> rfl
  · rfl

end Objects

namespace Crossing

variable {kind : ResultKind}

theorem keeps_print (handle : Handle) (line : Int32 → String) :
    Keeps Context.outskirts (do
      let object ← Objects.read handle
      Native.writeLine (line object)) :=
  (Objects.looks_read handle).keeps.bind fun _ => keeps_lift (Native.keeps_writeLine _)

/-- No export enters another, and none touches what else is out of its reach. -/
theorem keeps_run (crossing : Crossing kind) : Keeps Context.outskirts crossing.run := by
  cases crossing with
  | hello => exact keeps_lift (Native.keeps_writeLine _)
  | printNumber number => exact keeps_lift (Native.keeps_writeLine _)
  | add left right => exact (looks_pure _).keeps
  | concat left right => exact (looks_joinTexts left right).keeps
  | concatLent left right => exact (looks_joinTexts left right).keeps
  | printCopy handle => exact keeps_print handle _
  | printLength items =>
      exact looks_settings.keeps.bind fun _ => (looks_demand _).keeps.bind fun _ =>
        keeps_lift (Native.keeps_writeLine _)
  | getNumbers => exact (looks_pure _).keeps
  | maybeMake name =>
      simp only [run]
      split
      · exact (looks_pure _).keeps
      · exact (looks_readText _).keeps.bind fun _ =>
          (Objects.keeps_register 0).bind fun _ => (looks_pure _).keeps
  | maybeAddOne value => exact (looks_pure _).keeps
  | make => exact Objects.keeps_register 0
  | free handle =>
      simp only [run]
      split
      · exact (looks_pure _).keeps
      · exact Objects.keeps_release handle
  | duplicate handle =>
      exact (Objects.looks_read handle).keeps.bind Objects.keeps_register
  | print handle => exact keeps_print handle _
  | increment handle => exact Objects.keeps_change handle _
  | addTo handle amount => exact Objects.keeps_change handle _
  | get handle => exact (Objects.looks_read handle).keeps

theorem keeps_attempt (crossing : Crossing kind) (hasPlace : Bool) :
    Keeps Context.outskirts (crossing.attempt hasPlace) := by
  rw [attempt_eq]
  split
  · exact (looks_throw _).keeps
  · exact keeps_run crossing
  · exact keeps_run crossing

theorem outskirts_refused (crossing : Crossing kind) (error : BridgeError) {left right : Context}
    (halike : left.outskirts = right.outskirts) :
    (crossing.refused error left).outskirts = (crossing.refused error right).outskirts := by
  have hleft : (crossing.refused error left).outskirts =
      { left.outskirts with
        process.tally.marshalErrors :=
          left.outskirts.process.tally.marshalErrors + if error.isMarshal then 1 else 0
        thread.lastError := some error } := rfl
  rw [hleft, halike]
  rfl

/-- What the attempt of an export ends in when the export is called. -/
def outcome (crossing : Crossing kind) (hasPlace : Bool) (context : Context) :
    Except BridgeError kind.Result :=
  ((crossing.attempt hasPlace).run.run (crossing.entered context)).1

/-- A call of an export comes to what its attempt comes to, which leaves alone what is out
of its reach. -/
theorem exists_run_invoke (crossing : Crossing kind) (place : Option kind.Result)
    (context : Context) :
    ∃ after, after.outskirts = (crossing.entered context).outskirts ∧
      (crossing.invoke place).run context =
        match crossing.outcome place.isSome context with
        | .ok result => ((.ok, place.map fun _ => result), crossing.returned after)
        | .error error => ((error.status, place), crossing.refused error after) := by
  have hkeeps := keeps_attempt crossing place.isSome (crossing.entered context)
  refine ⟨_, hkeeps, ?_⟩
  rw [run_invoke, outcome]
  rcases (crossing.attempt place.isSome).run.run (crossing.entered context) with
    ⟨error | result, after⟩ <;> rfl

/-- A call that succeeds writes the result, and out of the reach of the function it
leaves only its own record. -/
theorem invoke_of_ok {crossing : Crossing kind} (place : Option kind.Result)
    {context : Context} {result : kind.Result}
    (houtcome : crossing.outcome place.isSome context = .ok result) :
    ((crossing.invoke place).run context).1 = (.ok, place.map fun _ => result) ∧
      ((crossing.invoke place).run context).2.outskirts =
        (crossing.entered context).outskirts := by
  obtain ⟨after, hkeeps, hrun⟩ := crossing.exists_run_invoke place context
  rw [hrun, houtcome]
  exact ⟨rfl, hkeeps⟩

/-- A call that fails answers the status of the error and leaves the error to the
thread. -/
theorem invoke_of_error {crossing : Crossing kind} (place : Option kind.Result)
    {context : Context} {error : BridgeError}
    (houtcome : crossing.outcome place.isSome context = .error error) :
    ((crossing.invoke place).run context).1 = (error.status, place) ∧
      ((crossing.invoke place).run context).2.outskirts =
        (crossing.refused error (crossing.entered context)).outskirts := by
  obtain ⟨after, hkeeps, hrun⟩ := crossing.exists_run_invoke place context
  rw [hrun, houtcome]
  exact ⟨rfl, crossing.outskirts_refused error hkeeps⟩

/-- A call of an export enters it, whether it succeeds or fails. -/
theorem entered_invoke (crossing : Crossing kind) (place : Option kind.Result)
    (context : Context) :
    context.Entered crossing.target ((crossing.invoke place).run context).2 := by
  have hreturned : context.Entered crossing.target (crossing.entered context) := ⟨rfl, rfl⟩
  cases houtcome : crossing.outcome place.isSome context with
  | ok result =>
      have hafter := Context.entries_eq_of_outskirts_eq (invoke_of_ok place houtcome).2
      exact .of_entries_eq rfl hreturned hafter
  | error error =>
      have hafter := Context.entries_eq_of_outskirts_eq (invoke_of_error place houtcome).2
      exact .of_entries_eq rfl hreturned hafter

end Crossing

end InteropBridge
