import InteropBridge.Proofs.Crossing.Effect
import InteropBridge.Proofs.Crossing.Entering
import InteropBridge.Proofs.Ledger.Crossing
import InteropBridge.Proofs.Ledger.Trail

/-!
# The trail that crossings leave

A computation reports something if the trail in the log grows by the entries of what its result
tells of, and of nothing else.  Every export does so, and so does every call of one.  What is
done around a call leaves the ledger and the trail as they are.
-/

namespace InteropBridge

/-- The trail in the log of the process. -/
def Context.trail (context : Context) : List Log.Event :=
  context.process.journal.trail

/-- What entries of the trail come from, and the trail. -/
def Context.books (context : Context) : Ledger × List Log.Event :=
  (context.process.ledger, context.trail)

theorem Context.eq_of_books {left right : Context} (hbooks : left.books = right.books) :
    left.process.ledger = right.process.ledger ∧ left.trail = right.trail :=
  Prod.ext_iff.mp hbooks

namespace Native

variable {α β : Type} {happenings : β → List Happening} {body : Native α} {next : α → Native β}

/-- The trail grows by the entries of what the result tells of. -/
def Reports (happenings : α → List Happening) (body : Native α) : Prop :=
  ∀ context, (body.run context).2.trail = context.trail ++
    (happenings (body.run context).1).flatMap context.process.ledger.entries

theorem Keeps.trail (hbody : body.Keeps Context.books) : body.Keeps Context.trail :=
  fun context => congrArg Prod.snd (hbody context)

theorem Keeps.reports (hbody : body.Keeps Context.trail) : body.Reports fun _ => [] :=
  fun context => (hbody context).trans (List.append_nil _).symm

/-- What leaves the trail as it is may come after a report. -/
theorem Reports.bind_keeps {first : α → List Happening} (hbody : body.Reports first)
    (hnext : ∀ value, (next value).Keeps Context.trail)
    (hsame : ∀ value result, happenings result = first value) :
    (body >>= next).Reports happenings := by
  intro context
  rw [run_bind, hnext, hbody context, hsame (body.run context).1]

theorem keeps_emit {event : Log.Event} (hevent : event.isAudit = false) :
    (emit event).Keeps Context.books :=
  fun context => congrArg (Prod.mk _)
    (context.process.journal.trail_emit_of_not_audit hevent)

theorem keeps_countMarshalError : countMarshalError.Keeps Context.books :=
  fun _ => rfl

end Native

namespace Attempt

variable {α β : Type} {body : Attempt α}

/-- The trail grows by the entries of what the value tells of, and does not grow if there is
no value. -/
abbrev Reports (happenings : α → List Happening) (body : Attempt α) : Prop :=
  Native.Reports (onSuccess happenings) body.run

theorem Keeps.reports (hbody : Keeps Context.trail body) : Reports (fun _ => []) body := by
  intro context
  rw [hbody context]
  cases (body.run.run context).1 <;> exact (List.append_nil _).symm

theorem Reports.keeps (hbody : Reports (fun _ => []) body) : Keeps Context.trail body := by
  intro context
  rw [hbody context]
  cases (body.run.run context).1 <;> exact List.append_nil _

/-- What leaves the books as they are may come before a report. -/
theorem Reports.of_keeps {happenings : β → List Happening} {next : α → Attempt β}
    (hbody : Keeps Context.books body) (hnext : ∀ value, Reports happenings (next value)) :
    Reports happenings (body >>= next) := by
  intro context
  obtain ⟨hledger, htrail⟩ := Context.eq_of_books (hbody context)
  rcases hrun : body.run.run context with ⟨error | value, after⟩
  · rw [run_bind_error hrun]
    rw [hrun] at htrail
    exact htrail.trans (List.append_nil _).symm
  · rw [run_bind_ok hrun, hnext value after]
    rw [hrun] at hledger htrail
    rw [hledger, htrail]

theorem Reports.map {first : α → List Happening} {happenings : β → List Happening}
    {next : α → β} (hbody : Reports first body)
    (hnext : ∀ value, happenings (next value) = first value) :
    Reports happenings (body >>= fun value => pure (next value)) := by
  intro context
  have hreport := hbody context
  rcases hrun : body.run.run context with ⟨error | value, after⟩
  · rw [run_bind_error hrun]
    rw [hrun] at hreport
    exact hreport
  · rw [run_bind_ok hrun]
    rw [hrun] at hreport
    change after.trail = _ ++ (happenings (next value)).flatMap _
    rw [hnext value]
    exact hreport

end Attempt

open Attempt

/-! ## Exports -/

theorem Context.trail_on (effect : Effect) (context : Context) :
    (effect.on context).trail =
      context.trail ++ effect.event.toList.filter (·.isAudit) := by
  rcases context with ⟨process, lastError, _ | collected⟩ <;>
    rcases effect with ⟨objects, allocated, released, _ | line, _ | event⟩
  all_goals first
    | exact (List.append_nil _).symm
    | exact process.journal.trail_emit event

/-- What comes of something makes the entries of what its value tells of. -/
def Effect.Reported {α : Type} (happenings : α → List Happening) (ledger : Ledger)
    (outcome : Except BridgeError α × Effect) : Prop :=
  outcome.2.event.toList.filter (·.isAudit) =
    (onSuccess happenings outcome.1).flatMap ledger.entries

namespace Objects

variable (ledger : Ledger)

theorem reported_storing {happenings : Handle → List Happening}
    (hentries : ∀ handle, (happenings handle).flatMap ledger.entries =
      [.allocated ledger.objects.kind handle (ledger.objects.live + 1)])
    (object : Int32) (limit : Nat) :
    Effect.Reported happenings ledger (storing ledger.objects object limit) := by
  rw [storing]
  split
  · exact (hentries _).symm
  · rfl

theorem reported_ending (handle : Handle) (policy : ReleasePolicy) :
    Effect.Reported (fun _ => [.released handle]) ledger
      (ending ledger.objects handle policy) := by
  have hentries : [Happening.released handle].flatMap ledger.entries =
      ledger.entries (.released handle) := List.flatMap_singleton ..
  rw [ending]
  cases hfind : ledger.objects.find handle with
  | ok object =>
      rw [Ledger.entries, HandleTable.contains_iff_find.mpr ⟨object, hfind⟩] at hentries
      exact hentries.symm
  | error error =>
      rw [Ledger.entries, HandleTable.contains_of_find_error hfind] at hentries
      obtain ⟨-, rfl⟩ | ⟨-, rfl⟩ := HandleTable.find_error hfind
      · rfl
      · cases policy with
        | ignore => exact hentries.symm
        | report => rfl

end Objects

namespace Crossing

variable {kind : ResultKind}

/-- An export that makes no entry in the log reports nothing but what makes none. -/
theorem reported_of_none {α : Type} {happenings : α → List Happening} {ledger : Ledger}
    {outcome : Except BridgeError α × Effect} (hevent : outcome.2.event = none)
    (hentries : ∀ value, (happenings value).flatMap ledger.entries = []) :
    Effect.Reported happenings ledger outcome := by
  rw [Effect.Reported, hevent]
  cases outcome.1 with
  | ok value => exact (hentries value).symm
  | error error => rfl

theorem event_adding (objects : HandleTable Int32) (handle : Handle) (amount : Int32) :
    (Objects.adding objects handle amount).2.event = none := by
  rw [Objects.adding]
  cases objects.find handle <;> rfl

theorem event_showing (objects : HandleTable Int32) (handle : Handle) (line : Int32 → String) :
    (Objects.showing objects handle line).2.event = none := by
  rw [Objects.showing]
  cases objects.find handle <;> rfl

theorem reported_maybeMake (ledger : Ledger) (settings : Settings) (name : Flagged TextView) :
    Effect.Reported (maybeMake name).happenings ledger
      ((maybeMake name).effect ledger.objects settings) := by
  rw [effect]
  split
  · rfl
  · have hstored : Effect.Reported (fun handle => [.made handle]) ledger
        (Objects.storing ledger.objects 0 settings.handles.maxLive) :=
      Objects.reported_storing ledger (fun _ => rfl) 0 _
    rw [Effect.Reported] at hstored ⊢
    dsimp only
    rw [hstored]
    cases (Objects.storing ledger.objects 0 settings.handles.maxLive).1 <;> rfl
  · rfl

/-- Of what an export does, the event makes the entries of what its result tells of. -/
theorem reported_effect (ledger : Ledger) (settings : Settings) (crossing : Crossing kind) :
    Effect.Reported crossing.happenings ledger (crossing.effect ledger.objects settings) := by
  cases crossing with
  | make => exact Objects.reported_storing ledger (fun _ => rfl) 0 _
  | maybeMake name => exact reported_maybeMake ledger settings name
  | free handle =>
      rw [effect]
      cases hnull : handle.isNull with
      | true =>
          refine reported_of_none rfl fun _ => ?_
          rw [happenings, List.flatMap_singleton, Ledger.entries, HandleTable.contains, hnull]
          rfl
      | false => exact Objects.reported_ending ledger handle _
  | duplicate source =>
      rw [effect]
      cases ledger.objects.find source with
      | ok object => exact Objects.reported_storing ledger (fun _ => rfl) object _
      | error error => rfl
  | increment handle | addTo handle amount =>
      exact reported_of_none (event_adding _ handle _) fun _ => rfl
  | printCopy handle | print handle =>
      exact reported_of_none (event_showing _ handle _) fun _ => rfl
  | printLength items =>
      refine reported_of_none ?_ fun _ => rfl
      rw [effect]
      split <;> rfl
  | concat left right | concatLent left right | get handle =>
      exact reported_of_none rfl fun _ => rfl
  | hello | printNumber number | add left right | getNumbers | maybeAddOne value => rfl

theorem reported_effectAt (hasPlace : Bool) (ledger : Ledger) (settings : Settings)
    (crossing : Crossing kind) :
    Effect.Reported crossing.happenings ledger
      (crossing.effectAt hasPlace ledger.objects settings) := by
  rw [effectAt.eq_def]
  split
  · rfl
  · exact reported_effect ledger settings crossing
  · exact reported_effect ledger settings crossing

theorem reports_attempt (crossing : Crossing kind) (hasPlace : Bool) :
    Reports crossing.happenings (crossing.attempt hasPlace) := by
  intro context
  rw [run_attempt]
  dsimp only
  rw [Context.trail_on]
  congr 1
  exact crossing.reported_effectAt hasPlace context.process.ledger context.process.settings

/-! ## Calls -/

theorem books_entered (crossing : Crossing kind) (context : Context) :
    (crossing.entered context).books = context.books := by
  have hcalled : (Log.Event.called crossing.target.symbol
      crossing.target.signature.arity).isAudit = false := rfl
  exact Native.keeps_emit hcalled context

theorem trail_returned (crossing : Crossing kind) (context : Context) :
    (crossing.returned context).trail = context.trail :=
  context.process.journal.trail_emit_of_not_audit rfl

theorem trail_refused (crossing : Crossing kind) (error : BridgeError) (context : Context) :
    (crossing.refused error context).trail = context.trail :=
  context.process.journal.trail_emit_of_not_audit rfl

/-- The trail grows by the entries of what the status and the place after the call tell of. -/
theorem reports_invoke (crossing : Crossing kind) (place : Option kind.Result)
    (otherwise : kind.Result) :
    (crossing.invoke place).Reports fun answer =>
      crossing.told answer.1 (answer.2.getD otherwise) := by
  intro context
  obtain ⟨hledger, htrail⟩ := Context.eq_of_books (crossing.books_entered context)
  have hreport := reports_attempt crossing place.isSome (crossing.entered context)
  rw [hledger, htrail] at hreport
  rw [run_invoke]
  rcases hattempt : (crossing.attempt place.isSome).run.run (crossing.entered context) with
    ⟨error | result, after⟩ <;> rw [hattempt] at hreport
  · dsimp only
    rw [trail_refused, told_of_ne_ok crossing error.status_ne_ok]
    exact hreport
  · dsimp only
    rw [trail_returned]
    cases place with
    | some held => exact hreport
    | none =>
        -- Only exports without a result get here, and they tell the same whatever is looked at.
        have hnone := attempt_needs_place hattempt
        change _ = _ ++ (crossing.happenings otherwise).flatMap _
        rw [happenings_of_no_place hnone otherwise result]
        exact hreport

end Crossing

theorem Managed.reports_ask {kind : ResultKind} (crossing : Crossing kind) :
    Reports crossing.happenings (ask crossing) := by
  intro context
  obtain ⟨hledger, htrail⟩ := Context.eq_of_books (crossing.books_entered context)
  have hreport := Crossing.reports_attempt crossing true (crossing.entered context)
  rw [hledger, htrail] at hreport
  rw [run_ask]
  rcases hattempt : (crossing.attempt true).run.run (crossing.entered context) with
    ⟨error | result, after⟩ <;> rw [hattempt] at hreport
  · exact (crossing.trail_refused error after).trans hreport
  · exact (crossing.trail_returned after).trans hreport

end InteropBridge
