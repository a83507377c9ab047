import InteropBridge.Proofs.Crossing.Heeding
import InteropBridge.Proofs.Managed.Lending

/-!
# Managed calls mirror crossings

A managed call that gets to the boundary does what one direct call of the export does.
It learns the value in the place for the result or the error that the call left for its
thread, and it leaves the same behind, but for the log and for that error.  The way to
the boundary and back only adds to the log.
-/

namespace InteropBridge

/-- The context once the last error of its thread was taken. -/
def Context.cleared (context : Context) : Context :=
  { context with thread.lastError := none }

theorem Context.cleared_eq_self {context : Context} (hnone : context.thread.lastError = none) :
    context.cleared = context := by
  rw [cleared, ← hnone]

variable {kind : ResultKind} {α β : Type}

/-- What a managed caller got, beside what a direct call of an export comes to.  `decode`
reads the caller's value off the place for the result. -/
structure Crossing.Mirrored (decode : kind.Result → α)
    (crossed : (Status × Option kind.Result) × Context)
    (performed : Except BridgeError α × Context) : Prop where
  returned : crossed.1.1 = .ok →
    ∃ result, crossed.1.2 = some result ∧ performed.1 = .ok (decode result)
  failed : crossed.1.1 ≠ .ok →
    ∃ error, crossed.2.thread.lastError = some error ∧ error.status = crossed.1.1 ∧
      performed.1 = .error error
  after : performed.2.muted = crossed.2.cleared.muted

namespace Attempt

/-- Wherever it runs, the computation does what the direct call does that is given any
place for the result. -/
def Mirrors (crossing : Crossing kind) (decode : kind.Result → α) (body : Attempt α) : Prop :=
  ∀ context place,
    Crossing.Mirrored decode ((crossing.invoke (some place)).run context)
      (body.run.run context)

variable {crossing : Crossing kind} {decode : kind.Result → α}

/-- What follows a call that is mirrored may read another value off its result. -/
theorem Mirrors.bind {body : Attempt α} {next : α → Attempt β} {final : kind.Result → β}
    (hbody : Mirrors crossing decode body)
    (hnext : ∀ result, Gives (final result) (next (decode result))) :
    Mirrors crossing final (body >>= next) := by
  intro context place
  obtain ⟨hreturned, hfailed, hafter⟩ := hbody context place
  by_cases hstatus : ((crossing.invoke (some place)).run context).1.1 = .ok
  · obtain ⟨result, hplace, hvalue⟩ := hreturned hstatus
    have hrun : body.run.run context = (.ok (decode result), (body.run.run context).2) :=
      Prod.ext hvalue rfl
    obtain ⟨after, hnextRun, hmuted⟩ := (hnext result).run (body.run.run context).2
    rw [run_bind_ok hrun, hnextRun]
    exact ⟨fun _ => ⟨result, hplace, rfl⟩, fun hne => absurd hstatus hne, hmuted.trans hafter⟩
  · obtain ⟨error, hlast, herror, hvalue⟩ := hfailed hstatus
    have hrun : body.run.run context = (.error error, (body.run.run context).2) :=
      Prod.ext hvalue rfl
    rw [run_bind_error hrun]
    exact ⟨fun hok => absurd hok hstatus, fun _ => ⟨error, hlast, herror, rfl⟩, hafter⟩

theorem Mirrors.map {body : Attempt α} {change : α → β} {final : kind.Result → β}
    (hbody : Mirrors crossing decode body)
    (hchange : ∀ result, change (decode result) = final result) :
    Mirrors crossing final (body >>= fun value => pure (change value)) := by
  apply hbody.bind
  intro result
  rw [hchange]
  exact gives_pure _

end Attempt

/-- What a call leaves of its log does not show in what mirrors it. -/
theorem Crossing.Mirrored.of_muted_eq {decode : kind.Result → α}
    {crossed other : (Status × Option kind.Result) × Context}
    {performed : Except BridgeError α × Context} (hmirrored : Mirrored decode crossed performed)
    (hanswer : other.1 = crossed.1) (hmuted : other.2.muted = crossed.2.muted) :
    Mirrored decode other performed := by
  have hlast : other.2.thread.lastError = crossed.2.thread.lastError := by
    change other.2.muted.thread.lastError = crossed.2.muted.thread.lastError
    rw [hmuted]
  have hcleared : other.2.cleared.muted = crossed.2.cleared.muted :=
    congrArg Context.cleared hmuted
  obtain ⟨hreturned, hfailed, hafter⟩ := hmirrored
  rw [← hanswer] at hreturned hfailed
  rw [← hlast] at hfailed
  exact ⟨hreturned, hfailed, hafter.trans hcleared.symm⟩

theorem Crossing.Mirrored.of_logged {decode : kind.Result → α}
    {crossed : (Status × Option kind.Result) × Context}
    {performed logged : Except BridgeError α × Context}
    (hmirrored : Mirrored decode crossed performed) (hresult : logged.1 = performed.1)
    (hmuted : logged.2.muted = performed.2.muted) : Mirrored decode crossed logged := by
  obtain ⟨hreturned, hfailed, hafter⟩ := hmirrored
  rw [← hresult] at hreturned hfailed
  exact ⟨hreturned, hfailed, hmuted.trans hafter⟩

namespace Attempt

variable {crossing : Crossing kind} {decode : kind.Result → α}

/-- What only adds to the log may come before. -/
theorem Mirrors.of_gives {first : Attempt β} {value : β} {next : β → Attempt α}
    (hfirst : Gives value first) (hnext : Mirrors crossing decode (next value)) :
    Mirrors crossing decode (first >>= next) := by
  intro context place
  obtain ⟨between, hrun, hbetween⟩ := hfirst.run context
  obtain ⟨hanswer, hafter⟩ := crossing.heeds_invoke (some place) _ _ hbetween.symm
  rw [run_bind_ok hrun]
  exact (hnext between place).of_muted_eq hanswer hafter

/-- Out of the reach of exports, a call that mirrors a direct one leaves the record of the
direct one, but for the last error. -/
theorem Mirrors.outskirts {body : Attempt α} (hbody : Mirrors crossing decode body)
    (context : Context) (place : kind.Result) :
    (body.run.run context).2.outskirts =
      ((crossing.invoke (some place)).run context).2.outskirts.cleared := by
  rw [← Context.outskirts_muted, (hbody context place).after, Context.outskirts_muted]
  rfl

/-- What a mirroring call ends in is read off what the attempt of the export ends in. -/
theorem Mirrors.result_eq {body : Attempt α} (hbody : Mirrors crossing decode body)
    (context : Context) :
    (body.run.run context).1 = (crossing.outcome true context).map decode := by
  obtain ⟨hreturned, hfailed, -⟩ := hbody context kind.blank
  cases houtcome : crossing.outcome true context with
  | ok result =>
      obtain ⟨hanswer, -⟩ := Crossing.invoke_of_ok (some kind.blank) houtcome
      rw [hanswer] at hreturned
      obtain ⟨found, hplace, hresult⟩ := hreturned rfl
      cases hplace
      exact hresult
  | error error =>
      obtain ⟨hanswer, hafter⟩ := Crossing.invoke_of_error (some kind.blank) houtcome
      have hlast : ((crossing.invoke (some kind.blank)).run context).2.thread.lastError =
          some error :=
        congrArg Context.lastError hafter
      rw [hanswer, hlast] at hfailed
      obtain ⟨found, hfound, -, hresult⟩ := hfailed error.status_ne_ok
      cases hfound
      exact hresult

theorem Mirrors.enters {body : Attempt α} (hbody : Mirrors crossing decode body) :
    Enters crossing.target body := by
  intro context
  have hentered := crossing.entered_invoke (some kind.blank) context
  have hafter : (body.run.run context).2.entries =
      ((crossing.invoke (some kind.blank)).run context).2.entries := by
    rw [← Context.entries_outskirts, hbody.outskirts context kind.blank]
    exact Context.entries_outskirts _
  exact .of_entries_eq rfl hentered hafter

end Attempt

open Attempt

namespace Managed

theorem mirrors_ask (crossing : Crossing kind) : Mirrors crossing id (ask crossing) := by
  intro context place
  have hkeeps := crossing.keeps_run (crossing.entered context)
  rw [run_ask, Crossing.run_invoke, Option.isSome_some, Crossing.attempt_true]
  rcases hrun : crossing.run.run.run (crossing.entered context) with ⟨error | result, after⟩
  · exact ⟨fun hok => absurd hok error.status_ne_ok, fun _ => ⟨error, rfl, rfl, rfl⟩, rfl⟩
  · have hnone : after.thread.lastError = none := by
      rw [hrun] at hkeeps
      exact congrArg Context.lastError hkeeps
    refine ⟨fun _ => ⟨result, rfl, rfl⟩, fun hne => absurd rfl hne, ?_⟩
    have hreturned : (crossing.returned after).thread.lastError = none := hnone
    rw [Context.cleared_eq_self hreturned]

/-- A call whose value is read off its result. -/
theorem mirrors_ask_bind (crossing : Crossing kind) {decode : kind.Result → α}
    {next : kind.Result → Attempt α} (hnext : ∀ result, Gives (decode result) (next result)) :
    Mirrors crossing decode (ask crossing >>= next) :=
  (mirrors_ask crossing).bind hnext

theorem gives_adoptText (buffer : Buffer NativeText) :
    Gives (.ofNative buffer.content) (liftM (adoptText buffer) : Attempt ManagedText) := by
  intro context
  cases buffer with
  | placeholder => exact ⟨rfl, Context.muted_emit rfl context⟩
  | made text => exact ⟨rfl, (Context.muted_emit rfl _).trans (Context.muted_emit rfl context)⟩

theorem gives_adoptSequence (buffer : Buffer (List Int32)) :
    Gives buffer.content (liftM (adoptSequence buffer) : Attempt (List Int32)) := by
  intro context
  cases buffer with
  | placeholder => exact ⟨rfl, rfl⟩
  | made items => exact ⟨rfl, Context.muted_emit rfl context⟩

end Managed

namespace Library

theorem mirrors_joinThrough (crossing : TextView → TextView → Crossing .text)
    (left right : NativeText) :
    Mirrors (crossing (.ofNative left) (.ofNative right)) (fun buffer => .ofNative buffer.content)
      (joinThrough crossing (.ofNative left) (.ofNative right)) :=
  .of_gives (Managed.gives_lend left) <| .of_gives (Managed.gives_lend right) <|
    Managed.mirrors_ask_bind _ Managed.gives_adoptText

theorem mirrors_getNumbers : Mirrors .getNumbers (fun buffer => buffer.content) getNumbers :=
  Managed.mirrors_ask_bind _ Managed.gives_adoptSequence

theorem mirrors_maybeMake (name : Option NativeText) :
    Mirrors (.maybeMake { isPresent := name.isSome, value := name.elim (.null 0) .ofNative })
      (fun made => ⟨made.toOption.map .adopt⟩) (maybeMake ⟨name.map .ofNative⟩) :=
  .of_gives (Managed.gives_lendName name) <| Managed.mirrors_ask_bind _ fun _ => gives_pure _

theorem mirrors_maybeAddOne (number : Option Int32) :
    Mirrors (.maybeAddOne (.ofOption number)) (fun answer => ⟨answer.toOption⟩)
      (maybeAddOne ⟨number⟩) :=
  Managed.mirrors_ask_bind _ fun _ => gives_pure _

end Library

end InteropBridge
