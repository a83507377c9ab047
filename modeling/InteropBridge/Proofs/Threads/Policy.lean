import InteropBridge.Proofs.Crossing.Policy
import InteropBridge.Proofs.Threads.LastError
import InteropBridge.Proofs.Threads.Limit

/-!
# Runs under either policy

Any run of any threads can be taken twice, once with repeated releases reported and once with
them ignored.  Settings that are put in force on the way leave the policy as it is, and no
operation asks for what shows it.  The two runs then agree at every point: they have the same
objects, counts and output, and their answers are the same.  They differ only where a handle
is freed that is gone, in the answer to that, and if the call was a direct one in the last
error of its thread, until the thread enters an export again.
-/

namespace InteropBridge

open Attempt Context

variable {α : Type}

/-! ## Operations under a policy -/

namespace Aside

/-- The same under a policy, which stays when settings are put in force. -/
def under : {α : Type} → Aside α → ReleasePolicy → Aside α
  | _, install installed, policy => install (installed.under policy)
  | _, start installed, policy => start (installed.under policy)
  | _, other, _ => other

/-- The policy is not set, and neither the settings nor the last error are asked for. -/
def IsBlind : {α : Type} → Aside α → Prop
  | _, lastErrorCode | _, lastErrorLength | _, lastErrorMessage .. | _, settings
  | _, startFrom .. => False
  | _, releaseText _ | _, releaseSequence _ | _, tally | _, install _ | _, live | _, shutdown
  | _, start _ | _, startLogging _ | _, cleanUp | _, writeLine _ | _, openCapture
  | _, closeCapture _ => True

theorem run_shutdown_under (context : Context) (policy : ReleasePolicy) :
    Objects.shutdown.run (context.under policy) =
      ((Objects.shutdown.run context).1, (Objects.shutdown.run context).2.under policy) := by
  rw [Objects.run_shutdown, Objects.run_shutdown]
  have hobjects : (context.under policy).process.objects = context.process.objects := rfl
  rw [hobjects]
  dsimp only
  split <;> rfl

theorem run_cleanUp_under (context : Context) (policy : ReleasePolicy) :
    Startup.cleanUp.run (context.under policy) =
      ((Startup.cleanUp.run context).1, (Startup.cleanUp.run context).2.under policy) := by
  have hletGo : ∀ context : Context, Startup.letGoOfWriter.run (context.under policy) =
      ((), (Startup.letGoOfWriter.run context).2.under policy) := by
    rintro ⟨⟨objects, counts, settings, journal, _ | _, stdout⟩, thread⟩ <;> rfl
  rw [Startup.cleanUp, Native.run_bind, Native.run_bind, run_shutdown_under]
  exact hletGo (Objects.shutdown.run context).2

/-- What is done aside from calls, blind to the policy, is the same under every policy. -/
theorem run_under {other : Aside α} (hblind : other.IsBlind) (context : Context)
    (policy : ReleasePolicy) :
    (other.under policy).run.run (context.under policy) =
      ((other.run.run context).1, (other.run.run context).2.under policy) := by
  cases other with
  | lastErrorCode | lastErrorLength | lastErrorMessage | settings | startFrom => cases hblind
  | tally | install | live | openCapture | closeCapture => rfl
  | start installed =>
      rw [under, run, run, Startup.run_start, Startup.run_start]
      rfl
  | startLogging plan =>
      change (Startup.startLogging plan).run (context.under policy) = _
      rw [run, Startup.run_startLogging, Startup.run_startLogging]
      rfl
  | releaseText buffer => cases buffer <;> rfl
  | releaseSequence buffer => cases buffer <;> rfl
  | shutdown => exact run_shutdown_under context policy
  | writeLine line => rcases context with ⟨process, lastError, _ | collected⟩ <;> rfl
  | cleanUp => exact run_cleanUp_under context policy

end Aside

namespace Operation

/-- The same under a policy, which stays when settings are put in force. -/
def under : {α : Type} → Operation α → ReleasePolicy → Operation α
  | _, aside other, policy => aside (other.under policy)
  | _, operation, _ => operation

/-- The policy is not set, and neither the settings nor the last error are asked for. -/
def IsBlind : {α : Type} → Operation α → Prop
  | _, takeLastError => False
  | _, aside other => other.IsBlind
  | _, cross .. | _, manage _ | _, drop _ => True

/-- The operation answers for a call that is to free a handle, not null, that refers to no
object. -/
def FreesGone (operation : Operation α) (objects : HandleTable Int32) (handle : Handle) : Prop :=
  ∃ made, operation.call? = some made ∧ made.FreesGone objects handle

@[simp]
theorem target?_under (operation : Operation α) (policy : ReleasePolicy) :
    (operation.under policy).target? = operation.target? := by
  cases operation <;> rfl

/-- An operation that leaves the last error alone enters no export. -/
theorem target?_of_mark {operation : Operation α} {context : Context}
    (hkept : operation.mark context = .kept) : operation.target? = none := by
  cases operation with
  | cross crossing place =>
      rw [mark] at hkept
      split at hkept <;> cases hkept
  | manage call =>
      cases hcall : call.crossing? with
      | none => rw [target?, hcall, Option.map_none]
      | some made =>
          rw [mark, hcall] at hkept
          cases hkept
  | drop proxy =>
      cases hproxy : proxy.isDisposed with
      | true => rw [target?, if_pos hproxy]
      | false =>
          rw [mark, hproxy] at hkept
          cases hkept
  | takeLastError => cases hkept
  | aside other => rfl

variable {operation : Operation α} {context : Context}

/-- Under two policies an operation leaves the same, but for records. -/
theorem alike_run_under (hblind : operation.IsBlind) (context : Context)
    (first second : ReleasePolicy) :
    Alike (((operation.under first).run.run (context.under first)).2.under second)
      ((operation.under second).run.run (context.under second)).2 := by
  cases operation with
  | cross crossing place => exact crossing.alike_invoke_under place context first second
  | manage call => exact call.alike_perform_under context first second
  | drop proxy =>
      calc
        ((proxy.drop.run (context.under first)).2.under second).bare =
            ((proxy.dispose.run.run (context.under first)).2.under second).bare :=
          (proxy.alike_drop (context.under first)).under second
        _ = (proxy.dispose.run.run (context.under second)).2.bare :=
          (ManagedCall.dispose proxy).alike_perform_under context first second
        _ = (proxy.drop.run (context.under second)).2.bare :=
          (proxy.alike_drop (context.under second)).symm
  | takeLastError => cases hblind
  | aside other =>
      have hother := Aside.run_under hblind context
      rw [under, under, run, run, hother, hother]
      rfl

/-- Unless it is to free a handle that is gone, it answers the same. -/
theorem answer_run_under (hblind : operation.IsBlind)
    (hkept : ∀ handle, ¬ operation.FreesGone context.process.objects handle)
    (first second : ReleasePolicy) :
    ((operation.under first).run.run (context.under first)).1 =
      ((operation.under second).run.run (context.under second)).1 := by
  cases operation with
  | cross crossing place =>
      have hanswer (policy : ReleasePolicy) :
          ((crossing.invoke place).run (context.under policy)).1 =
            ((crossing.invoke place).run context).1 := by
        rw [Crossing.invoke_under fun handle hfrees => hkept handle ⟨_, rfl, hfrees⟩]
      exact (hanswer first).trans (hanswer second).symm
  | manage call =>
      exact ManagedCall.perform_under
        (fun made hmade handle hfrees => hkept handle ⟨made, hmade, hfrees⟩) first second
  | drop proxy => rfl
  | takeLastError => cases hblind
  | aside other =>
      have hother := Aside.run_under hblind context
      rw [under, under, run, run, hother, hother]

/-- If it is, it fails where repeated releases are reported. -/
theorem error?_of_freesGone {handle : Handle}
    (hfrees : operation.FreesGone context.process.objects handle)
    (hpolicy : context.process.settings.handles.doubleRelease = .report) :
    operation.error? (operation.run.run context).1 (operation.run.run context).2 =
      some (.disposedHandle handle) := by
  obtain ⟨made, hcall, hmade⟩ := hfrees
  cases operation with
  | cross crossing place =>
      cases hcall
      cases hmade.call
      rw [run, error?_run_cross, Crossing.outcome_of_freesGone hmade, hpolicy]
      rfl
  | manage call =>
      have hresult := (ManagedCall.perform_of_freesGone hcall hmade).1 hpolicy
      rw [run, error?, hresult]
      rfl
  | drop | takeLastError | aside => cases hcall

/-- It does not where they are ignored. -/
theorem not_fails_of_freesGone {handle : Handle}
    (hfrees : operation.FreesGone context.process.objects handle)
    (hpolicy : context.process.settings.handles.doubleRelease = .ignore) :
    ¬ operation.Fails (operation.run.run context).1 := by
  obtain ⟨made, hcall, hmade⟩ := hfrees
  cases operation with
  | cross crossing place =>
      cases hcall
      cases hmade.call
      rw [fails_run_iff, run, error?_run_cross, Crossing.outcome_of_freesGone hmade, hpolicy]
      exact not_not.mpr rfl
  | manage call =>
      obtain ⟨value, hvalue⟩ := (ManagedCall.perform_of_freesGone hcall hmade).2 hpolicy
      rw [run, hvalue]
      exact not_false
  | drop | takeLastError | aside => cases hcall

end Operation

/-! ## Two contexts -/

/-- Two contexts agree but for the policy, which is to report in the first one, the log and
the last error. -/
structure Context.Apart (reporting ignoring : Context) : Prop where
  alike : Alike (reporting.under .ignore) ignoring
  calls : reporting.process.tally.callsMade = ignoring.process.tally.callsMade
  policy : reporting.process.settings.handles.doubleRelease = .report

namespace Context.Apart

variable {reporting ignoring : Context} (hapart : Apart reporting ignoring)

include hapart

theorem under_report : reporting.under .report = reporting := by
  have hpolicy := hapart.policy
  rcases reporting with ⟨⟨objects, tally, ⟨⟨limit, policy⟩, marshal, logging⟩, journal⟩, thread⟩
  cases hpolicy
  rfl

theorem objects : reporting.process.objects = ignoring.process.objects := by
  have hobjects := likeness_alike.objects hapart.alike
  exact hobjects

theorem settings : reporting.process.settings.under .ignore = ignoring.process.settings := by
  have hsettings := likeness_alike.settings hapart.alike
  exact hsettings

theorem policy_ignore : ignoring.process.settings.handles.doubleRelease = .ignore := by
  rw [← hapart.settings]
  rfl

theorem tally : reporting.process.tally = ignoring.process.tally :=
  Tally.eq_of_calls hapart.calls (congrArg (·.process.tally) hapart.alike)

theorem run {operation : Operation α} (hblind : operation.IsBlind) :
    Apart ((operation.under .report).run.run reporting).2
      ((operation.under .ignore).run.run ignoring).2 := by
  have hreport (second : ReleasePolicy) :
      Alike (((operation.under .report).run.run reporting).2.under second)
        ((operation.under second).run.run (reporting.under second)).2 := by
    have halike := Operation.alike_run_under hblind reporting .report second
    rw [hapart.under_report] at halike
    exact halike
  constructor
  case alike =>
    exact (hreport .ignore).trans ((operation.under .ignore).alike_run hapart.alike).2
  case calls =>
    have hcalls (context : Context) (policy : ReleasePolicy) :
        ((operation.under policy).run.run context).2.process.tally.callsMade =
          context.process.tally.callsMade + if operation.target?.isSome then 1 else 0 := by
      have haccounts := (operation.under policy).accounts_run context
      rw [Accounts.booked, operation.target?_under] at haccounts
      exact congrArg (·.entries.1) haccounts
    rw [hcalls, hcalls, hapart.calls]
  case policy =>
    have hsettings := likeness_alike.settings (hreport .report)
    rw [hapart.under_report] at hsettings
    rw [← hsettings]
    rfl

/-- An operation is answered the same, unless it is to free a handle that is gone. -/
theorem answer {operation : Operation α} (hblind : operation.IsBlind)
    (hkept : ∀ handle, ¬ operation.FreesGone reporting.process.objects handle) :
    ((operation.under .report).run.run reporting).1 =
      ((operation.under .ignore).run.run ignoring).1 := by
  have hpolicies := Operation.answer_run_under hblind hkept .report .ignore
  rw [hapart.under_report] at hpolicies
  have hanswer := ((operation.under .ignore).alike_run hapart.alike).1
  rw [← hpolicies] at hanswer
  cases operation with
  | cross | manage | drop => exact hanswer
  | takeLastError => cases hblind
  | aside other =>
      cases other with
      | lastErrorCode | lastErrorLength | lastErrorMessage | settings | startFrom => cases hblind
      | tally => exact hapart.tally
      | releaseText | releaseSequence | install | live | shutdown | start | startLogging
      | cleanUp | writeLine | openCapture | closeCapture => exact hanswer

/-- Only a direct call that is to free a handle that is gone does another thing to the last
error. -/
theorem mark (operation : Operation α) :
    (operation.under .report).mark reporting = (operation.under .ignore).mark ignoring ∨
      ∃ handle place, (⟨α, operation⟩ : (β : Type) × Operation β) =
          ⟨_, .cross (.free handle) place⟩ ∧
        operation.FreesGone reporting.process.objects handle ∧
        (operation.under .report).mark reporting = .recorded (.disposedHandle handle) ∧
        (operation.under .ignore).mark ignoring = .cleared := by
  cases operation with
  | manage | drop | takeLastError | aside => exact .inl rfl
  | @cross kind crossing place =>
      by_cases hgone : ∃ handle,
          AnyCrossing.FreesGone ⟨kind, crossing⟩ reporting.process.objects handle
      · obtain ⟨handle, hfrees⟩ := hgone
        cases hfrees.call
        have hignoring := hfrees
        rw [hapart.objects] at hignoring
        have hreported : (Operation.cross (.free handle) place).mark reporting =
            .recorded (.disposedHandle handle) := by
          rw [Operation.mark, Crossing.outcome_of_freesGone hfrees, hapart.policy]
        have hignored : (Operation.cross (.free handle) place).mark ignoring = .cleared := by
          rw [Operation.mark, Crossing.outcome_of_freesGone hignoring, hapart.policy_ignore]
        exact .inr ⟨handle, place, rfl, ⟨_, rfl, hfrees⟩, hreported, hignored⟩
      · left
        have houtcome : crossing.outcome place.isSome reporting =
            crossing.outcome place.isSome ignoring := by
          rw [Crossing.outcome_eq, Crossing.outcome_eq, ← hapart.objects, ← hapart.settings,
            Crossing.effectAt_under (not_exists.mp hgone)]
        change (Operation.cross crossing place).mark reporting =
          (Operation.cross crossing place).mark ignoring
        rw [Operation.mark, Operation.mark, houtcome]

end Context.Apart

/-! ## Two runs -/

def Move.under {Name : Type} (move : Move Name) (policy : ReleasePolicy) : Move Name where
  thread := move.thread
  operation := move.operation.under policy

namespace Machine

variable {Name : Type}

def under (machine : Machine Name) (policy : ReleasePolicy) : Machine Name :=
  { machine with process := machine.process.under policy }

/-- Two machines agree but for the policy, which is to report in the first one, the log and
the last errors. -/
structure Apart (reporting ignoring : Machine Name) : Prop where
  alike : (reporting.under .ignore).Alike ignoring
  calls : reporting.process.tally.callsMade = ignoring.process.tally.callsMade
  policy : reporting.process.settings.handles.doubleRelease = .report

theorem Apart.seenBy {reporting ignoring : Machine Name} (hapart : reporting.Apart ignoring)
    (name : Name) : Context.Apart (reporting.seenBy name) (ignoring.seenBy name) where
  alike := congrArg₂ Context.mk hapart.alike.process (hapart.alike.threads name)
  calls := hapart.calls
  policy := hapart.policy

variable [DecidableEq Name]

theorem Apart.step {reporting ignoring : Machine Name} (hapart : reporting.Apart ignoring)
    {move : Move Name} (hblind : move.operation.IsBlind) :
    (reporting.step (move.under .report)).Apart (ignoring.step (move.under .ignore)) := by
  have hrun := (hapart.seenBy move.thread).run hblind
  refine ⟨⟨congrArg Context.process hrun.alike, fun other => ?_⟩, hrun.calls, hrun.policy⟩
  by_cases hother : other = move.thread
  · subst hother
    have hthread := congrArg Context.thread hrun.alike
    rw [← seenBy_perform, ← seenBy_perform] at hthread
    exact hthread
  · have hreporting := reporting.threads_perform_of_ne hother (move.operation.under .report)
    have hignoring := ignoring.threads_perform_of_ne hother (move.operation.under .ignore)
    exact (congrArg Thread.bare hreporting).trans
      ((hapart.alike.threads other).trans (congrArg Thread.bare hignoring).symm)

/-- The machine after some turns that are all taken under one policy. -/
def running (machine : Machine Name) (policy : ReleasePolicy) (moves : List (Move Name)) :
    Machine Name :=
  (machine.under policy).after (moves.map (·.under policy))

theorem running_append (machine : Machine Name) (policy : ReleasePolicy)
    (moves : List (Move Name)) (move : Move Name) :
    machine.running policy (moves ++ [move]) =
      (machine.running policy moves).step (move.under policy) := by
  rw [running, List.map_append, after_append]
  rfl

theorem apart_running (machine : Machine Name) {moves : List (Move Name)}
    (hblind : ∀ move ∈ moves, move.operation.IsBlind) :
    (machine.running .report moves).Apart (machine.running .ignore moves) := by
  induction moves using List.reverseRecOn with
  | nil => exact ⟨.refl _, rfl, rfl⟩
  | append_singleton moves move ih =>
      rw [running_append, running_append]
      have hbefore := ih fun earlier hearlier => hblind earlier (List.mem_append_left _ hearlier)
      exact hbefore.step (hblind move (List.mem_concat_self ..))

/-- The thread has freed a handle in a direct call that was gone by then, and has entered no
export since. -/
def LastFreedGone (machine : Machine Name) (moves : List (Move Name)) (name : Name)
    (handle : Handle) : Prop :=
  ∃ before place between, moves = before ++ ⟨name, .cross (.free handle) place⟩ :: between ∧
    handle ≠ .null ∧
    (machine.running .report before).process.objects.contains handle = false ∧
    ∀ move ∈ between, move.thread = name → move.operation.target? = none

theorem LastFreedGone.append {machine : Machine Name}
    {moves : List (Move Name)} {name : Name} {handle : Handle}
    (hfreed : machine.LastFreedGone moves name handle) {move : Move Name}
    (hmove : move.thread = name → move.operation.target? = none) :
    machine.LastFreedGone (moves ++ [move]) name handle := by
  obtain ⟨before, place, between, rfl, hhandle, hgone, hbetween⟩ := hfreed
  refine ⟨before, place, between ++ [move], by simp, hhandle, hgone, ?_⟩
  intro later hlater
  obtain hlater | hlater := List.mem_append.mp hlater
  · exact hbetween later hlater
  · rw [List.mem_singleton.mp hlater]
    exact hmove

/-- The last errors of a thread in the two runs are the same, or the thread has freed a handle
that was gone, which one of the runs still tells. -/
theorem lastError_running (machine : Machine Name) {moves : List (Move Name)}
    (hblind : ∀ move ∈ moves, move.operation.IsBlind) (name : Name) :
    ((machine.running .report moves).threads name).lastError =
        ((machine.running .ignore moves).threads name).lastError ∨
      ∃ handle, machine.LastFreedGone moves name handle ∧
        ((machine.running .report moves).threads name).lastError =
          some (.disposedHandle handle) ∧
        ((machine.running .ignore moves).threads name).lastError = none := by
  induction moves using List.reverseRecOn with
  | nil => exact .inl rfl
  | append_singleton moves move ih =>
      have hearlier : ∀ earlier ∈ moves, earlier.operation.IsBlind :=
        fun earlier hearlier => hblind earlier (List.mem_append_left _ hearlier)
      have hbefore := ih hearlier
      rw [running_append, running_append]
      by_cases hown : move.thread = name
      · obtain ⟨thread, operation⟩ := move
        obtain rfl : thread = name := hown
        have hreporting := (machine.running .report moves).lastError_perform thread
          (operation.under .report)
        have hignoring := (machine.running .ignore moves).lastError_perform thread
          (operation.under .ignore)
        obtain hsame | ⟨handle, place, hmove, ⟨made, -, hfrees⟩, hreported, hignored⟩ :=
          ((machine.apart_running hearlier).seenBy thread).mark operation
        · rw [hsame] at hreporting
          cases hmark : (operation.under .ignore).mark
              ((machine.running .ignore moves).seenBy thread) with
          | cleared =>
              rw [hmark] at hreporting hignoring
              exact .inl (hreporting.trans hignoring.symm)
          | recorded error =>
              rw [hmark] at hreporting hignoring
              exact .inl (hreporting.trans hignoring.symm)
          | kept =>
              rw [hmark] at hreporting hignoring
              have htarget := Operation.target?_of_mark hmark
              rw [Operation.target?_under] at htarget
              obtain hequal | ⟨handle, hfreed, hreported, hignored⟩ := hbefore
              · exact .inl (hreporting.trans (hequal.trans hignoring.symm))
              · exact .inr ⟨handle, hfreed.append fun _ => htarget, hreporting.trans hreported,
                  hignoring.trans hignored⟩
        · cases hmove
          rw [hreported] at hreporting
          rw [hignored] at hignoring
          have hfreed : machine.LastFreedGone
              (moves ++ [⟨thread, .cross (.free handle) place⟩]) thread handle :=
            ⟨moves, place, [], rfl, hfrees.nonNull, hfrees.gone, by simp⟩
          exact .inr ⟨handle, hfreed, hreporting, hignoring⟩
      · have hreporting := (machine.running .report moves).threads_perform_of_ne
          (Ne.symm hown) (move.operation.under .report)
        have hignoring := (machine.running .ignore moves).threads_perform_of_ne
          (Ne.symm hown) (move.operation.under .ignore)
        rw [step, step, Move.under, Move.under, hreporting, hignoring]
        obtain hequal | ⟨handle, hfreed, hslots⟩ := hbefore
        · exact .inl hequal
        · exact .inr ⟨handle, hfreed.append fun hthread => absurd hthread hown, hslots⟩

/-- What two runs of the same turns have in common, of which one is under the policy to report
repeated releases and the other under the policy to ignore them. -/
structure AgreeButReport (machine : Machine Name) (moves : List (Move Name)) : Prop where
  objects : (machine.running .report moves).process.objects =
    (machine.running .ignore moves).process.objects
  tally : (machine.running .report moves).process.tally =
    (machine.running .ignore moves).process.tally
  stdout : (machine.running .report moves).process.stdout =
    (machine.running .ignore moves).process.stdout
  captures : ∀ name, ((machine.running .report moves).threads name).capture =
    ((machine.running .ignore moves).threads name).capture
  /-- The settings are the same but for the policy, which is still the one at the start. -/
  settings : (machine.running .report moves).process.settings.under .ignore =
      (machine.running .ignore moves).process.settings ∧
    (machine.running .report moves).process.settings.handles.doubleRelease = .report
  /-- The last errors of a thread are the same, unless the last export that it entered was to
  free a handle that was gone. -/
  lastErrors : ∀ name,
    ((machine.running .report moves).threads name).lastError =
        ((machine.running .ignore moves).threads name).lastError ∨
      ∃ handle, machine.LastFreedGone moves name handle ∧
        ((machine.running .report moves).threads name).lastError =
          some (.disposedHandle handle) ∧
        ((machine.running .ignore moves).threads name).lastError = none
  /-- Whatever is done next has the same answer, unless it is to free a handle that is gone. -/
  answers : ∀ {α : Type} (name : Name) (operation : Operation α), operation.IsBlind →
    (∀ handle, ¬ operation.FreesGone (machine.running .report moves).process.objects handle) →
    ((machine.running .report moves).perform name (operation.under .report)).1 =
      ((machine.running .ignore moves).perform name (operation.under .ignore)).1
  /-- If it is, it fails with the handle in the one run and succeeds in the other. -/
  belated : ∀ {α : Type} (name : Name) (operation : Operation α) (handle : Handle),
    operation.FreesGone (machine.running .report moves).process.objects handle →
    let reported := (machine.running .report moves).perform name operation
    let ignored := (machine.running .ignore moves).perform name operation
    operation.error? reported.1 (reported.2.seenBy name) = some (.disposedHandle handle) ∧
      ¬ operation.Fails ignored.1

/-- From any state on, the policy for repeated releases changes nothing but whether such a
release is reported. -/
theorem policy_changes_report_only (machine : Machine Name) (moves : List (Move Name))
    (hblind : ∀ move ∈ moves, move.operation.IsBlind) : machine.AgreeButReport moves := by
  have hapart := machine.apart_running hblind
  constructor
  case objects => exact congrArg (·.objects) hapart.alike.process
  case tally => exact Tally.eq_of_calls hapart.calls (congrArg (·.tally) hapart.alike.process)
  case stdout => exact congrArg (·.stdout) hapart.alike.process
  case captures => exact fun name => congrArg (·.capture) (hapart.alike.threads name)
  case settings => exact ⟨congrArg (·.settings) hapart.alike.process, hapart.policy⟩
  case lastErrors => exact machine.lastError_running hblind
  case answers =>
    intro α name operation hoperation hkept
    exact (hapart.seenBy name).answer hoperation hkept
  case belated =>
    intro α name operation handle hfrees reported ignored
    have hseen := hapart.seenBy name
    have hignored : operation.FreesGone
        ((machine.running .ignore moves).seenBy name).process.objects handle := by
      rw [← hseen.objects]
      exact hfrees
    constructor
    · rw [seenBy_perform]
      exact Operation.error?_of_freesGone hfrees hapart.policy
    · exact Operation.not_fails_of_freesGone hignored hseen.policy_ignore

/-- One thread frees a handle that another one has freed before.  Only the last error tells the
runs apart, and then what a proxy for the handle is answered when it is disposed of. -/
theorem policy_changes_report_only_freed_twice :
    let moves : List (Move Bool) := [⟨true, .cross .make (some .null)⟩,
      ⟨false, .cross (.free ⟨1⟩) none⟩, ⟨true, .cross (.free ⟨1⟩) none⟩,
      ⟨false, .aside (.install { handles := { maxLive := 5 } })⟩]
    let reporting := ({} : Machine Bool).running .report moves
    let ignoring := ({} : Machine Bool).running .ignore moves
    (∀ move ∈ moves, move.operation.IsBlind) ∧
      reporting.process.tally = ignoring.process.tally ∧
      (reporting.threads true).lastError = some (.disposedHandle ⟨1⟩) ∧
      (ignoring.threads true).lastError = none ∧
      (reporting.perform true (.manage (.dispose (.adopt ⟨1⟩)))).1 = .error (.disposedHandle ⟨1⟩) ∧
      (ignoring.perform true (.manage (.dispose (.adopt ⟨1⟩)))).1 = .ok () := by
  intro moves reporting ignoring
  have hblind : ∀ move ∈ moves, move.operation.IsBlind := by
    simp [moves, Operation.IsBlind, Aside.IsBlind]
  have hagree := policy_changes_report_only {} moves hblind
  have hfrees : (Operation.manage (.dispose (.adopt ⟨1⟩))).FreesGone
      reporting.process.objects ⟨1⟩ := ⟨_, rfl, ⟨rfl, by decide, by decide⟩⟩
  obtain ⟨hreported, hignored⟩ := hagree.belated true _ ⟨1⟩ hfrees
  refine ⟨hblind, hagree.tally, by decide, by decide, ?_, ?_⟩
  · rcases hresult : (reporting.perform true (.manage (.dispose (.adopt ⟨1⟩)))).1 with error | _
    all_goals
      rw [hresult] at hreported
      cases hreported
    rfl
  · rcases hresult : (ignoring.perform true (.manage (.dispose (.adopt ⟨1⟩)))).1 with error | _
    · rw [hresult] at hignored
      exact absurd trivial hignored
    · rfl

end Machine

end InteropBridge
