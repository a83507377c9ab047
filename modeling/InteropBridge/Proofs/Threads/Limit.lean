import InteropBridge.Proofs.Threads.Allocation
import InteropBridge.Proofs.Threads.Bare

/-!
# The limit on live objects

The limit can be changed at any time, also to less than there are objects.  It never ends an
object, so the number of objects may well exceed it.  All it does is to decide whether one
more can be made.  An operation that is refused by it leaves nothing behind but records: no
number is used up, no room is taken, and whatever is asked later has the same answer as if
the operation had not been tried.
-/

namespace InteropBridge

open Attempt Context

variable {α : Type} {kind : ResultKind}

/-! ## One operation -/

namespace Crossing

variable {crossing : Crossing kind} {context : Context}

/-- A direct call that is refused for want of room leaves nothing but records. -/
theorem alike_invoke_of_no_room (hallocates : crossing.Allocates context.process)
    (hfull : ¬ context.process.objects.live < context.process.settings.handles.maxLive)
    {place : Option kind.Result} (hplace : crossing.HasPlace place) :
    Alike ((crossing.invoke place).run context).2 context := by
  have heffect : crossing.effectAt place.isSome (crossing.entered context).process.objects
      (crossing.entered context).process.settings = _ :=
    (effectAt_of_hasPlace hplace _ _).trans (effect_of_no_room hallocates hfull)
  rw [run_invoke, run_attempt, heffect]
  simp [Alike, bare, Process.bare, Thread.bare, Effect.on, refused, entered,
    BridgeError.isMarshal, BridgeError.cause?]

end Crossing

namespace Operation

variable {operation : Operation α} {context : Context}

/-- An operation that meets the limit is one that was to make an object. -/
theorem allocates_of_error? {made : AnyCrossing} {what reason : String}
    (hcall : operation.call? = some made)
    (herror : operation.error? (operation.run.run context).1 (operation.run.run context).2 =
      some (.allocation what reason)) : made.2.Allocates context.process := by
  by_cases hplace : operation.HasPlace
  · rw [error?_run hcall hplace, errorIn?_eq_some_iff] at herror
    exact Crossing.allocates_of_effect herror
  · cases operation with
    | cross crossing place =>
        obtain ⟨name, hnull⟩ := Crossing.effectAt_of_not_hasPlace hplace
          context.process.objects context.process.settings
        rw [run, error?_run_cross, Crossing.outcome_eq, hnull] at herror
        cases herror
    | manage call | drop proxy | takeLastError | aside other => exact absurd trivial hplace

variable (hallocates : operation.Allocates context.process)

include hallocates

/-- Where there is room, the operation succeeds and there is one more object. -/
theorem run_of_room
    (hroom : context.process.objects.live < context.process.settings.handles.maxLive) :
    ¬ operation.Fails (operation.run.run context).1 ∧
      (operation.run.run context).2.process.objects.live = context.process.objects.live + 1 := by
  obtain ⟨hplace, made, hcall, hmade⟩ := hallocates
  obtain ⟨result, object, hresult, hobjects⟩ := Crossing.effect_of_room hmade hroom
  constructor
  · rw [fails_run_iff, error?_run hcall hplace, hresult]
    simp [errorIn?]
  · rw [objects_run hcall hplace, hobjects, HandleTable.live_issued]

/-- Where there is none, it fails with the error that tells so, and the objects stay as they
are. -/
theorem run_of_no_room
    (hfull : ¬ context.process.objects.live < context.process.settings.handles.maxLive) :
    operation.error? (operation.run.run context).1 (operation.run.run context).2 =
        some (.allocation context.process.objects.kind
          (HandleTable.refusal context.process.objects.live
            context.process.settings.handles.maxLive)) ∧
      Alike (operation.run.run context).2 context := by
  obtain ⟨hplace, made, hcall, hmade⟩ := hallocates
  have heffect := Crossing.effect_of_no_room hmade hfull
  constructor
  · rw [error?_run hcall hplace, heffect]
    rfl
  · cases operation with
    | cross crossing place =>
        cases hcall
        exact Crossing.alike_invoke_of_no_room hmade hfull hplace
    | manage call =>
        exact (ManagedCall.alike_perform hcall context).trans
          (Crossing.alike_invoke_of_no_room hmade hfull fun _ => rfl)
    | drop proxy | takeLastError | aside other => cases hcall

theorem fails_iff_no_room :
    operation.Fails (operation.run.run context).1 ↔
      ¬ context.process.objects.live < context.process.settings.handles.maxLive := by
  constructor
  · intro hfails hroom
    exact (run_of_room hallocates hroom).1 hfails
  · intro hfull
    obtain ⟨herror, -⟩ := run_of_no_room hallocates hfull
    rw [fails_run_iff, herror]
    exact Option.some_ne_none _

end Operation

/-! ## Runs -/

namespace Machine

variable {Name : Type} [DecidableEq Name]

/-- Two machines agree but for their records. -/
structure Alike (left right : Machine Name) : Prop where
  process : left.process.bare = right.process.bare
  threads : ∀ name, (left.threads name).bare = (right.threads name).bare

omit [DecidableEq Name] in
theorem Alike.refl (machine : Machine Name) : machine.Alike machine :=
  ⟨rfl, fun _ => rfl⟩

omit [DecidableEq Name] in
theorem Alike.trans {first second third : Machine Name} (hfirst : first.Alike second)
    (hsecond : second.Alike third) : first.Alike third :=
  ⟨hfirst.process.trans hsecond.process,
    fun name => (hfirst.threads name).trans (hsecond.threads name)⟩

/-- Machines that agree but for their records answer alike and stay so. -/
theorem Alike.perform {left right : Machine Name} (halike : left.Alike right) (name : Name)
    (operation : Operation α) :
    operation.masked (left.perform name operation).1 =
        operation.masked (right.perform name operation).1 ∧
      (left.perform name operation).2.Alike (right.perform name operation).2 := by
  have hseen : Context.Alike (left.seenBy name) (right.seenBy name) :=
    congrArg₂ Context.mk halike.process (halike.threads name)
  obtain ⟨hanswer, hafter⟩ := operation.alike_run hseen
  refine ⟨hanswer, congrArg Context.process hafter, fun other => ?_⟩
  by_cases hother : other = name
  · subst hother
    have hthread := congrArg Context.thread hafter
    rw [← seenBy_perform, ← seenBy_perform] at hthread
    exact hthread
  · rw [threads_perform_of_ne _ hother, threads_perform_of_ne _ hother]
    exact halike.threads other

/-- The turn is one of an operation that is to make an object and finds no room for it. -/
def Refuses (machine : Machine Name) (move : Move Name) : Prop :=
  move.operation.Allocates machine.process ∧
    ¬ machine.process.objects.live < machine.process.settings.handles.maxLive

theorem alike_step_of_refuses {machine : Machine Name} {move : Move Name}
    (hrefuses : machine.Refuses move) : (machine.step move).Alike machine := by
  obtain ⟨hallocates, hfull⟩ := hrefuses
  have hseen : move.operation.Allocates (machine.seenBy move.thread).process := hallocates
  obtain ⟨-, hafter⟩ := Operation.run_of_no_room hseen hfull
  refine ⟨congrArg Context.process hafter, fun other => ?_⟩
  by_cases hother : other = move.thread
  · subst hother
    have hthread := congrArg Context.thread hafter
    rw [← seenBy_perform] at hthread
    exact hthread
  · rw [step, threads_perform_of_ne _ hother]

/-- The second run is the first with some of the refused turns left out. -/
inductive LeavesOut : Machine Name → List (Move Name) → List (Move Name) → Prop
  | nil (machine : Machine Name) : LeavesOut machine [] []
  | kept {machine : Machine Name} (move : Move Name) {rest fewer : List (Move Name)}
      (hrest : LeavesOut (machine.step move) rest fewer) :
      LeavesOut machine (move :: rest) (move :: fewer)
  | refused {machine : Machine Name} {move : Move Name} {rest fewer : List (Move Name)}
      (hrefused : machine.Refuses move) (hrest : LeavesOut (machine.step move) rest fewer) :
      LeavesOut machine (move :: rest) fewer

/-- Leaving out refused turns leaves the machine as it would have been, but for records. -/
theorem LeavesOut.alike {machine : Machine Name} {moves fewer : List (Move Name)}
    (hfewer : machine.LeavesOut moves fewer) {other : Machine Name}
    (halike : machine.Alike other) : (machine.after moves).Alike (other.after fewer) := by
  induction hfewer generalizing other with
  | nil => exact halike
  | kept move _ ih => exact ih (halike.perform move.thread move.operation).2
  | refused hrefused _ ih => exact ih ((alike_step_of_refuses hrefused).trans halike)

/-- What the limit decides in a machine, and what it leaves alone. -/
structure HeedsLimit (machine : Machine Name) : Prop where
  /-- An operation that is to make an object succeeds exactly if there is room, and then the
  limit is kept. -/
  decides : ∀ {α : Type} (name : Name) (operation : Operation α),
    operation.Allocates machine.process →
    let performed := machine.perform name operation
    let live := machine.process.objects.live
    let limit := machine.process.settings.handles.maxLive
    (¬ operation.Fails performed.1 ↔ live < limit) ∧
    (¬ operation.Fails performed.1 → performed.2.process.objects.live = live + 1 ∧
      performed.2.process.objects.live ≤ limit)
  /-- One that fails tells how many objects there are and what the limit is, which is not
  more than that. -/
  tells : ∀ {α : Type} (name : Name) (operation : Operation α),
    operation.Allocates machine.process →
    let performed := machine.perform name operation
    let live := machine.process.objects.live
    let limit := machine.process.settings.handles.maxLive
    operation.Fails performed.1 → limit ≤ live ∧
      operation.error? performed.1 (performed.2.seenBy name) =
        some (.allocation className (HandleTable.refusal live limit))
  /-- However the machine runs on, whether or not some refused operations are tried makes no
  difference to the answer of any operation later, but for records. -/
  forgets : ∀ moves fewer, machine.LeavesOut moves fewer →
    ∀ {α : Type} (name : Name) (operation : Operation α),
      operation.masked ((machine.after moves).perform name operation).1 =
        operation.masked ((machine.after fewer).perform name operation).1
  /-- Whatever is done aside from calls leaves the objects as they are, unless it ends them
  all.  In particular other settings do. -/
  keeps : ∀ {α : Type} (name : Name) (other : Aside α), .shutDown ∉ other.told →
    (machine.perform name (.aside other)).2.process.objects = machine.process.objects
  /-- Passing an object by value never fails for want of room. -/
  sparesCopies : ∀ {α : Type} (name : Name) (operation : Operation α) (handle : Handle)
    (what reason : String), operation.call? = some ⟨_, .printCopy handle⟩ →
    let performed := machine.perform name operation
    operation.error? performed.1 (performed.2.seenBy name) ≠ some (.allocation what reason)
  /-- Neither does asking for an object without giving a name, which in fact never fails. -/
  sparesNameless : ∀ {α : Type} (name : Name) (operation : Operation α) (view : TextView),
    operation.call? = some ⟨_, .maybeMake ⟨false, view⟩⟩ → operation.HasPlace →
    ¬ operation.Fails (machine.perform name operation).1

theorem kind_after (moves : List (Move Name)) :
    (({} : Machine Name).after moves).process.objects.kind = className :=
  (({} : Machine Name).turns_after moves).kind_eq

/-- At every point of a run of any threads the limit of the moment decides what can be made,
and nothing else. -/
theorem limit_governs (moves : List (Move Name)) :
    (({} : Machine Name).after moves).HeedsLimit := by
  have hkind := kind_after moves
  generalize ({} : Machine Name).after moves = machine at hkind ⊢
  constructor
  case decides =>
    intro α name operation hallocates performed live limit
    have hseen : operation.Allocates (machine.seenBy name).process := hallocates
    have hroom : ¬ operation.Fails performed.1 ↔ live < limit :=
      (not_congr (Operation.fails_iff_no_room hseen)).trans not_not
    refine ⟨hroom, fun hsucceeds => ?_⟩
    obtain ⟨-, hlive⟩ := Operation.run_of_room hseen (hroom.mp hsucceeds)
    exact ⟨hlive, Nat.le_trans (Nat.le_of_eq hlive) (hroom.mp hsucceeds)⟩
  case tells =>
    intro α name operation hallocates performed live limit hfails
    have hseen : operation.Allocates (machine.seenBy name).process := hallocates
    have hfull := (Operation.fails_iff_no_room hseen).mp hfails
    obtain ⟨herror, -⟩ := Operation.run_of_no_room hseen hfull
    refine ⟨Nat.le_of_not_lt hfull, ?_⟩
    rw [seenBy_perform, ← hkind]
    exact herror
  case forgets =>
    intro moves fewer hfewer α name operation
    exact ((hfewer.alike (.refl machine)).perform name operation).1
  case keeps =>
    intro α name other hshut
    have hnone : other.told = [] := by
      apply other.told_eq.resolve_right
      intro htold
      rw [htold] at hshut
      exact hshut (List.mem_singleton_self _)
    have hturns := other.records_run (machine.seenBy name)
    rw [hnone] at hturns
    exact congrArg Ledger.objects hturns.eq_of_nil
  case sparesCopies =>
    intro α name operation handle what reason hcall performed herror
    rw [seenBy_perform] at herror
    exact Operation.allocates_of_error? hcall herror
  case sparesNameless =>
    intro α name operation view hcall hplace hfailed
    have hfailed := (Operation.fails_run_iff operation (machine.seenBy name)).mp hfailed
    rw [Operation.error?_run hcall hplace] at hfailed
    exact hfailed rfl

/-- With the limit lowered below the number of objects no more are made, and those that are
there stay. -/
example :
    let machine := ({} : Machine Unit).after
      [⟨(), .cross .make (some .null)⟩, ⟨(), .cross .make (some .null)⟩,
        ⟨(), .aside (.install { handles := { maxLive := 1 } })⟩]
    (machine.perform () (.cross .make (some .null))).1 = (.allocationFailed, some .null) ∧
      (machine.perform () (.cross (.get ⟨2⟩) (some 7))).1 = (.ok, some 0) := by
  decide

end Machine

end InteropBridge
