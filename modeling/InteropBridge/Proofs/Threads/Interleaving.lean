import InteropBridge.Proofs.Crossing.Adding
import InteropBridge.Proofs.Host.History
import InteropBridge.Proofs.Threads.Allocation
import InteropBridge.Proofs.Threads.LastError
import Mathlib.Algebra.Ring.Int.Defs
import Mathlib.Data.Finset.Card

/-!
# Additions in any order

Threads that add to objects can take their turns in any order.  Each addition does the same
to the objects wherever it comes in the order, and it fails for reasons that no addition
changes.  So the objects, the counts and the failures come out the same for every order, and
each thread has to itself what it would have if it were alone.
-/

namespace InteropBridge

open Context

/-- An operation that answers for a call that adds to an object, whichever way it takes. -/
structure Addition where
  {Answer : Type}
  operation : Operation Answer
  handle : Handle
  amount : Int32
  adds : ∃ made, operation.call? = some made ∧ made.Adds handle amount

namespace Operation

instance decidableFails {α : Type} (operation : Operation α) (answer : α) :
    Decidable (operation.Fails answer) :=
  match α, operation, answer with
  | _, cross _ _, (status, _) => inferInstanceAs (Decidable (status ≠ .ok))
  | _, manage _, .error _ => isTrue trivial
  | _, manage _, .ok _ | _, drop _, _ | _, takeLastError, _ | _, aside _, _ => isFalse not_false

end Operation

namespace Addition

/-- A direct call that increments an object. -/
def increment (handle : Handle) : Addition where
  operation := .cross (.increment handle) none
  handle := handle
  amount := 1
  adds := ⟨_, rfl, .increment handle⟩

/-! ## One addition -/

variable (addition : Addition)

theorem hasPlace : addition.operation.HasPlace := by
  obtain ⟨operation, handle, amount, made, hcall, hadds⟩ := addition
  cases operation with
  | cross crossing place =>
      cases hcall
      exact hadds.hasPlace place
  | manage call => trivial
  | drop | takeLastError | aside => cases hcall

variable (context : Context)

/-- But for records, it adds to the object and does nothing else. -/
theorem alike_run :
    Alike (addition.operation.run.run context).2
      (context.added addition.handle addition.amount) := by
  obtain ⟨operation, handle, amount, made, hcall, hadds⟩ := addition
  cases operation with
  | cross crossing place =>
      cases hcall
      exact hadds.alike_invoke place context
  | manage call =>
      exact (ManagedCall.alike_perform hcall context).trans (hadds.alike_invoke _ context)
  | drop | takeLastError | aside => cases hcall

theorem callsMade_run :
    (addition.operation.run.run context).2.process.tally.callsMade =
      context.process.tally.callsMade + 1 := by
  have htarget : addition.operation.target?.isSome = true := by
    obtain ⟨operation, handle, amount, made, hcall, hadds⟩ := addition
    cases operation with
    | cross crossing place => rfl
    | manage call =>
        change call.crossing? = some made at hcall
        rw [Operation.target?, hcall]
        rfl
    | drop | takeLastError | aside => cases hcall
  have haccounts := addition.operation.accounts_run context
  rw [Accounts.booked, if_pos htarget] at haccounts
  exact congrArg (·.entries.1) haccounts

/-- It fails exactly if it is aimed at a handle that is not live. -/
theorem fails_run_iff :
    addition.operation.Fails (addition.operation.run.run context).1 ↔
      context.process.objects.contains addition.handle = false := by
  obtain ⟨made, hcall, hadds⟩ := addition.adds
  rw [Operation.fails_run_iff, Operation.error?_run hcall addition.hasPlace,
    hadds.errorIn?_effect]
  cases hfind : context.process.objects.find addition.handle with
  | ok object => simp [errorIn?, HandleTable.contains_iff_find.mpr ⟨object, hfind⟩]
  | error error => simp [errorIn?, HandleTable.contains_of_find_error hfind]

/-- What it does to the last error depends on nothing but how its handle is found. -/
theorem mark_congr (left right : Context)
    (hfind : errorIn? (left.process.objects.find addition.handle) =
      errorIn? (right.process.objects.find addition.handle)) :
    addition.operation.mark left = addition.operation.mark right := by
  have hplace := addition.hasPlace
  obtain ⟨operation, handle, amount, made, hcall, hadds⟩ := addition
  cases operation with
  | cross crossing place =>
      cases hcall
      have hmark : ∀ context, (Operation.cross crossing place).mark context =
          (errorIn? (context.process.objects.find handle)).elim .cleared .recorded := by
        intro context
        rw [Operation.mark, Crossing.outcome_eq, Crossing.effectAt_of_hasPlace hplace,
          ← hadds.errorIn?_effect _ context.process.settings]
        cases (crossing.effect context.process.objects context.process.settings).1 <;> rfl
      rw [hmark, hmark, hfind]
  | manage call => rfl
  | drop | takeLastError | aside => cases hcall

theorem thread_run :
    (addition.operation.run.run context).2.thread =
      { lastError := (addition.operation.mark context).next context.thread.lastError
        capture := context.thread.capture } := by
  have hlast := addition.operation.lastError_run context
  have hcapture : (addition.operation.run.run context).2.thread.capture =
      context.thread.capture := congrArg (·.thread.capture) (addition.alike_run context)
  exact congrArg₂ Thread.mk hlast hcapture

/-! ## Many additions -/

/-- The objects with all amounts added. -/
def addAll (objects : HandleTable Int32) (additions : List Addition) : HandleTable Int32 :=
  additions.foldl (fun objects addition => Objects.added objects addition.handle addition.amount)
    objects

/-- What all additions to the object of a handle come to. -/
def totalTo (handle : Handle) (additions : List Addition) : Int :=
  ((additions.filter (·.handle = handle)).map (·.amount.toInt)).sum

@[simp]
theorem contains_addAll (objects : HandleTable Int32) (additions : List Addition)
    (handle : Handle) : (addAll objects additions).contains handle = objects.contains handle := by
  induction additions generalizing objects with
  | nil => rfl
  | cons first rest ih => exact (ih _).trans (Objects.contains_added ..)

/-- A live object ends as what it was with everything added, wrapped around. -/
theorem find_addAll {objects : HandleTable Int32} {handle : Handle} {value : Int32}
    (hfind : objects.find handle = .ok value) (additions : List Addition) :
    (addAll objects additions).find handle =
      .ok (.ofInt (value.toInt + totalTo handle additions)) := by
  induction additions generalizing objects value with
  | nil => simp [addAll, totalTo, hfind]
  | cons first rest ih =>
      have hadded := Objects.find_added objects first.handle handle first.amount
      by_cases hfirst : first.handle = handle
      · rw [if_pos hfirst.symm, hfind] at hadded
        have htotal : totalTo handle (first :: rest) =
            first.amount.toInt + totalTo handle rest := by
          simp [totalTo, hfirst]
        have hwrapped : Int32.ofInt ((value + first.amount).toInt + totalTo handle rest) =
            .ofInt (value.toInt + totalTo handle (first :: rest)) := by
          rw [htotal, Int32.ofInt_add, Int32.ofInt_toInt, ← Int.add_assoc, Int32.ofInt_add,
            Int32.ofInt_add, Int32.ofInt_toInt, Int32.ofInt_toInt]
        exact (ih hadded).trans (congrArg Except.ok hwrapped)
      · rw [if_neg (Ne.symm hfirst), hfind] at hadded
        have htotal : totalTo handle (first :: rest) = totalTo handle rest := by
          simp [totalTo, hfirst]
        rw [htotal]
        exact ih hadded

/-- Increments come to their number. -/
theorem totalTo_replicate (handle : Handle) (count : Nat) :
    totalTo handle (List.replicate count (increment handle)) = count := by
  have hone : (increment handle).amount.toInt = 1 := rfl
  rw [totalTo, List.filter_replicate_of_pos (by simp [increment]), List.map_replicate, hone]
  simp

theorem addAll_of_gone {objects : HandleTable Int32} {additions : List Addition}
    (hgone : ∀ addition ∈ additions, objects.contains addition.handle = false) :
    addAll objects additions = objects := by
  induction additions with
  | nil => rfl
  | cons first rest ih =>
      have hfirst : Objects.added objects first.handle first.amount = objects := by
        rw [Objects.added, hgone first (List.mem_cons_self ..), if_neg Bool.false_ne_true]
      have hrest := ih fun addition haddition => hgone addition (List.mem_cons_of_mem _ haddition)
      rw [addAll, List.foldl_cons, hfirst]
      exact hrest

/-- The order of additions makes no difference to the objects. -/
theorem addAll_perm {first second : List Addition} (hperm : first.Perm second)
    (objects : HandleTable Int32) : addAll objects first = addAll objects second := by
  have hcomm : RightCommutative fun (objects : HandleTable Int32) (addition : Addition) =>
      Objects.added objects addition.handle addition.amount :=
    ⟨fun objects left right => Objects.added_comm ..⟩
  exact hperm.foldl_eq objects

/-- What some additions, one after another, have made of a process, and how many of them have
failed. -/
structure Done (additions : List Addition) (before after : Process) (failures : Nat) : Prop where
  objects : after.objects = addAll before.objects additions
  tally : after.tally = { before.tally with
    callsMade := before.tally.callsMade + additions.length
    marshalErrors := before.tally.marshalErrors + additions.countP (·.handle = .null) }
  failures : failures = additions.countP fun addition =>
    !before.objects.contains addition.handle

namespace Done

variable {before between after : Process} {first second : List Addition} {failures others : Nat}

theorem nil (process : Process) : Done [] process process 0 :=
  ⟨rfl, rfl, rfl⟩

theorem append (hfirst : Done first before between failures)
    (hsecond : Done second between after others) :
    Done (first ++ second) before after (failures + others) where
  objects := by
    rw [hsecond.objects, hfirst.objects, addAll, addAll, addAll, List.foldl_append]
  tally := by
    rw [hsecond.tally, hfirst.tally, List.length_append, List.countP_append]
    simp only [Nat.add_assoc]
  failures := by
    rw [hsecond.failures, hfirst.failures, hfirst.objects, List.countP_append]
    simp only [contains_addAll]

/-- What is done takes the same from the same, in whatever order. -/
theorem eq_of_perm {left right : Process} (hleft : Done first before left failures)
    (hright : Done second before right others) (hperm : first.Perm second) :
    left.objects = right.objects ∧ left.tally = right.tally ∧ failures = others := by
  refine ⟨?_, ?_, ?_⟩
  · rw [hleft.objects, hright.objects, addAll_perm hperm]
  · rw [hleft.tally, hright.tally, hperm.length_eq, hperm.countP_eq]
  · rw [hleft.failures, hright.failures, hperm.countP_eq]

end Done

/-- An operation does its addition. -/
theorem done_run (addition : Addition) (context : Context) :
    Done [addition] context.process (addition.operation.run.run context).2.process
      (if addition.operation.Fails (addition.operation.run.run context).1 then 1 else 0) where
  objects := likeness_alike.objects (addition.alike_run context)
  tally := by
    apply Tally.eq_of_calls (addition.callsMade_run context)
    have htally := congrArg (·.process.tally) (addition.alike_run context)
    simpa [Context.bare, Process.bare, Context.added, List.countP_cons] using htally
  failures := by
    simp [addition.fails_run_iff, List.countP_cons]

end Addition

/-! ## Turns of threads -/

/-- The turns are those of the threads, each of which makes its own in their order. -/
def Interleaves {Name : Type} [DecidableEq Name] (turns : List (Name × Addition))
    (calls : Name → List Addition) : Prop :=
  ∀ name, turns.filter (·.1 = name) = (calls name).map (Prod.mk name)

/-- The turns of threads that take all of them one after another. -/
def inTurn {Name : Type} (names : List Name) (calls : Name → List Addition) :
    List (Name × Addition) :=
  names.flatMap fun name => (calls name).map (Prod.mk name)

theorem inTurn_cons {Name : Type} (first : Name) (rest : List Name)
    (calls : Name → List Addition) :
    inTurn (first :: rest) calls = (calls first).map (Prod.mk first) ++ inTurn rest calls :=
  List.flatMap_cons

namespace Interleaves

variable {Name : Type} [DecidableEq Name] {turns others : List (Name × Addition)}
variable {calls : Name → List Addition}

/-- Two orders of the same turns are permutations of each other. -/
theorem perm (hturns : Interleaves turns calls) (hothers : Interleaves others calls) :
    turns.Perm others := by
  classical
  rw [List.perm_iff_count]
  intro turn
  calc
    turns.count turn = (turns.filter (·.1 = turn.1)).count turn :=
      (List.count_filter (by simp)).symm
    _ = (others.filter (·.1 = turn.1)).count turn := by rw [hturns, hothers]
    _ = others.count turn := List.count_filter (by simp)

theorem filter_inTurn {names : List Name} (hnodup : names.Nodup) (calls : Name → List Addition)
    (name : Name) :
    (inTurn names calls).filter (·.1 = name) =
      if name ∈ names then (calls name).map (Prod.mk name) else [] := by
  induction names with
  | nil => rfl
  | cons first rest ih =>
      obtain ⟨hfirst, hrest⟩ := List.nodup_cons.mp hnodup
      rw [inTurn_cons, List.filter_append, ih hrest]
      by_cases hname : first = name
      · subst hname
        have hall : ((calls first).map (Prod.mk first)).filter (·.1 = first) =
            (calls first).map (Prod.mk first) := List.filter_eq_self.mpr (by simp)
        rw [hall, if_neg hfirst, if_pos (List.mem_cons_self ..), List.append_nil]
      · have hnone : ((calls first).map (Prod.mk first)).filter (·.1 = name) = [] :=
          List.filter_eq_nil_iff.mpr (by simp [hname])
        simp [hnone, Ne.symm hname]

/-- Threads that take all of their turns one after another are in some order. -/
theorem inTurn_interleaves {names : List Name} (hnodup : names.Nodup)
    (hcalls : ∀ name ∉ names, calls name = []) : Interleaves (inTurn names calls) calls := by
  intro name
  rw [filter_inTurn hnodup]
  by_cases hname : name ∈ names
  · rw [if_pos hname]
  · rw [if_neg hname, hcalls name hname, List.map_nil]

/-- If some of the threads make the same additions, there are as many as all of them make. -/
theorem eq_replicate (hturns : Interleaves turns calls) {names : Finset Name} {count : Nat}
    {addition : Addition}
    (hcalls : ∀ name, calls name = if name ∈ names then List.replicate count addition else []) :
    turns.map (·.2) = List.replicate (names.card * count) addition := by
  have hinTurn : Interleaves (inTurn names.toList calls) calls := by
    refine inTurn_interleaves names.nodup_toList fun name hname => ?_
    rw [hcalls, if_neg fun hmem => hname (Finset.mem_toList.mpr hmem)]
  have hsame : ∀ rest : List Name, (∀ name ∈ rest, name ∈ names) →
      (inTurn rest calls).map (·.2) = List.replicate (rest.length * count) addition := by
    intro rest hrest
    induction rest with
    | nil =>
        rw [List.length_nil, Nat.zero_mul]
        rfl
    | cons first rest ih =>
        obtain ⟨hfirst, hrest⟩ := List.forall_mem_cons.mp hrest
        rw [inTurn_cons, List.map_append, ih hrest, hcalls, if_pos hfirst, List.length_cons,
          Nat.succ_mul, Nat.add_comm, List.replicate_add]
        simp
  rw [← List.perm_replicate, ← Finset.length_toList,
    ← hsame names.toList fun name => Finset.mem_toList.mp]
  exact (hturns.perm hinTurn).map _

end Interleaves

/-! ## Threads one after another -/

namespace Host

theorem done_incrementTimes (handle : Handle) (count : Nat) (context : Context) :
    Addition.Done (List.replicate count (.increment handle)) context.process
      ((incrementTimes handle count).run context).2.process
      ((incrementTimes handle count).run context).1 := by
  induction count generalizing context with
  | zero => exact .nil _
  | succ count ih =>
      have hfirst := (Addition.increment handle).done_run context
      change Addition.Done _ _ (((Crossing.increment handle).invoke none).run context).2.process
        (if ((Crossing.increment handle).invoke none).run context |>.1.1 ≠ .ok then 1 else 0)
        at hfirst
      rcases hinvoke : ((Crossing.increment handle).invoke none).run context with
        ⟨⟨status, place⟩, between⟩
      rw [hinvoke] at hfirst
      rw [run_incrementTimes hinvoke]
      have hstatus : (if status ≠ .ok then 1 else 0) = if status.isOk then 0 else 1 := by
        cases status <;> rfl
      rw [hstatus] at hfirst
      have hboth := hfirst.append (ih between)
      rw [Nat.add_comm] at hboth
      exact hboth

/-- The model runs threads that increment at once one after another. -/
theorem done_incrementAtOnce (handle : Handle) (count threads : Nat) (context : Context) :
    Addition.Done (List.replicate (threads * count) (.increment handle)) context.process
      ((incrementAtOnce handle count threads).run context).2.process
      ((incrementAtOnce handle count threads).run context).1 := by
  induction threads generalizing context with
  | zero =>
      rw [Nat.zero_mul]
      exact .nil _
  | succ threads ih =>
      have hfirst := done_incrementTimes handle count { context with thread := {} }
      have hrest := ih ((Native.onNewThread (incrementTimes handle count)).run context).2
      rw [Nat.succ_mul, Nat.add_comm, List.replicate_add]
      exact hfirst.append hrest

end Host

/-! ## Turns of threads on a machine -/

namespace Machine

variable {Name : Type} [DecidableEq Name]

/-- How many turns of a run answer that they failed. -/
def failures : Machine Name → List (Move Name) → Nat
  | _, [] => 0
  | machine, move :: rest =>
      (if move.operation.Fails (machine.perform move.thread move.operation).1 then 1 else 0) +
        failures (machine.step move) rest

/-- The turns in which threads make additions. -/
abbrev movesOf (turns : List (Name × Addition)) : List (Move Name) :=
  turns.map fun turn => ⟨turn.1, turn.2.operation⟩

theorem done_after (machine : Machine Name) (turns : List (Name × Addition)) :
    Addition.Done (turns.map (·.2)) machine.process (machine.after (movesOf turns)).process
      (machine.failures (movesOf turns)) := by
  induction turns generalizing machine with
  | nil => exact .nil _
  | cons turn rest ih =>
      have hfirst := turn.2.done_run (machine.seenBy turn.1)
      exact hfirst.append (ih (machine.step ⟨turn.1, turn.2.operation⟩))

theorem errorIn?_find_step (machine : Machine Name) (turn : Name × Addition) (handle : Handle) :
    errorIn? ((machine.step ⟨turn.1, turn.2.operation⟩).process.objects.find handle) =
      errorIn? (machine.process.objects.find handle) := by
  have hobjects : (machine.step ⟨turn.1, turn.2.operation⟩).process.objects = _ :=
    likeness_alike.objects (turn.2.alike_run (machine.seenBy turn.1))
  rw [hobjects]
  exact Objects.errorIn?_find_added ..

/-- What a thread has to itself is what its own additions leave, whatever other threads add in
between. -/
theorem threads_after_additions (name : Name) (turns : List (Name × Addition))
    (left right : Machine Name) (hthread : left.threads name = right.threads name)
    (hfind : ∀ handle, errorIn? (left.process.objects.find handle) =
      errorIn? (right.process.objects.find handle)) :
    (left.after (movesOf turns)).threads name =
      (right.after (movesOf (turns.filter (·.1 = name)))).threads name := by
  induction turns generalizing left right with
  | nil => exact hthread
  | cons turn rest ih =>
      by_cases hown : turn.1 = name
      · rw [List.filter_cons_of_pos (by simpa using hown)]
        refine ih (left.step _) (right.step _) ?_ fun handle => ?_
        · have hseen : (left.seenBy name).thread = (right.seenBy name).thread := hthread
          have hstep (machine : Machine Name) :
              (machine.step ⟨turn.1, turn.2.operation⟩).threads name =
                (turn.2.operation.run.run (machine.seenBy name)).2.thread := by
            subst hown
            exact Function.update_self ..
          have hmark := turn.2.mark_congr (left.seenBy name) (right.seenBy name)
            (hfind turn.2.handle)
          rw [hstep, hstep, turn.2.thread_run, turn.2.thread_run, hmark, hseen]
        · rw [left.errorIn?_find_step turn, right.errorIn?_find_step turn, hfind]
      · rw [List.filter_cons_of_neg (by simpa using hown)]
        refine ih (left.step _) right ?_ fun handle => ?_
        · exact (left.threads_perform_of_ne (Ne.symm hown) turn.2.operation).trans hthread
        · exact (left.errorIn?_find_step turn handle).trans (hfind handle)

/-- What comes of additions that threads make, in whatever order. -/
structure AddsInAnyOrder (machine : Machine Name) (calls : Name → List Addition)
    (turns : List (Name × Addition)) : Prop where
  /-- Every order leaves the same objects. -/
  objects : ∀ others, Interleaves others calls →
    (machine.after (movesOf turns)).process.objects =
      (machine.after (movesOf others)).process.objects
  /-- A live object has all added to it that was to be added, once, wrapped around. -/
  values : ∀ handle value, machine.process.objects.find handle = .ok value →
    (machine.after (movesOf turns)).process.objects.find handle =
      .ok (.ofInt (value.toInt + Addition.totalTo handle (turns.map (·.2))))
  live : ∀ handle, (machine.after (movesOf turns)).process.objects.contains handle =
    machine.process.objects.contains handle
  /-- The additions that fail are those that are aimed at handles that are not live. -/
  failures : machine.failures (movesOf turns) =
    turns.countP fun turn => !machine.process.objects.contains turn.2.handle
  callsMade : (machine.after (movesOf turns)).process.tally.callsMade =
    machine.process.tally.callsMade + turns.length
  marshalErrors : (machine.after (movesOf turns)).process.tally.marshalErrors =
    machine.process.tally.marshalErrors + turns.countP (·.2.handle = .null)
  /-- A thread has to itself what it would have if it were alone. -/
  alone : ∀ name, (machine.after (movesOf turns)).threads name =
    (machine.after (movesOf ((calls name).map (Prod.mk name)))).threads name
  /-- Threads that increment one object, each as often as the others, come to what they come to
  one after another: all of them succeed if the object is live, and else none does. -/
  inParallel : ∀ handle count (names : Finset Name),
    (∀ name, calls name =
      if name ∈ names then List.replicate count (.increment handle) else []) →
    (∀ value, machine.process.objects.find handle = .ok value →
      machine.failures (movesOf turns) = 0 ∧
      (machine.after (movesOf turns)).process.objects.find handle =
        .ok (.ofInt (value.toInt + (names.card * count : Nat)))) ∧
    (machine.process.objects.contains handle = false →
      machine.failures (movesOf turns) = names.card * count ∧
      (machine.after (movesOf turns)).process.objects = machine.process.objects) ∧
    ∀ thread,
      let atOnce := (Host.incrementAtOnce handle count names.card).run ⟨machine.process, thread⟩
      (machine.after (movesOf turns)).process.objects = atOnce.2.process.objects ∧
        (machine.after (movesOf turns)).process.tally = atOnce.2.process.tally ∧
        machine.failures (movesOf turns) = atOnce.1

/-- From any state on, it makes no difference in which order threads make their additions. -/
theorem additions_in_any_order (machine : Machine Name) {calls : Name → List Addition}
    {turns : List (Name × Addition)} (hturns : Interleaves turns calls) :
    machine.AddsInAnyOrder calls turns := by
  have hdone := machine.done_after turns
  constructor
  case objects =>
    intro others hothers
    exact (hdone.eq_of_perm (machine.done_after others) ((hturns.perm hothers).map _)).1
  case values =>
    intro handle value hfind
    rw [hdone.objects]
    exact Addition.find_addAll hfind _
  case live =>
    intro handle
    rw [hdone.objects]
    exact Addition.contains_addAll _ _ handle
  case failures =>
    rw [hdone.failures, List.countP_map]
    rfl
  case callsMade =>
    rw [hdone.tally]
    simp
  case marshalErrors =>
    rw [hdone.tally, List.countP_map]
    rfl
  case alone =>
    intro name
    rw [← hturns name]
    exact machine.threads_after_additions name turns machine rfl fun _ => rfl
  case inParallel =>
    intro handle count names hcalls
    rw [hturns.eq_replicate hcalls] at hdone
    refine ⟨fun value hfind => ⟨?_, ?_⟩, fun hgone => ⟨?_, ?_⟩, fun thread => ?_⟩
    · have hlive := HandleTable.contains_iff_find.mpr ⟨value, hfind⟩
      simp [hdone.failures, Addition.increment, List.countP_replicate, hlive]
    · rw [hdone.objects, Addition.find_addAll hfind, Addition.totalTo_replicate]
    · simp [hdone.failures, Addition.increment, List.countP_replicate, hgone]
    · rw [hdone.objects]
      apply Addition.addAll_of_gone
      intro addition haddition
      rw [(List.mem_replicate.mp haddition).2]
      exact hgone
    · have hatOnce := Host.done_incrementAtOnce handle count names.card
        ⟨machine.process, thread⟩
      exact hdone.eq_of_perm hatOnce (.refl _)

/-- One thread increments the object of a live handle and asks for the same with the null
handle, while another thread adds to the object what makes it wrap around. -/
theorem additions_in_any_order_wrapped :
    let machine := ({} : Machine Bool).after [⟨true, .cross .make (some .null)⟩]
    let most : Addition := {
      operation := .manage (.addTo (.adopt ⟨1⟩) 2147483647)
      handle := ⟨1⟩
      amount := 2147483647
      adds := ⟨_, rfl, .addTo ⟨1⟩ 2147483647⟩ }
    let calls (name : Bool) : List Addition :=
      if name then [.increment ⟨1⟩, .increment .null] else [most]
    let turns := [(true, .increment ⟨1⟩), (false, most), (true, .increment .null)]
    let ended := machine.after (movesOf turns)
    Interleaves turns calls ∧
      ended.process.objects.find ⟨1⟩ = .ok (-2147483648) ∧
      machine.failures (movesOf turns) = 1 ∧
      ended.process.tally.marshalErrors = 1 ∧
      (ended.threads true).lastError = some (.marshal .nullHandle) := by
  intro machine most calls turns ended
  have hturns : Interleaves turns calls := by
    intro name
    cases name <;> rfl
  have hordered := machine.additions_in_any_order hturns
  have hvalue := hordered.values ⟨1⟩ 0 (by decide)
  have halone := hordered.alone true
  refine ⟨hturns, hvalue, hordered.failures, hordered.marshalErrors, ?_⟩
  rw [halone]
  decide

end Machine

end InteropBridge
