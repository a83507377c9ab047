import InteropBridge.Proofs.Host.History
import InteropBridge.Proofs.Threads

/-!
# The history of a machine

The answer of an operation tells what became of handles and objects, whichever way the
operation takes: a direct call, a proxy, a call by name, or an end to everything.  What
the turns of all threads tell, one after another, is the history of the ledger that they
share.
-/

namespace InteropBridge

open Attempt

variable {α : Type}

namespace ManagedCall

/-- What the value of a managed call tells of. -/
def happenings : {α : Type} → ManagedCall α → α → List Happening
  | _, make, proxy => [.made proxy.raw]
  | _, maybeMake _, made => made.content.toList.map fun proxy => .made proxy.raw
  | _, duplicate source, copy => [.copied source.raw copy.raw]
  | _, increment proxy, _ => [.added proxy.raw 1]
  | _, addTo proxy amount, _ => [.added proxy.raw amount]
  | _, dispose proxy, _ => proxy.parting
  | _, byName name args, value => Dynamic.happenings name args value
  | _, hello, _ | _, printNumber _, _ | _, add .., _ | _, concat .., _ | _, concatLent .., _
  | _, printCopy _, _ | _, printLength _, _ | _, getNumbers, _ | _, maybeAddOne _, _
  | _, handle _, _ | _, print _, _ | _, get _, _ => []

theorem records_perform (call : ManagedCall α) : Records call.happenings call.perform := by
  cases call with
  | hello => exact Managed.records_ask .hello
  | printNumber number => exact Managed.records_ask (.printNumber number)
  | add left right => exact Managed.records_ask (.add left right)
  | printLength items => exact Managed.records_ask (.printLength (.ofList items))
  | concat left right => exact Library.silent_concat left right
  | concatLent left right => exact Library.silent_concatLent left right
  | getNumbers => exact Library.silent_getNumbers
  | maybeMake name => exact Library.records_maybeMake name
  | maybeAddOne value => exact Library.silent_maybeAddOne value
  | make => exact Proxy.records_make
  | duplicate proxy => exact proxy.records_duplicate
  | handle proxy => exact (looks_ofExcept _).silent
  | printCopy proxy => exact proxy.records_ask .printCopy
  | print proxy => exact proxy.records_ask .print
  | increment proxy => exact proxy.records_ask .increment
  | addTo proxy amount => exact proxy.records_ask (.addTo · amount)
  | get proxy => exact proxy.records_ask .get
  | dispose proxy => exact proxy.records_dispose
  | byName name args => exact Dynamic.records_call name args

/-- A managed call that gets to the boundary does to the ledger what the direct call does. -/
theorem ledger_perform {call : ManagedCall α} {made : AnyCrossing}
    (hmade : call.crossing? = some made) (context : Context) :
    (call.perform.run.run context).2.process.ledger =
      ((made.2.invoke (some made.1.blank)).run context).2.process.ledger := by
  obtain ⟨decode, hmirrors⟩ := exists_mirrors_perform hmade
  exact congrArg (·.process.ledger) (hmirrors context made.1.blank).after

/-- One that does not get there does nothing to it. -/
theorem ledger_perform_of_none {call : ManagedCall α} (hnone : call.crossing? = none)
    (context : Context) :
    (call.perform.run.run context).2.process.ledger = context.process.ledger :=
  congrArg (·.process.ledger) (staysOutside_perform hnone context)

end ManagedCall

namespace Aside

/-- What is done aside from calls tells of, which is nothing unless it ends everything. -/
def told : {α : Type} → Aside α → List Happening
  | _, shutdown | _, cleanUp => [.shutDown]
  | _, lastErrorCode | _, lastErrorLength | _, lastErrorMessage .. | _, releaseText _
  | _, releaseSequence _ | _, tally | _, settings | _, install _ | _, live | _, start _
  | _, startFrom .. | _, startLogging _ | _, writeLine _ | _, openCapture
  | _, closeCapture _ => []

theorem records_run (other : Aside α) : other.run.Records fun _ => other.told := by
  cases other with
  | shutdown => exact Objects.records_shutdown
  | cleanUp => exact Host.records_cleanUp
  | releaseText buffer => exact Managed.silent_releaseText buffer
  | releaseSequence buffer => exact Managed.silent_releaseSequence buffer
  | start installed => exact Host.silent_start installed
  | startFrom files directory => exact Host.silent_startFrom files directory
  | startLogging plan => exact Host.silent_startLogging plan
  | writeLine line => exact Native.silent_writeLine line
  | lastErrorCode | lastErrorLength | lastErrorMessage | tally | settings | install | live
  | openCapture | closeCapture => exact Native.silent_of_ledger fun _ => rfl

theorem told_eq (other : Aside α) : other.told = [] ∨ other.told = [.shutDown] := by
  cases other <;> simp [told]

end Aside

namespace Operation

/-- What the answer to the operation tells of. -/
def told : {α : Type} → Operation α → α → List Happening
  | _, @cross kind crossing _, (status, place) => crossing.told status (place.getD kind.blank)
  | _, manage call, result => onSuccess call.happenings result
  | _, drop proxy, _ => proxy.parting
  | _, takeLastError, _ => []
  | _, aside other, _ => other.told

/-- The answer tells every turn that the ledger takes. -/
theorem records_run (operation : Operation α) : operation.run.Records operation.told := by
  cases operation with
  | cross crossing place => exact crossing.records_invoke place _
  | manage call => exact call.records_perform
  | drop proxy => exact proxy.records_drop
  | takeLastError => exact Native.silent_of_ledger fun _ => rfl
  | aside other => exact other.records_run

/-- Whether the answer says that the operation failed.  A drop never says so. -/
def Fails : {α : Type} → Operation α → α → Prop
  | _, cross _ _, (status, _) => status ≠ .ok
  | _, manage _, .error _ => True
  | _, manage _, .ok _ | _, drop _, _ | _, takeLastError, _ | _, aside _, _ => False

theorem told_of_fails {operation : Operation α} {answer : α} (hfails : operation.Fails answer) :
    operation.told answer = [] := by
  cases operation with
  | cross crossing place => exact crossing.told_of_ne_ok hfails _
  | manage call =>
      cases answer with
      | error error => rfl
      | ok value => cases hfails
  | drop proxy | takeLastError | aside other => cases hfails

end Operation

namespace Machine

variable {Name : Type} [DecidableEq Name]

/-- What the answers in a run tell of, in order. -/
def history : Machine Name → List (Move Name) → List Happening
  | _, [] => []
  | machine, move :: rest =>
      move.operation.told (machine.perform move.thread move.operation).1 ++
        history (machine.step move) rest

theorem turns_perform (machine : Machine Name) (name : Name) (operation : Operation α) :
    Ledger.Turns machine.process.ledger (operation.told (machine.perform name operation).1)
      (machine.perform name operation).2.process.ledger :=
  operation.records_run (machine.seenBy name)

/-- The ledger of a machine takes the turns that the answers tell of. -/
theorem turns_after (machine : Machine Name) (moves : List (Move Name)) :
    Ledger.Turns machine.process.ledger (machine.history moves)
      (machine.after moves).process.ledger := by
  induction moves generalizing machine with
  | nil => exact .refl _
  | cons move rest ih =>
      exact (machine.turns_perform move.thread move.operation).trans (ih (machine.step move))

theorem after_append (machine : Machine Name) (first second : List (Move Name)) :
    machine.after (first ++ second) = (machine.after first).after second :=
  List.foldl_append

/-- The ledger of a machine that began afresh is the one that its history tells of. -/
theorem tracks_after (moves : List (Move Name))
    (hroom : (({} : Machine Name).after moves).process.tally.handlesAllocated < UInt64.size) :
    Ledger.Tracks (({} : Machine Name).history moves)
      (({} : Machine Name).after moves).process.ledger :=
  (({} : Machine Name).turns_after moves).tracks hroom

end Machine

end InteropBridge
