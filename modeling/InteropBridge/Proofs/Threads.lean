import InteropBridge.Proofs.Managed.ManagedCall
import InteropBridge.Startup

/-!
# Threads of a process

The threads of a process take turns.  In its turn a thread does one operation: a direct
call of an export, a managed call, the drop of a proxy, or something aside from calls.
An operation sees what the threads share and what its own thread has to itself, and
changes nothing else.
-/

namespace InteropBridge

/-- What a thread can do aside from calls, by the type of what it learns.  None of it
enters an export. -/
inductive Aside : Type → Type
  | lastErrorCode : Aside Int
  | lastErrorLength : Aside Nat
  | lastErrorMessage (buffer : List UInt8) (capacity : Nat) : Aside (Nat × List UInt8)
  | releaseText (buffer : Buffer NativeText) : Aside Unit
  | releaseSequence (buffer : Buffer (List Int32)) : Aside Unit
  | tally : Aside Tally
  | settings : Aside Settings
  | install (installed : Settings) : Aside Unit
  | live : Aside Nat
  | shutdown : Aside Nat
  | start (installed : Settings) : Aside Bool
  | startFrom (files : FileTree) (directory : Place) : Aside Unit
  | startLogging (plan : Log.Plan) : Aside Bool
  | cleanUp : Aside Unit
  | writeLine (line : String) : Aside Unit
  | openCapture : Aside (Option String)
  | closeCapture (outer : Option String) : Aside String

def Aside.run : {α : Type} → Aside α → Native α
  | _, lastErrorCode => Native.lastErrorCode
  | _, lastErrorLength => do return (← Native.lastErrorMessage).length
  | _, lastErrorMessage buffer capacity => Native.copyLastErrorMessage buffer capacity
  | _, releaseText buffer => buffer.releaseText
  | _, releaseSequence buffer => buffer.releaseSequence
  | _, tally => do return (← get).process.tally
  | _, settings => Native.settings
  | _, install installed => Native.install installed
  | _, live => Objects.live
  | _, shutdown => Objects.shutdown
  | _, start installed => Startup.start installed
  | _, startFrom files directory => Startup.startFrom files directory
  | _, startLogging plan => Startup.startLogging plan
  | _, cleanUp => Startup.cleanUp
  | _, writeLine line => Native.writeLine line
  | _, openCapture => Native.openCapture
  | _, closeCapture outer => Native.closeCapture outer

/-- What a thread can do in one turn, by the type of what it learns. -/
inductive Operation : Type → Type 1
  /-- A direct call of an export.  `place` is what the place for the result holds before,
  if a place is given. -/
  | cross {kind : ResultKind} (crossing : Crossing kind) (place : Option kind.Result) :
      Operation (Status × Option kind.Result)
  | manage {α : Type} (call : ManagedCall α) : Operation (Except BridgeError α)
  | drop (proxy : Proxy) : Operation Unit
  | takeLastError : Operation (Option BridgeError)
  | aside {α : Type} (other : Aside α) : Operation α

def Operation.run : {α : Type} → Operation α → Native α
  | _, cross crossing place => crossing.invoke place
  | _, manage call => call.perform.run
  | _, drop proxy => proxy.drop
  | _, takeLastError => Native.takeLastError
  | _, aside other => other.run

/-- A process with all of its threads. -/
structure Machine (Name : Type) where
  process : Process := {}
  threads : Name → Thread := fun _ => {}

/-- One turn of a thread. -/
structure Move (Name : Type) where
  thread : Name
  {Answer : Type}
  operation : Operation Answer

namespace Machine

variable {Name : Type} {α : Type}

/-- The process as one of the threads sees it. -/
def seenBy (machine : Machine Name) (name : Name) : Context :=
  ⟨machine.process, machine.threads name⟩

variable [DecidableEq Name]

/-- The machine after one of its threads has changed the process and itself. -/
def left (machine : Machine Name) (name : Name) (context : Context) : Machine Name where
  process := context.process
  threads := Function.update machine.threads name context.thread

/-- Does an operation on a thread. -/
def perform (machine : Machine Name) (name : Name) (operation : Operation α) :
    α × Machine Name :=
  let (answer, context) := operation.run.run (machine.seenBy name)
  (answer, machine.left name context)

def step (machine : Machine Name) (move : Move Name) : Machine Name :=
  (machine.perform move.thread move.operation).2

/-- The machine after some turns. -/
def after (machine : Machine Name) (moves : List (Move Name)) : Machine Name :=
  moves.foldl step machine

theorem left_seenBy (machine : Machine Name) (name : Name) :
    machine.left name (machine.seenBy name) = machine := by
  rw [left, seenBy, Function.update_eq_self]

theorem seenBy_perform (machine : Machine Name) (name : Name) (operation : Operation α) :
    (machine.perform name operation).2.seenBy name =
      (operation.run.run (machine.seenBy name)).2 := by
  have hthread : (machine.perform name operation).2.threads name =
      (operation.run.run (machine.seenBy name)).2.thread :=
    Function.update_self ..
  rw [seenBy, hthread]
  rfl

/-- No operation reaches what another thread has to itself. -/
theorem threads_perform_of_ne (machine : Machine Name) {name other : Name}
    (hother : other ≠ name) (operation : Operation α) :
    (machine.perform name operation).2.threads other = machine.threads other :=
  Function.update_of_ne hother _ _

theorem threads_after_of_others {name : Name} {moves : List (Move Name)}
    (hothers : ∀ move ∈ moves, move.thread ≠ name) (machine : Machine Name) :
    (machine.after moves).threads name = machine.threads name := by
  induction moves generalizing machine with
  | nil => rfl
  | cons move rest ih =>
      have hmove := hothers move (List.mem_cons_self ..)
      have hrest := ih (fun later hlater => hothers later (List.mem_cons_of_mem _ hlater))
      calc
        ((machine.step move).after rest).threads name = (machine.step move).threads name :=
          hrest _
        _ = machine.threads name := machine.threads_perform_of_ne hmove.symm move.operation

end Machine

end InteropBridge
