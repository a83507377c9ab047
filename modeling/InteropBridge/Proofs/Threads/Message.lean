import InteropBridge.Proofs.Crossing.Wording
import InteropBridge.Proofs.Threads.LastError
import InteropBridge.Proofs.Threads.Limit

/-!
# Reading the message of the last error

A thread asks for the message of its last error in two steps: first for its length, without
a buffer, and then for its bytes, with a buffer that has room for them.  It may ask as often
as it likes and with any buffers, because asking changes nothing but the buffer.  Messages
are plain, so that the part that went into a buffer can always be read.
-/

namespace InteropBridge

variable {α : Type}

/-- The message of the thread's last error, empty without one. -/
def Thread.message (thread : Thread) : NativeText :=
  thread.lastError.elim [] fun error => error.message.toList

/-- After is the buffer before with the bytes of the message in front, as many as there are
up to the capacity. -/
structure Fills (message : List UInt8) (capacity : Nat) (before after : List UInt8) :
    Prop where
  length_eq : after.length = before.length
  written : ∀ place < min capacity message.length, after[place]? = message[place]?
  spared : ∀ place, min capacity message.length ≤ place → after[place]? = before[place]?

theorem fills_copied {capacity : Nat} (message : List UInt8) {before : List UInt8}
    (hroom : capacity ≤ before.length) :
    let copied := message.take capacity
    Fills message capacity before (copied ++ before.drop copied.length) := by
  intro copied
  have hcopied : copied.length = min capacity message.length := List.length_take
  constructor
  case length_eq =>
    rw [List.length_append, List.length_drop]
    omega
  case written =>
    intro place hplace
    have hcapacity : place < capacity := by omega
    rw [List.getElem?_append_left (by omega), List.getElem?_take_of_lt hcapacity]
  case spared =>
    intro place hplace
    rw [List.getElem?_append_right (by omega), List.getElem?_drop]
    congr 1
    omega

/-- As much capacity as the message is long is enough for all of it. -/
theorem Fills.take_length {message before after : List UInt8}
    (hfills : Fills message message.length before after) :
    after.take message.length = message := by
  apply List.ext_getElem?
  intro place
  rw [List.getElem?_take]
  split
  · exact hfills.written place (by omega)
  · rw [List.getElem?_eq_none (by omega)]

/-- The operation asks for the message of the last error, without a buffer or with one. -/
inductive Operation.Reads : {α : Type} → Operation α → Prop
  | probe : Reads (.aside .lastErrorLength)
  | copy (buffer : List UInt8) (capacity : Nat) :
      Reads (.aside (.lastErrorMessage buffer capacity))

theorem Native.run_lastErrorMessage (context : Context) :
    lastErrorMessage.run context = (Utf8.encode context.thread.message, context) := by
  rcases context with ⟨process, ⟨_ | error, capture⟩⟩ <;> rfl

/-- The error that a direct call leaves is worded plainly. -/
theorem Operation.isPlain_of_mark {operation : Operation α} {context : Context}
    {error : BridgeError} (hkind : Text.IsPlain context.process.objects.kind)
    (hmark : operation.mark context = .recorded error) : Text.IsPlain error.message := by
  cases operation with
  | cross crossing place =>
      have hplain := crossing.wordedPlainly_outcome place.isSome hkind
      rw [mark] at hmark
      cases houtcome : crossing.outcome place.isSome context with
      | ok result =>
          rw [houtcome] at hmark
          cases hmark
      | error failure =>
          rw [houtcome] at hmark
          cases hmark
          exact hplain error houtcome
  | manage call =>
      rw [mark] at hmark
      split at hmark <;> cases hmark
  | drop proxy =>
      rw [mark] at hmark
      split at hmark <;> cases hmark
  | takeLastError | aside other => cases hmark

namespace Machine

variable {Name : Type} [DecidableEq Name]

/-! ## Asking changes nothing -/

theorem perform_probe (machine : Machine Name) (name : Name) :
    machine.perform name (.aside .lastErrorLength) =
      ((Utf8.encode (machine.threads name).message).length, machine) := by
  have hrun : (Operation.aside .lastErrorLength).run.run (machine.seenBy name) =
      ((Utf8.encode (machine.threads name).message).length, machine.seenBy name) := by
    rw [Operation.run, Aside.run, Native.run_bind, Native.run_lastErrorMessage]
    rfl
  rw [perform, hrun]
  exact Prod.ext rfl (machine.left_seenBy name)

theorem perform_copy (machine : Machine Name) (name : Name) (buffer : List UInt8)
    (capacity : Nat) :
    let bytes := Utf8.encode (machine.threads name).message
    let copied := bytes.take capacity
    machine.perform name (.aside (.lastErrorMessage buffer capacity)) =
      ((bytes.length, copied ++ buffer.drop copied.length), machine) := by
  intro bytes copied
  have hrun : (Operation.aside (.lastErrorMessage buffer capacity)).run.run
      (machine.seenBy name) =
        ((bytes.length, copied ++ buffer.drop copied.length), machine.seenBy name) := by
    rw [Operation.run, Aside.run, Native.copyLastErrorMessage, Native.run_bind,
      Native.run_lastErrorMessage]
    rfl
  rw [perform, hrun]
  exact Prod.ext rfl (machine.left_seenBy name)

theorem perform_of_reads {operation : Operation α} (hreads : operation.Reads)
    (machine : Machine Name) (name : Name) : (machine.perform name operation).2 = machine := by
  cases hreads with
  | probe => rw [perform_probe]
  | copy buffer capacity => rw [perform_copy]

/-- However often a thread asks for the message, and whatever other threads do meanwhile, it
stays as it is. -/
theorem threads_after_of_reads {name : Name} {moves : List (Move Name)}
    (hreads : ∀ move ∈ moves, move.thread = name → move.operation.Reads)
    (machine : Machine Name) : (machine.after moves).threads name = machine.threads name := by
  induction moves generalizing machine with
  | nil => rfl
  | cons move rest ih =>
      have hrest := ih (fun later hlater => hreads later (List.mem_cons_of_mem _ hlater))
      have hstep : (machine.step move).threads name = machine.threads name := by
        by_cases hown : move.thread = name
        · rw [step, perform_of_reads (hreads move (List.mem_cons_self ..) hown)]
        · exact machine.threads_perform_of_ne (Ne.symm hown) move.operation
      exact (hrest (machine.step move)).trans hstep

/-! ## Messages are plain -/

/-- Every last error is worded plainly. -/
def SpeaksPlainly (machine : Machine Name) : Prop :=
  ∀ name error, (machine.threads name).lastError = some error → Text.IsPlain error.message

omit [DecidableEq Name] in
theorem SpeaksPlainly.message {machine : Machine Name} (hplain : machine.SpeaksPlainly)
    (name : Name) : ∀ c ∈ (machine.threads name).message, c.toNat < 0x80 := by
  rw [Thread.message]
  cases hlast : (machine.threads name).lastError with
  | none => exact nofun
  | some error => exact hplain name error hlast

/-- Only a direct call records an error, the one that it failed with. -/
theorem SpeaksPlainly.step {machine : Machine Name} (hplain : machine.SpeaksPlainly)
    (hkind : machine.process.objects.kind = className) (move : Move Name) :
    (machine.step move).SpeaksPlainly := by
  intro name error hlast
  by_cases hown : move.thread = name
  · subst hown
    rw [Machine.step, lastError_perform] at hlast
    cases hmark : move.operation.mark (machine.seenBy move.thread) with
    | kept =>
        rw [hmark] at hlast
        exact hplain move.thread error hlast
    | cleared =>
        rw [hmark] at hlast
        cases hlast
    | recorded recorded =>
        rw [hmark] at hlast
        obtain rfl : recorded = error := Option.some.inj hlast
        exact Operation.isPlain_of_mark (by rw [seenBy, hkind]; decide) hmark
  · rw [Machine.step, machine.threads_perform_of_ne (Ne.symm hown) move.operation] at hlast
    exact hplain name error hlast

/-- At every point of a run, what went wrong last on a thread is told plainly. -/
theorem speaksPlainly_after (moves : List (Move Name)) :
    (({} : Machine Name).after moves).SpeaksPlainly := by
  induction moves using List.reverseRecOn with
  | nil => exact fun _ _ => nofun
  | append_singleton moves move ih =>
      rw [after_append]
      exact ih.step (kind_after moves) move

/-! ## What is read -/

/-- What a thread can learn of a text if this is the message of its last error. -/
structure Shows (machine : Machine Name) (name : Name) (message : NativeText) : Prop where
  /-- Without a buffer, the thread learns how many bytes there are. -/
  probe : machine.perform name (.aside .lastErrorLength) =
    ((Utf8.encode message).length, machine)
  /-- With a buffer of any capacity it learns the same, and finds the first bytes in the
  buffer. -/
  copy : ∀ (buffer : List UInt8) (capacity : Nat), capacity ≤ buffer.length →
    ∃ filled, Fills (Utf8.encode message) capacity buffer filled ∧
      machine.perform name (.aside (.lastErrorMessage buffer capacity)) =
        (((Utf8.encode message).length, filled), machine)
  /-- With a buffer of the length learnt before, it finds all of them. -/
  whole : ∀ buffer : List UInt8,
    let length := (machine.perform name (.aside .lastErrorLength)).1
    length ≤ buffer.length →
    let filled := (machine.perform name (.aside (.lastErrorMessage buffer length))).1.2
    filled.take length = Utf8.encode message
  /-- Every character takes one byte. -/
  plain : ∀ c ∈ message, c.toNat < 0x80
  /-- So wherever the capacity cuts the message, what comes before can be read. -/
  part : ∀ capacity,
    Utf8.decode ((Utf8.encode message).take capacity) = .ok (message.take capacity)

theorem SpeaksPlainly.shows {machine : Machine Name} (hplain : machine.SpeaksPlainly)
    (name : Name) : machine.Shows name (machine.threads name).message where
  probe := machine.perform_probe name
  copy buffer capacity hroom :=
    ⟨_, fills_copied _ hroom, machine.perform_copy name buffer capacity⟩
  whole buffer := by
    rw [perform_probe]
    intro length hroom
    rw [perform_copy]
    exact (fills_copied _ hroom).take_length
  plain := hplain.message name
  part := Utf8.decode_take_of_plain (hplain.message name)

/-- At every point of a run of any threads, a thread can read the message of its last error,
by parts or at once, and it can go on doing so for as long as it does nothing else. -/
theorem last_error_can_be_read (moves : List (Move Name)) (name : Name)
    (reads : List (Move Name))
    (hreads : ∀ move ∈ reads, move.thread = name → move.operation.Reads) :
    let machine := ({} : Machine Name).after moves
    (machine.after reads).Shows name (machine.threads name).message := by
  intro machine
  have hshows := (speaksPlainly_after (moves ++ reads)).shows name
  rw [after_append, threads_after_of_reads hreads] at hshows
  exact hshows

/-- A released handle is told in hexadecimal, and asking for the length, or for the first word
alone, takes nothing away from it. -/
theorem last_error_can_be_read_in_parts :
    let machine := ({} : Machine Bool).after [⟨true, .cross (.get ⟨255⟩) (some 0)⟩]
    let reads : List (Move Bool) := [⟨true, .aside .lastErrorLength⟩,
      ⟨false, .cross .hello none⟩, ⟨true, .aside (.lastErrorMessage (List.replicate 8 0) 6)⟩]
    (∀ move ∈ reads, move.thread = true → move.operation.Reads) ∧
      (machine.after reads).Shows true "handle 0xff used after release".toList := by
  intro machine reads
  have hreads : ∀ move ∈ reads, move.thread = true → move.operation.Reads := by
    simp [reads, Operation.Reads.probe, Operation.Reads.copy]
  have hlast : (machine.threads true).lastError = some (.disposedHandle ⟨255⟩) := by decide
  have hmessage : (machine.threads true).message = "handle 0xff used after release".toList := by
    rw [Thread.message, hlast]
    decide
  refine ⟨hreads, ?_⟩
  rw [← hmessage]
  exact last_error_can_be_read [⟨true, .cross (.get ⟨255⟩) (some 0)⟩] true reads hreads

end Machine

end InteropBridge
