import InteropBridge.Proofs.Managed.Trail
import InteropBridge.Proofs.Threads.Limit

/-!
# The trail of a process

Whatever the threads of a process do, the trail in its log grows by the entries of what their
answers tell of.  So the trail is the one that the history of the ledger leaves, and it audits
the ledger: the allocations name the handles one after another, every release follows the
allocation of its handle and is the only one of it, and what was neither released nor left at
the end is live.
-/

namespace InteropBridge

open Attempt

variable {α : Type}

/-! ## Aside from calls -/

namespace Objects

theorem reports_shutdown : shutdown.Reports fun _ => [.shutDown] := by
  intro context
  rw [run_shutdown, List.flatMap_singleton, Ledger.entries]
  change _ = _ ++ if context.process.objects.clear.1 > 0 then _ else _
  split
  · exact context.process.journal.trail_emit (.leaked context.process.objects.clear.1)
  · exact (List.append_nil _).symm

end Objects

namespace Startup

theorem keeps_trail_startLogging (plan : Log.Plan) :
    (startLogging plan).Keeps Context.trail :=
  fun context => context.process.journal.trail_start plan

theorem keeps_trail_start (settings : Settings) : (start settings).Keeps Context.trail := by
  have hinstall : (Native.install settings).Keeps Context.trail := fun _ => rfl
  exact hinstall.bind fun _ => (keeps_trail_startLogging _).bind fun _ =>
    (Native.keeps_emit rfl).trail.bind fun _ _ => rfl

theorem keeps_trail_letGoOfWriter : letGoOfWriter.Keeps Context.trail := by
  intro context
  change Log.Journal.trail (if context.process.keepsWriter then _ else _ : Process).journal = _
  split <;> rfl

theorem keeps_trail_startFrom (files : FileTree) (directory : Place) :
    (startFrom files directory).Keeps Context.trail := by
  have hreports : Native.Keeps Context.trail (do
      for passed in (Config.discover files directory).passedOver do
        Native.emit (.configIgnored passed.path passed.fault.message)) :=
    reports_induction (fun _ => rfl)
      (fun _ _ hrest => (Native.keeps_emit rfl).trail.bind fun _ => hrest) _
  have hdiscover : (discover files directory).Keeps Context.trail :=
    hreports.bind fun _ _ => rfl
  exact hdiscover.bind fun settings => (keeps_trail_start settings).bind fun _ =>
    keeps_trail_letGoOfWriter.bind fun _ _ => rfl

theorem reports_cleanUp : cleanUp.Reports fun _ => [.shutDown] :=
  Objects.reports_shutdown.bind_keeps (fun _ => keeps_trail_letGoOfWriter) fun _ _ => rfl

end Startup

theorem Aside.reports_run (other : Aside α) : other.run.Reports fun _ => other.told := by
  cases other with
  | shutdown => exact Objects.reports_shutdown
  | cleanUp => exact Startup.reports_cleanUp
  | releaseText buffer => exact (Managed.keeps_releaseText buffer).trail.reports
  | releaseSequence buffer => exact (Managed.keeps_releaseSequence buffer).trail.reports
  | start installed => exact (Startup.keeps_trail_start installed).reports
  | startFrom files directory => exact (Startup.keeps_trail_startFrom files directory).reports
  | startLogging plan => exact (Startup.keeps_trail_startLogging plan).reports
  | writeLine line =>
      refine Native.Keeps.reports ?_
      rintro ⟨process, lastError, _ | collected⟩ <;> rfl
  | lastErrorCode | lastErrorLength | lastErrorMessage | tally | settings | install | live
  | openCapture | closeCapture => exact Native.Keeps.reports fun _ => rfl

/-! ## Operations -/

theorem ManagedCall.reports_perform (call : ManagedCall α) :
    Reports call.happenings call.perform := by
  cases call with
  | hello => exact Managed.reports_ask .hello
  | printNumber number => exact Managed.reports_ask (.printNumber number)
  | add left right => exact Managed.reports_ask (.add left right)
  | printLength items => exact Managed.reports_ask (.printLength (.ofList items))
  | concat left right => exact Library.reports_concat left right
  | concatLent left right => exact Library.reports_concatLent left right
  | getNumbers => exact Library.reports_getNumbers
  | maybeMake name => exact Library.reports_maybeMake name
  | maybeAddOne value => exact Library.reports_maybeAddOne value
  | make => exact Proxy.reports_make
  | duplicate proxy => exact proxy.reports_duplicate
  | handle proxy => exact Attempt.Keeps.reports (looks_ofExcept _).keeps
  | printCopy proxy => exact proxy.reports_ask .printCopy
  | print proxy => exact proxy.reports_ask .print
  | increment proxy => exact proxy.reports_ask .increment
  | addTo proxy amount => exact proxy.reports_ask (.addTo · amount)
  | get proxy => exact proxy.reports_ask .get
  | dispose proxy => exact proxy.reports_dispose
  | byName name args => exact Dynamic.reports_call name args

theorem Operation.reports_run (operation : Operation α) :
    operation.run.Reports operation.told := by
  cases operation with
  | cross crossing place => exact crossing.reports_invoke place _
  | manage call => exact call.reports_perform
  | drop proxy => exact proxy.reports_drop
  | takeLastError => exact Native.Keeps.reports fun _ => rfl
  | aside other => exact other.reports_run

/-! ### One happening at most -/

theorem Crossing.length_happenings_le {kind : ResultKind} (crossing : Crossing kind)
    (result : kind.Result) : (crossing.happenings result).length ≤ 1 := by
  cases crossing with
  | maybeMake name =>
      rw [happenings, List.length_map]
      cases result.toOption <;> simp
  | make | duplicate | increment | addTo | free => exact Nat.le_refl 1
  | hello | printNumber | add | concat | concatLent | printCopy | printLength | getNumbers
  | maybeAddOne | print | get => exact Nat.zero_le 1

theorem Crossing.length_told_le {kind : ResultKind} (crossing : Crossing kind) (status : Status)
    (result : kind.Result) : (crossing.told status result).length ≤ 1 := by
  cases status with
  | ok => exact crossing.length_happenings_le result
  | allocationFailed | disposedHandle | marshalFailed | absentValue | nativePanic =>
      exact Nat.zero_le 1

theorem Proxy.length_parting_le (proxy : Proxy) : proxy.parting.length ≤ 1 := by
  rw [parting]
  split <;> simp

theorem Dynamic.length_happenings_le (name : String) (args : List Value) (value : Value) :
    (Dynamic.happenings name args value).length ≤ 1 := by
  rw [happenings]
  cases Export.ofName? name with
  | none => exact Nat.zero_le 1
  | some target =>
      rw [Option.toList_some, List.flatMap_singleton]
      unfold told
      split <;> simp

theorem ManagedCall.length_happenings_le (call : ManagedCall α) (value : α) :
    (call.happenings value).length ≤ 1 := by
  cases call with
  | maybeMake name =>
      rw [happenings, List.length_map]
      cases value.content <;> simp
  | dispose proxy => exact proxy.length_parting_le
  | byName name args => exact Dynamic.length_happenings_le name args value
  | make | duplicate | increment | addTo => exact Nat.le_refl 1
  | hello | printNumber | add | concat | concatLent | printCopy | printLength | getNumbers
  | maybeAddOne | handle | print | get => exact Nat.zero_le 1

/-- An operation tells of one happening at most. -/
theorem Operation.length_told_le (operation : Operation α) (answer : α) :
    (operation.told answer).length ≤ 1 := by
  cases operation with
  | cross crossing place => exact crossing.length_told_le answer.1 _
  | manage call =>
      cases answer with
      | ok value => exact call.length_happenings_le value
      | error error => exact Nat.zero_le 1
  | drop proxy => exact proxy.length_parting_le
  | takeLastError => exact Nat.zero_le 1
  | aside other =>
      obtain htold | htold := other.told_eq <;> rw [told, htold]
      · exact Nat.zero_le 1
      · exact Nat.le_refl 1

/-! ## Machines -/

namespace Machine

variable {Name : Type}

/-- The trail in the log of the process. -/
def trail (machine : Machine Name) : List Log.Event :=
  machine.process.journal.trail

variable [DecidableEq Name]

theorem trail_perform (machine : Machine Name) (name : Name) (operation : Operation α) :
    (machine.perform name operation).2.trail = machine.trail ++
      (operation.told (machine.perform name operation).1).flatMap
        machine.process.ledger.entries :=
  operation.reports_run (machine.seenBy name)

/-- The trail grows by the entries of the turn that the ledger takes. -/
theorem booked_perform (machine : Machine Name) (name : Name) (operation : Operation α) :
    ∃ rest, (machine.perform name operation).2.trail = machine.trail ++ rest ∧
      Ledger.Booked machine.process.ledger
        (operation.told (machine.perform name operation).1) rest
        (machine.perform name operation).2.process.ledger :=
  ⟨_, machine.trail_perform name operation,
    (machine.turns_perform name operation).booked (operation.length_told_le _)⟩

/-- The trail after some turns has come of what the ledger did in them. -/
theorem booked_after (machine : Machine Name) (moves : List (Move Name)) :
    ∃ rest, (machine.after moves).trail = machine.trail ++ rest ∧
      Ledger.Booked machine.process.ledger (machine.history moves) rest
        (machine.after moves).process.ledger := by
  induction moves generalizing machine with
  | nil => exact ⟨[], (List.append_nil _).symm, .refl _⟩
  | cons move rest ih =>
      obtain ⟨first, hfirst, hperformed⟩ := machine.booked_perform move.thread move.operation
      obtain ⟨second, hsecond, hrest⟩ := ih (machine.step move)
      refine ⟨first ++ second, ?_, hperformed.trans hrest⟩
      calc
        ((machine.step move).after rest).trail = (machine.step move).trail ++ second := hsecond
        _ = machine.trail ++ first ++ second := congrArg (· ++ second) hfirst
        _ = machine.trail ++ (first ++ second) := List.append_assoc ..

/-- The trail of a machine that began afresh audits its ledger. -/
theorem audited_after (moves : List (Move Name))
    (hroom : (({} : Machine Name).after moves).process.tally.handlesAllocated < UInt64.size) :
    (({} : Machine Name).after moves).process.ledger.Audited
      (({} : Machine Name).after moves).trail := by
  obtain ⟨rest, htrail, hbooked⟩ := ({} : Machine Name).booked_after moves
  rw [htrail]
  exact hbooked.audited Ledger.tracks_fresh Ledger.audited_fresh hroom

/-- The trail of a machine is an account of its handles. -/
structure Audited (machine : Machine Name) : Prop where
  /-- The allocations name all handles that there have been, one after another from one on. -/
  allocations : Log.allocatedIn machine.trail =
    List.range' 1 machine.process.tally.handlesAllocated
  /-- No handle is named by two releases. -/
  releases : (Log.releasedIn machine.trail).Nodup
  /-- Every release names a handle that an earlier allocation named. -/
  follow : Log.ReleasesFollow machine.trail
  /-- What was allocated and not released, and was not left when all handles ended, is live. -/
  balance : (Log.allocatedIn machine.trail).length = (Log.releasedIn machine.trail).length +
    (Log.leakedIn machine.trail).sum + machine.process.objects.live
  /-- Every operation adds to the trail what its answer tells of, with the number of objects
  that are live right after it.  One that fails adds nothing. -/
  grows : ∀ {α : Type} (name : Name) (operation : Operation α),
    let performed := machine.perform name operation
    ∃ added, performed.2.trail = machine.trail ++ added ∧
      Ledger.Adds machine.process.objects performed.2.process.objects
        (operation.told performed.1) added ∧
      (operation.Fails performed.1 → added = [])

/-- However a process has run that began afresh, the trail in its log is an account of its
handles. -/
theorem trail_audits_handles (moves : List (Move Name))
    (hroom : (({} : Machine Name).after moves).process.tally.handlesAllocated < UInt64.size) :
    (({} : Machine Name).after moves).Audited := by
  have htracks := tracks_after moves hroom
  have haudited := audited_after moves hroom
  have hkind := kind_after moves
  generalize ({} : Machine Name).after moves = machine at htracks haudited hkind ⊢
  constructor
  case allocations => exact haudited.allocated
  case releases => exact haudited.once
  case follow => exact haudited.follow
  case balance => exact haudited.balance
  case grows =>
    intro α name operation performed
    have hadds := (machine.turns_perform name operation).adds htracks hkind
      (operation.length_told_le _)
    refine ⟨_, machine.trail_perform name operation, hadds, fun hfails => ?_⟩
    rw [Operation.told_of_fails hfails]
    rfl

/-- One object is made and copied, the first is released once more than there is something to
release, and the copy is left at the end. -/
theorem trail_audits_handles_to_the_end :
    let machine := ({} : Machine Unit).after
      [⟨(), .cross .make (some .null)⟩, ⟨(), .cross (.duplicate ⟨1⟩) (some .null)⟩,
        ⟨(), .cross (.free ⟨1⟩) none⟩, ⟨(), .cross (.free ⟨1⟩) none⟩, ⟨(), .aside .shutdown⟩]
    machine.process.tally.handlesAllocated < UInt64.size ∧
      machine.trail = [.allocated className ⟨1⟩ 1, .allocated className ⟨2⟩ 2,
        .released className ⟨1⟩ 1, .leaked 1] ∧
      machine.Audited := by
  intro machine
  have hroom : machine.process.tally.handlesAllocated < UInt64.size := by decide
  exact ⟨hroom, by decide, trail_audits_handles _ hroom⟩

end Machine

end InteropBridge
