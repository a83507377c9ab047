import InteropBridge.Proofs.Host.History

/-!
# Handle accounting

Four things are said about live handles: how many were allocated, how many were
released, how many the table counts, and how many entries it has.  Over any run
of a fresh process they agree, and shutting down settles them all at once.
-/

namespace InteropBridge

/-- The counts of handles, the count of the table and its entries agree. -/
structure Process.Balanced (process : Process) : Prop where
  released_le : process.tally.handlesReleased ≤ process.tally.handlesAllocated
  allocated_eq : process.tally.handlesAllocated =
    process.tally.handlesReleased + process.objects.entries.length
  handlesLive_eq : process.tally.handlesLive = process.objects.entries.length
  live_eq : ∀ thread : Thread,
    (Objects.live.run ⟨process, thread⟩).1 = process.objects.entries.length

theorem Ledger.Tracks.balanced {history : List Happening} {process : Process}
    (htracks : Tracks history process.ledger) : process.Balanced := by
  have hbalance : process.tally.handlesAllocated =
      process.tally.handlesReleased + process.objects.keys.length := htracks.balance
  have hlive : process.objects.live = process.objects.keys.length := htracks.live
  rw [HandleTable.length_keys] at hbalance hlive
  refine ⟨?_, hbalance, ?_, fun thread => hlive⟩
  · rw [hbalance]
    exact Nat.le_add_right _ _
  · rw [Tally.handlesLive, hbalance, Nat.add_sub_cancel_left]

theorem Objects.ledger_shutdown (context : Context) :
    (shutdown.run context).2.process.ledger = context.process.ledger.clear := by
  rw [run_shutdown]
  split <;> rfl

namespace Host

/-- After any steps of a fresh process its counts of handles agree with the entries of
its table.  Shutting down then returns how many there were and leaves none, and the
next handle is the one it would have been. -/
theorem handle_accounting (files : FileTree) (directory : Place) (steps : List Step)
    (hroom : ((State.fresh files directory).after
      steps).context.process.tally.handlesAllocated < UInt64.size) :
    let process := ((State.fresh files directory).after steps).context.process
    process.Balanced ∧
      ∀ thread : Thread,
        let ended := (Objects.shutdown.run ⟨process, thread⟩).2.process
        (Objects.shutdown.run ⟨process, thread⟩).1 = process.objects.entries.length ∧
        ended.Balanced ∧
        ended.tally.handlesLive = 0 ∧
        ended.objects.entries = [] ∧
        ended.objects.next = process.objects.next := by
  intro process
  have htracks : Ledger.Tracks (recordAll (.fresh files directory) steps) process.ledger :=
    tracks_after files directory steps hroom
  refine ⟨htracks.balanced, fun thread => ?_⟩
  intro ended
  have hledger : ended.ledger = process.ledger.clear :=
    Objects.ledger_shutdown ⟨process, thread⟩
  have hobjects : ended.objects = process.objects.clear.2 :=
    congrArg Ledger.objects hledger
  have hended : ended.Balanced := by
    have hcleared := htracks.clear
    rw [← hledger] at hcleared
    exact hcleared.balanced
  have hentries : ended.objects.entries = [] := by
    rw [hobjects]
    rfl
  have hnext : ended.objects.next = process.objects.next := by
    rw [hobjects]
    rfl
  have hcount : (Objects.shutdown.run ⟨process, thread⟩).1 =
      process.objects.entries.length := by
    rw [Objects.run_shutdown]
    rfl
  have hnone : ended.tally.handlesLive = 0 := by
    rw [hended.handlesLive_eq, hentries, List.length_nil]
  exact ⟨hcount, hended, hnone, hentries, hnext⟩

/-- One of two objects is released, and shutting down ends the other. -/
theorem handle_accounting_two_objects :
    ((State.fresh {} []).after [.make "a", .crossing .make .null true,
      .proxy "a" .drop]).context.process.tally.handlesAllocated < UInt64.size ∧
    (Objects.shutdown.run ⟨((State.fresh {} []).after [.make "a",
      .crossing .make .null true, .proxy "a" .drop]).context.process, {}⟩).1 = 1 := by
  have hroom : ((State.fresh {} []).after [.make "a", .crossing .make .null true,
      .proxy "a" .drop]).context.process.tally.handlesAllocated < UInt64.size := by
    decide
  obtain ⟨-, hshutdown⟩ := handle_accounting {} [] _ hroom
  obtain ⟨hcount, -⟩ := hshutdown {}
  exact ⟨hroom, hcount⟩

end Host

end InteropBridge
