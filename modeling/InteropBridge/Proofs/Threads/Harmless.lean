import InteropBridge.Proofs.Threads.Life

/-!
# Stale proxies are harmless

Whatever the threads of a process do while a proxy exists, and be it that they free its handle
behind its back or end everything, the proxy does no harm.  It asks for one release at most,
and by the end of its life for exactly one unless it gives the handle up.  That ends the object
the proxy was made for or nothing at all, since the handle is never issued again.  A release
that comes too late is an error only for who disposes of the proxy, the first time, and only if
the policy says so.
-/

namespace InteropBridge

/-- What the owner of a proxy can do with it: a use, and in the end a drop.  A proxy that gives
its handle up is dropped too, as one that is disposed. -/
inductive Proxy.Owns (proxy : Proxy) : {α : Type} → Operation α → Prop
  | use {α : Type} (use : Use α) : Owns proxy (.manage (use.call proxy))
  | drop : Owns proxy (.drop proxy)
  | giveUp : Owns proxy (.drop proxy.disposed)

namespace Machine

variable {Name : Type} [DecidableEq Name]

/-! ## How a proxy comes about -/

/-- A proxy comes about on a machine, which goes on from there: one is made for a new object
or for a copy, or adopts a live handle. -/
inductive Brings (machine : Machine Name) : Proxy → Machine Name → Prop
  | made {name : Name} {proxy : Proxy}
      (hmade : (machine.perform name (.manage .make)).1 = .ok proxy) :
      Brings machine proxy (machine.perform name (.manage .make)).2
  | copied {name : Name} {source copy : Proxy}
      (hcopied : (machine.perform name (.manage (.duplicate source))).1 = .ok copy) :
      Brings machine copy (machine.perform name (.manage (.duplicate source))).2
  | named {name : Name} {text : ManagedOptional ManagedText} {proxy : Proxy}
      (hnamed : (machine.perform name (.manage (.maybeMake text))).1 = .ok ⟨some proxy⟩) :
      Brings machine proxy (machine.perform name (.manage (.maybeMake text))).2
  | adopted {handle : Handle} (hlive : machine.process.objects.contains handle = true) :
      Brings machine (.adopt handle) machine

variable {moves : List (Move Name)} {machine : Machine Name} {proxy : Proxy} {α : Type}

/-- The machine that a proxy comes about on has a run behind it. -/
theorem Brings.exists_after (hbrings : (({} : Machine Name).after moves).Brings proxy machine) :
    ∃ past, machine = ({} : Machine Name).after past := by
  have hsnoc (move : Move Name) :
      (({} : Machine Name).after moves).step move = ({} : Machine Name).after (moves ++ [move]) :=
    (after_append _ moves [move]).symm
  cases hbrings with
  | @made name _ hmade => exact ⟨_, hsnoc ⟨name, .manage .make⟩⟩
  | @copied name source _ hcopied => exact ⟨_, hsnoc ⟨name, .manage (.duplicate source)⟩⟩
  | @named name text _ hnamed => exact ⟨_, hsnoc ⟨name, .manage (.maybeMake text)⟩⟩
  | adopted hlive => exact ⟨moves, rfl⟩

/-- A handle is live once its issue was told. -/
theorem contains_of_told {name : Name} {operation : Operation α} {answer : α}
    (hanswer : ((({} : Machine Name).after moves).perform name operation).1 = answer)
    {issue : Happening} (htold : operation.told answer = [issue]) {handle : Handle}
    (hissue : issue.issued? = some handle)
    (hroom : ((({} : Machine Name).after moves).perform name
      operation).2.process.tally.handlesAllocated < UInt64.size) :
    ((({} : Machine Name).after moves).perform name operation).2.process.objects.contains
      handle = true := by
  have hturns := (({} : Machine Name).turns_after moves).trans
    ((({} : Machine Name).after moves).turns_perform name operation)
  rw [hanswer, htold] at hturns
  have hlive : LiveIn (({} : Machine Name).history moves ++ [issue]) handle :=
    (liveIn_append_singleton _ issue handle).mpr (.inl hissue)
  exact HandleTable.contains_iff_find.mpr ((hturns.tracks hroom).find_of_liveIn hroom hlive)

/-- A proxy begins its life with a handle that is live. -/
theorem Brings.live (hbrings : (({} : Machine Name).after moves).Brings proxy machine)
    (hroom : machine.process.tally.handlesAllocated < UInt64.size) :
    proxy.isDisposed = false ∧ machine.process.objects.contains proxy.raw = true := by
  cases hbrings with
  | @made name _ hmade =>
      have hfresh := Proxy.ends_make ((({} : Machine Name).after moves).seenBy name)
      have hresult : (Proxy.make.run.run
        ((({} : Machine Name).after moves).seenBy name)).1 = .ok proxy := hmade
      rw [hresult] at hfresh
      exact ⟨hfresh, contains_of_told hmade rfl rfl hroom⟩
  | @copied name source _ hcopied =>
      have hfresh := source.ends_duplicate ((({} : Machine Name).after moves).seenBy name)
      have hresult : (source.duplicate.run.run
        ((({} : Machine Name).after moves).seenBy name)).1 = .ok proxy := hcopied
      rw [hresult] at hfresh
      exact ⟨hfresh, contains_of_told hcopied rfl rfl hroom⟩
  | @named name text _ hnamed =>
      have hfresh := Library.ends_maybeMake text ((({} : Machine Name).after moves).seenBy name)
      have hresult : ((Library.maybeMake text).run.run
        ((({} : Machine Name).after moves).seenBy name)).1 = .ok ⟨some proxy⟩ := hnamed
      rw [hresult] at hfresh
      exact ⟨hfresh proxy rfl, contains_of_told hnamed rfl rfl hroom⟩
  | adopted hlive => exact ⟨rfl, hlive⟩

/-! ## Calls of the export that frees handles -/

/-- What is asked for over a life, up to some point and at its end. -/
structure AsksOnce (machine : Machine Name) (proxy : Proxy) (deeds : List (Deed Name)) :
    Prop where
  /-- The export was called once if the owner has disposed of the proxy, and else not at all. -/
  before : machine.freesIn proxy deeds = if deeds.any (·.isDisposal) then 1 else 0
  /-- A drop at the end makes it one call in any case. -/
  dropped : ∀ thread, machine.freesIn proxy deeds +
    (machine.after (proxy.moves deeds)).frees ⟨thread, .drop (proxy.after deeds)⟩ = 1
  /-- Giving the handle up adds none. -/
  givenUp : ∀ thread, (machine.after (proxy.moves deeds)).frees
    ⟨thread, .drop (proxy.after deeds).disposed⟩ = 0

theorem frees_drop (machine : Machine Name) (thread : Name) (proxy : Proxy) :
    machine.frees ⟨thread, .drop proxy⟩ = if proxy.isDisposed then 0 else 1 := by
  rw [frees_eq, Operation.target?]
  cases proxy.isDisposed <;> rfl

theorem asksOnce (machine : Machine Name) (hproxy : proxy.isDisposed = false)
    (deeds : List (Deed Name)) : machine.AsksOnce proxy deeds := by
  have hfrees : machine.freesIn proxy deeds = if deeds.any (·.isDisposal) then 1 else 0 := by
    rw [freesIn_eq, hproxy]
    exact if_congr (and_iff_right rfl) rfl rfl
  refine ⟨hfrees, fun thread => ?_, fun thread => frees_drop _ thread _⟩
  rw [hfrees, frees_drop, Proxy.isDisposed_after, hproxy, Bool.false_or]
  cases deeds.any (·.isDisposal) <;> rfl

/-! ## What the call does -/

/-- Between two machines nothing became of handles and objects, except that the given handle
has ended if it was live. -/
structure EndsOnly (handle : Handle) (before after : Machine Name) : Prop where
  others : ∀ other, other ≠ handle →
    after.process.objects.find other = before.process.objects.find other
  ended : before.process.objects.contains handle = true →
    after.process.objects.contains handle = false ∧
      after.process.ledger = before.process.ledger.release handle
  gone : before.process.objects.contains handle = false →
    after.process.ledger = before.process.ledger

omit [DecidableEq Name] in
theorem endsOnly_of_ledger {handle : Handle} {before after : Machine Name}
    (hhandle : handle ≠ .null)
    (hledger : after.process.ledger = before.process.ledger.freed handle) :
    EndsOnly handle before after := by
  have hobjects : after.process.objects = (before.process.ledger.freed handle).objects :=
    congrArg Ledger.objects hledger
  constructor
  case others =>
    intro other hother
    rw [hobjects]
    exact Ledger.find_freed_of_ne hother
  case ended =>
    intro hlive
    rw [hobjects, hledger]
    exact ⟨Ledger.not_contains_freed hhandle, if_pos hlive⟩
  case gone =>
    intro hgone
    rw [hledger]
    exact Ledger.freed_of_gone hgone

/-- What the proxy can do where it is, whoever has done what before. -/
structure Harmless (machine : Machine Name) (proxy : Proxy) : Prop where
  /-- Where it calls the export that frees handles, its own handle ends or none. -/
  releases : ∀ {α : Type} (thread : Name) (operation : Operation α), proxy.Owns operation →
    machine.frees ⟨thread, operation⟩ ≠ 0 →
    EndsOnly proxy.raw machine (machine.step ⟨thread, operation⟩)
  /-- If the handle is gone, the first disposal answers by the policy for repeated releases. -/
  firstDisposal : proxy.isDisposed = false →
    machine.process.objects.contains proxy.raw = false →
    ∀ thread, (machine.perform thread (.manage (.dispose proxy))).1 =
      match machine.process.settings.handles.doubleRelease with
      | .ignore => .ok ()
      | .report => .error (.disposedHandle proxy.raw)
  /-- Every later one succeeds and does nothing at all. -/
  laterDisposal : proxy.isDisposed = true → ∀ thread,
    machine.perform thread (.manage (.dispose proxy)) = (.ok (), machine)
  /-- A drop leaves no error to its thread. -/
  quiet : ∀ thread, ((machine.step ⟨thread, .drop proxy⟩).threads thread).lastError =
    if proxy.isDisposed then (machine.threads thread).lastError else none

/-- A turn of the owner that calls the export does to the ledger what a release does. -/
theorem ledger_of_frees {thread : Name} {operation : Operation α} (howns : proxy.Owns operation)
    (hfrees : machine.frees ⟨thread, operation⟩ ≠ 0) :
    (machine.step ⟨thread, operation⟩).process.ledger =
      machine.process.ledger.freed proxy.raw := by
  have htarget : operation.target? = some .free := by
    rw [frees_eq] at hfrees
    exact (ite_ne_right_iff.mp hfrees).1
  cases howns with
  | use use =>
      obtain ⟨hproxy, hdisposal⟩ := (use.target?_eq_free_iff proxy).mp htarget
      cases use with
      | dispose => exact Proxy.ledger_dispose hproxy (machine.seenBy thread)
      | handle | print | increment | addTo | get | printCopy | duplicate => cases hdisposal
  | drop =>
      have hproxy : proxy.isDisposed = false := by
        by_contra hdisposed
        rw [frees_drop, if_pos (Bool.of_not_eq_false hdisposed)] at hfrees
        exact hfrees rfl
      exact Proxy.ledger_drop hproxy (machine.seenBy thread)
  | giveUp => exact absurd (frees_drop machine thread proxy.disposed) hfrees

theorem harmless (machine : Machine Name) (hraw : proxy.raw ≠ .null) :
    machine.Harmless proxy := by
  constructor
  case releases =>
    intro α thread operation howns hfrees
    exact endsOnly_of_ledger hraw (ledger_of_frees howns hfrees)
  case firstDisposal =>
    intro hproxy hgone thread
    have hseen : (machine.seenBy thread).process.objects.contains proxy.raw = false := hgone
    exact Proxy.dispose_of_gone hproxy hraw hseen
  case laterDisposal =>
    intro hproxy thread
    have hnothing : (Operation.manage (.dispose proxy)).run = pure (.ok ()) :=
      Proxy.dispose_of_disposed hproxy
    rw [perform, hnothing]
    exact congrArg (Prod.mk _) (machine.left_seenBy thread)
  case quiet =>
    intro thread
    have hlast := (Operation.drop proxy).lastError_run (machine.seenBy thread)
    rw [← seenBy_perform] at hlast
    refine hlast.trans ?_
    rw [Operation.mark]
    cases proxy.isDisposed <;> rfl

/-! ## Whole lives -/

/-- At every point in the life of a proxy, whatever the threads have done since it came about:
it stands for the handle that it was made for, which was not issued again; it asks for one
release in its life at most; and what it can still do is harmless. -/
theorem stale_proxies_harmless
    (hbrings : (({} : Machine Name).after moves).Brings proxy machine)
    (deeds : List (Deed Name))
    (hroom : (machine.after (proxy.moves deeds)).process.tally.handlesAllocated < UInt64.size) :
    (proxy.after deeds).raw = proxy.raw ∧
      proxy.raw ∉ issuedIn (machine.history (proxy.moves deeds)) ∧
      (proxy.after deeds).isDisposed = deeds.any (·.isDisposal) ∧
      machine.AsksOnce proxy deeds ∧
      (machine.after (proxy.moves deeds)).Harmless (proxy.after deeds) := by
  have hturns := machine.turns_after (proxy.moves deeds)
  have hbefore : machine.process.tally.handlesAllocated < UInt64.size :=
    Nat.lt_of_le_of_lt hturns.allocated_le hroom
  obtain ⟨hfresh, hlive⟩ := hbrings.live hbefore
  obtain ⟨past, rfl⟩ := hbrings.exists_after
  have hraw : (proxy.after deeds).raw ≠ .null := by
    obtain ⟨object, hfind⟩ := HandleTable.contains_iff_find.mp hlive
    rw [Proxy.raw_after]
    exact HandleTable.ne_null_of_find hfind
  have hdisposed := proxy.isDisposed_after deeds
  rw [hfresh, Bool.false_or] at hdisposed
  exact ⟨proxy.raw_after deeds, (tracks_after past hbefore).not_mem_issuedIn hroom hturns hlive,
    hdisposed, asksOnce _ hfresh deeds, harmless _ hraw⟩

/-- The handle of a proxy is freed behind its back and a new object is made.  The release that
the proxy asks for then fails, and the new object stays. -/
theorem stale_proxies_harmless_freed :
    let machine := (({} : Machine Bool).perform true (.manage .make)).2
    let deeds : List (Deed Bool) := [.other ⟨false, .cross (.free ⟨1⟩) none⟩,
      .other ⟨false, .cross .make (some .null)⟩]
    let now := machine.after (Proxy.moves (.adopt ⟨1⟩) deeds)
    (({} : Machine Bool).after []).Brings (.adopt ⟨1⟩) machine ∧
      now.process.tally.handlesAllocated < UInt64.size ∧
      (now.perform true (.manage (.dispose (.adopt ⟨1⟩)))).1 = .error (.disposedHandle ⟨1⟩) ∧
      (now.step ⟨true, .manage (.dispose (.adopt ⟨1⟩))⟩).process.objects.find ⟨2⟩ = .ok 0 := by
  intro machine deeds now
  have hbrings : (({} : Machine Bool).after []).Brings (.adopt ⟨1⟩) machine := .made rfl
  have hroom : now.process.tally.handlesAllocated < UInt64.size := by decide
  obtain ⟨-, -, -, -, hharmless⟩ := stale_proxies_harmless hbrings deeds hroom
  have hdispose := hharmless.firstDisposal rfl (by decide) true
  have hends := hharmless.releases true _ (.use .dispose) (by decide)
  have hother : now.process.objects.find ⟨2⟩ = .ok 0 := by decide
  exact ⟨hbrings, hroom, hdispose, (hends.others ⟨2⟩ (by decide)).trans hother⟩

end Machine

end InteropBridge
