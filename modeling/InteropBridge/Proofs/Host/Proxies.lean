import InteropBridge.Proofs.Host.Ownership

/-!
# What proxies can rely on

The handle of a proxy that was not disposed of is live, so its calls succeed.  One
that was disposed of answers for itself without crossing the boundary.  When the host
drops all its proxies, the loose handles are what is left.
-/

namespace InteropBridge

open Attempt

/-- The computation ends in a value. -/
def Attempt.Succeeds {α : Type} (body : Attempt α) (context : Context) : Prop :=
  ∃ value after, body.run.run context = (.ok value, after)

theorem Managed.succeeds_ask {kind : ResultKind} {crossing : Crossing kind} {handle : Handle}
    {context : Context} {object : Int32} (hsubject : crossing.subject? = some handle)
    (hfind : context.process.objects.find handle = .ok object)
    (hspace : crossing.HasRoom context.process) : (ask crossing).Succeeds context := by
  have hentered : (crossing.entered context).process.objects.find handle = .ok object := hfind
  obtain ⟨result, after, hrun⟩ := Crossing.run_of_find_ok hsubject hentered hspace
  refine ⟨result, crossing.returned after, ?_⟩
  rw [run_ask, Crossing.attempt_true, hrun]

namespace Proxy

/-- The calls that a proxy makes on its object succeed. -/
structure Works (proxy : Proxy) (context : Context) : Prop where
  print : proxy.print.Succeeds context
  increment : proxy.increment.Succeeds context
  add : ∀ amount, (proxy.add amount).Succeeds context
  get : proxy.get.Succeeds context

theorem succeeds_ask {kind : ResultKind} {proxy : Proxy} (hproxy : proxy.isDisposed = false)
    {context : Context} {object : Int32}
    (hfind : context.process.objects.find proxy.raw = .ok object)
    {crossing : Handle → Crossing kind}
    (hsubject : (crossing proxy.raw).subject? = some proxy.raw)
    (hspace : (crossing proxy.raw).HasRoom context.process) :
    (proxy.ask crossing).Succeeds context := by
  rw [ask_of_not_disposed hproxy]
  exact Managed.succeeds_ask hsubject hfind hspace

theorem works_of_find {proxy : Proxy} (hproxy : proxy.isDisposed = false) {context : Context}
    {object : Int32} (hfind : context.process.objects.find proxy.raw = .ok object) :
    proxy.Works context where
  print := succeeds_ask hproxy hfind rfl nofun
  increment := succeeds_ask hproxy hfind rfl nofun
  add _ := succeeds_ask hproxy hfind rfl nofun
  get := succeeds_ask hproxy hfind rfl nofun

end Proxy

namespace Host

/-! ## Dropping all proxies -/

theorem turns_dropEach (slots : List (String × Proxy)) (state : State) :
    Ledger.Turns state.ledger ((handlesIn slots).map .released)
      ((do
        for (_, proxy) in slots do
          native proxy.drop : Script Unit).run state).2.ledger := by
  induction slots generalizing state with
  | nil => exact .refl _
  | cons entry rest ih =>
      have hdrop := entry.2.records_drop state.context
      rw [entry.2.parting_eq] at hdrop
      have hrest := ih ((native entry.2.drop).run state).2
      have hreleased : (handlesIn (entry :: rest)).map Happening.released =
          entry.2.owned.map .released ++ (handlesIn rest).map .released := List.map_append
      rw [List.forIn_cons, hreleased]
      exact hdrop.trans hrest

theorem slots_dropEach (slots : List (String × Proxy)) (state : State) :
    ((do
      for (_, proxy) in slots do
        native proxy.drop : Script Unit).run state).2.slots = state.slots := by
  induction slots generalizing state with
  | nil => rfl
  | cons entry rest ih =>
      rw [List.forIn_cons]
      exact ih ((native entry.2.drop).run state).2

theorem issuedIn_released (gone : List Handle) : issuedIn (gone.map .released) = [] := by
  rw [issuedIn, List.filterMap_map]
  exact List.filterMap_eq_nil_iff.mpr fun _ _ => rfl

/-- Dropping all proxies leaves the loose handles. -/
theorem held_dropAll {past : List Happening} {loose : List Handle} {state : State}
    (hheld : Held past loose state) (hroom : state.ledger.allocated < UInt64.size) :
    (dropAll.run state).2.ledger.allocated < UInt64.size ∧
      (dropAll.run state).2.slots = [] ∧
      ∃ later, Held (past ++ later) loose (dropAll.run state).2 := by
  let slots := state.slots.mergeSort fun left right => left.1 ≤ right.1
  have hturns : Ledger.Turns state.ledger ((handlesIn slots).map .released)
      (dropAll.run state).2.ledger := turns_dropEach slots { state with slots := [] }
  have hempty : (dropAll.run state).2.slots = [] :=
    slots_dropEach slots { state with slots := [] }
  have hafter : (dropAll.run state).2.ledger.allocated < UInt64.size := by
    rw [hturns.allocated_eq, issuedIn_released]
    exact hroom
  have hsorted : (state.owned ++ loose).Perm (handlesIn slots ++ loose) :=
    ((List.mergeSort_perm state.slots _).symm.flatMap_right _).append_right loose
  have hsettled := settleAll_perm hsorted ((handlesIn slots).map .released)
  rw [settleAll_released_append (hsorted.nodup_iff.mp hheld.nodup)] at hsettled
  refine ⟨hafter, hempty, _, hheld.of_turns hafter hturns ?_ ?_⟩
  · rw [hempty]
    exact List.nodup_nil
  · rw [State.owned, hempty]
    exact hsettled.symm

/-! ## Runs of a fresh process -/

theorem held_after {files : FileTree} {directory : Place} {steps : List Step}
    (hrespects : RespectsAll (.fresh files directory) steps)
    (hroom : ((State.fresh files directory).after steps).ledger.allocated < UInt64.size) :
    Held (recordAll (.fresh files directory) steps) (looseAll (.fresh files directory) [] steps)
      ((State.fresh files directory).after steps) :=
  held_runAll steps (Held.fresh files directory) hrespects hroom

theorem Held.works {past : List Happening} {loose : List Handle} {state : State}
    (hheld : Held past loose state) (hroom : state.ledger.allocated < UInt64.size)
    {slot : String} {proxy : Proxy} (hentry : (slot, proxy) ∈ state.slots)
    (hproxy : proxy.isDisposed = false) (thread : Thread) :
    proxy.Works ⟨state.context.process, thread⟩ := by
  have howned : proxy.raw ∈ state.owned := by
    refine List.mem_flatMap.mpr ⟨(slot, proxy), hentry, ?_⟩
    rw [Proxy.owned_eq hproxy]
    exact List.mem_singleton.mpr rfl
  obtain ⟨object, hfind⟩ := (hheld.mem_iff_find hroom).mp (List.mem_append_left _ howned)
  exact Proxy.works_of_find hproxy hfind

theorem Held.contains_iff {past : List Happening} {loose : List Handle} {state : State}
    (hheld : Held past loose state) (hroom : state.ledger.allocated < UInt64.size)
    (handle : Handle) :
    state.context.process.objects.contains handle = true ↔
      handle ∈ state.owned ∨ handle ∈ loose := by
  rw [← List.mem_append, hheld.mem_iff_find hroom]
  exact HandleTable.contains_iff_find

/-- In a respectful run of a fresh process, proxies own distinct handles, the live
handles are exactly those and the loose ones, and no handle is both.  So the calls of
a proxy that was not disposed of succeed on any thread, one that was disposed of
refuses them without crossing, and after all proxies were dropped exactly the loose
handles are live.  The run must not use up the numbers of handles: the next one after
the last is null. -/
theorem proxy_ownership (files : FileTree) (directory : Place) (steps : List Step)
    (hrespects : RespectsAll (.fresh files directory) steps)
    (hroom : ((State.fresh files directory).after
      steps).context.process.tally.handlesAllocated < UInt64.size) :
    let start := State.fresh files directory
    let state := start.after steps
    let loose := looseAll start [] steps
    let left := (dropAll.run state).2
    state.owned.Nodup ∧
    loose.Nodup ∧
    (∀ handle ∈ state.owned, handle ∉ loose) ∧
    (∀ handle, state.context.process.objects.contains handle = true ↔
      handle ∈ state.owned ∨ handle ∈ loose) ∧
    (∀ slot proxy, (slot, proxy) ∈ state.slots → proxy.isDisposed = false →
      ∀ thread, proxy.Works ⟨state.context.process, thread⟩) ∧
    (∀ slot proxy, (slot, proxy) ∈ state.slots → proxy.isDisposed = true →
      ∀ (kind : ResultKind) (crossing : Handle → Crossing kind) (context : Context),
        (proxy.ask crossing).run.run context =
          (.error (.disposedHandle proxy.raw), context)) ∧
    (Objects.live.run left.context).1 = loose.length ∧
    ∀ handle, left.context.process.objects.contains handle = true ↔ handle ∈ loose := by
  intro start state loose left
  have hheld : Held (recordAll start steps) loose state := held_after hrespects hroom
  obtain ⟨hleftRoom, hempty, later, hleft⟩ := held_dropAll hheld hroom
  obtain ⟨howned, hloose, hdisjoint⟩ := List.nodup_append.mp hheld.nodup
  have hnone : left.owned = [] := by
    rw [State.owned, hempty]
    rfl
  refine ⟨howned, hloose, ?_, hheld.contains_iff hroom, ?_, ?_, ?_, ?_⟩
  · intro handle hmem hagain
    exact hdisjoint handle hmem handle hagain rfl
  · intro slot proxy hentry hproxy thread
    exact hheld.works hroom hentry hproxy thread
  · intro slot proxy hentry hproxy kind crossing context
    exact Proxy.run_ask_of_disposed hproxy crossing context
  · have hlive : left.ledger.objects.live = left.ledger.objects.keys.length := hleft.tracks.live
    have hlength := hleft.handles.length_eq
    rw [hnone, List.nil_append, Ledger.handles, List.length_map] at hlength
    exact hlive.trans hlength.symm
  · intro handle
    rw [hleft.contains_iff hleftRoom handle, hnone]
    simp

/-- The steps of a host that disposes of a copy, has another proxy adopt the handle of
the original, and keeps a handle that a call returned. -/
def passingOn : List Step :=
  [.make "a", .proxy "a" (.duplicate "b"), .proxy "a" .giveUp, .crossing .make .null true,
    .adopt "c" ⟨1⟩, .proxy "b" .dispose]

theorem respects_passingOn : RespectsAll (.fresh {} []) passingOn :=
  ⟨trivial, trivial, trivial, nofun, ⟨by decide +kernel, by decide +kernel⟩, trivial, trivial⟩

theorem proxy_ownership_passingOn :
    RespectsAll (.fresh {} []) passingOn ∧
    ((State.fresh {} []).after passingOn).context.process.tally.handlesAllocated < UInt64.size ∧
    (Objects.live.run (dropAll.run ((State.fresh {} []).after passingOn)).2.context).1 = 1 := by
  have hroom : ((State.fresh {} []).after passingOn).context.process.tally.handlesAllocated <
      UInt64.size := by
    decide +kernel
  have hloose : looseAll (.fresh {} []) [] passingOn = [⟨3⟩] := by
    decide +kernel
  obtain ⟨-, -, -, -, -, -, hlive, -⟩ :=
    proxy_ownership {} [] passingOn respects_passingOn hroom
  rw [hloose] at hlive
  exact ⟨respects_passingOn, hroom, hlive⟩

end Host

end InteropBridge
