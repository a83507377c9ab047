import InteropBridge.Proofs.Crossing.Subject
import InteropBridge.Proofs.Host.Custody
import InteropBridge.Proofs.Managed.Releasing

/-!
# Exact ownership

In a respectful run every live handle is looked after exactly once: it is owned by
one proxy, or it is loose.  Making, copying, adopting, giving up, disposing of and
dropping proxies keep it so, and so do calls of any other kind.
-/

namespace InteropBridge

open Attempt

namespace Host

theorem ends_presentProxy (name : Option ManagedText) :
    Ends (fun proxy => proxy.isDisposed = false) (fun _ => True) (presentProxy name) := by
  refine (Library.ends_maybeMake ⟨name⟩).bind fun made hcontent => ends_ofExcept ?_
  rcases made with ⟨_ | proxy⟩
  · trivial
  · exact hcontent proxy rfl

/-- The live handles are those that proxies in slots own and the loose ones, each once. -/
structure Held (past : List Happening) (loose : List Handle) (state : State) : Prop where
  tracks : Ledger.Tracks past state.ledger
  names : (state.slots.map (·.1)).Nodup
  handles : (state.owned ++ loose).Perm state.ledger.handles

theorem exists_of_mem_told {α : Type} {state : State} {body : Attempt α}
    {happenings : α → List Happening} {happening : Happening}
    (hmem : happening ∈ told state body happenings) :
    ∃ value, happening ∈ happenings value := by
  rw [told] at hmem
  cases hresult : (body.run.run state.context).1 with
  | ok value =>
      rw [hresult] at hmem
      exact ⟨value, hmem⟩
  | error error =>
      rw [hresult] at hmem
      cases hmem

theorem settleAll_told_added (live : List Handle) (state : State) (body : Attempt Unit)
    (handle : Handle) (amount : Int32) :
    settleAll live (told state body fun () => [.added handle amount]) = live := by
  rw [told]
  cases (body.run.run state.context).1 <;> rfl

namespace Held

variable {past history : List Happening} {loose : List Handle} {state after : State}
variable {slot : String}

theorem fresh (files : FileTree) (directory : Place) : Held [] [] (.fresh files directory) where
  tracks := Ledger.tracks_fresh
  names := List.nodup_nil
  handles := .refl _

theorem nodup (hheld : Held past loose state) : (state.owned ++ loose).Nodup :=
  hheld.handles.nodup_iff.mpr hheld.tracks.nodup_handles

theorem mem_iff_find (hheld : Held past loose state)
    (hroom : state.ledger.allocated < UInt64.size) {handle : Handle} :
    handle ∈ state.owned ++ loose ↔ ∃ object, state.ledger.objects.find handle = .ok object := by
  rw [hheld.handles.mem_iff, hheld.tracks.mem_handles_iff_find hroom]

theorem owned_perm (hheld : Held past loose state) (slot : String) :
    (state.owned ++ loose).Perm
      (state.ownedAt slot ++ (handlesIn (otherSlots slot state.slots) ++ loose)) := by
  rw [← List.append_assoc]
  exact (handlesIn_perm hheld.names slot).append_right loose

theorem mem_of_ownedAt (hheld : Held past loose state) {handle : Handle}
    (howned : handle ∈ state.ownedAt slot) : handle ∈ state.owned ++ loose :=
  (hheld.owned_perm slot).mem_iff.mpr (List.mem_append_left _ howned)

/-- What happens to the ledger decides what has to be looked after. -/
theorem of_turns (hheld : Held past loose state)
    (hroom : after.ledger.allocated < UInt64.size)
    (hturns : Ledger.Turns state.ledger history after.ledger)
    (hnames : (after.slots.map (·.1)).Nodup) {left : List Handle}
    (hperm : (after.owned ++ left).Perm (settleAll (state.owned ++ loose) history)) :
    Held (past ++ history) left after where
  tracks := hheld.tracks.turns hroom hturns
  names := hnames
  handles := by
    rw [hturns.handles_eq hheld.tracks hroom]
    exact hperm.trans (settleAll_perm hheld.handles history)

/-- Nothing has to be done where no slot changes and no handle comes or goes. -/
theorem of_same (hheld : Held past loose state)
    (hroom : after.ledger.allocated < UInt64.size)
    (hturns : Ledger.Turns state.ledger history after.ledger)
    (hslots : after.slots = state.slots)
    (hsettle : settleAll (state.owned ++ loose) history = state.owned ++ loose) :
    Held (past ++ history) loose after := by
  refine hheld.of_turns hroom hturns ?_ ?_
  · rw [hslots]
    exact hheld.names
  · rw [hsettle, State.owned, hslots]

/-- Letting go of what a slot holds leaves the other slots and the loose handles. -/
theorem settle_displaced (hheld : Held past loose state) (slot : String) :
    (settleAll (state.owned ++ loose) (displaced slot state)).Perm
      (handlesIn (otherSlots slot state.slots) ++ loose) := by
  have hperm := hheld.owned_perm slot
  have hnodup := hperm.nodup_iff.mp hheld.nodup
  have hsettled := settleAll_perm hperm (displaced slot state)
  rw [displaced_eq, settleAll_released_append hnodup] at hsettled
  rw [displaced_eq]
  exact hsettled

/-- A handle that came about was not looked after before. -/
theorem not_mem_of_issue (hheld : Held past loose state)
    (hroom : after.ledger.allocated < UInt64.size) {issue : Happening} {handle : Handle}
    (hissue : issue.issued? = some handle)
    (hturns : Ledger.Turns state.ledger (issue :: history) after.ledger) :
    handle ∉ state.owned ++ loose := by
  intro hmem
  have hissued : handle ∈ issuedIn (issue :: history) :=
    List.mem_filterMap.mpr ⟨issue, List.mem_cons_self .., hissue⟩
  rw [hheld.handles.mem_iff, Ledger.mem_handles, hheld.tracks.keys] at hmem
  have hnodup := (hheld.tracks.turns hroom hturns).nodup_issuedIn hroom
  rw [issuedIn_append, List.nodup_append] at hnodup
  exact hnodup.2.2 handle hmem.mem_issuedIn handle hissued rfl

/-- A new proxy in a slot owns the handle that came about, and what the slot held
before is let go of. -/
theorem put (hheld : Held past loose state) (hroom : after.ledger.allocated < UInt64.size)
    {proxy : Proxy} (hproxy : proxy.isDisposed = false) {issue : Happening}
    (hissue : issue.issued? = some proxy.raw)
    (hturns : Ledger.Turns state.ledger (issue :: displaced slot state) after.ledger)
    (hslots : after.slots = (slot, proxy) :: otherSlots slot state.slots) :
    Held (past ++ issue :: displaced slot state) loose after := by
  have hnew := hheld.not_mem_of_issue hroom hissue hturns
  refine hheld.of_turns hroom hturns ?_ ?_
  · rw [hslots]
    exact nodup_replaced hheld.names slot proxy
  · have hnotHeld : proxy.raw ∉ state.ownedAt slot := fun hmem => hnew (hheld.mem_of_ownedAt hmem)
    have hafter : after.owned = proxy.raw :: handlesIn (otherSlots slot state.slots) := by
      rw [State.owned, hslots]
      exact congrArg (· ++ handlesIn (otherSlots slot state.slots)) (Proxy.owned_eq hproxy)
    have hsettled := hheld.settle_displaced slot
    rw [displaced_eq] at hsettled ⊢
    rw [hafter, settleAll_cons, Happening.settle_issued hissue,
      settleAll_released_cons hnotHeld]
    exact (hsettled.cons proxy.raw).symm

/-- A call that brings a proxy is followed by storing it, and one that fails by
nothing. -/
theorem storeResult (hheld : Held past loose state) {body : Attempt Proxy}
    {issue : Proxy → Happening} (hissue : ∀ proxy, (issue proxy).issued? = some proxy.raw)
    (hrecords : Attempt.Records (fun proxy => [issue proxy]) body)
    (hends : Ends (fun proxy => proxy.isDisposed = false) (fun _ => True) body)
    (hroom : ((Host.storeResult slot body).run state).2.ledger.allocated < UInt64.size) :
    Held (past ++ told state body fun proxy => issue proxy :: displaced slot state) loose
      ((Host.storeResult slot body).run state).2 := by
  have hturns := turns_storeResult hrecords slot state
  have hfresh := hends state.context
  rw [told] at hturns ⊢
  rcases hrun : body.run.run state.context with ⟨error | proxy, after⟩
  · rw [hrun] at hturns
    exact hheld.of_same hroom hturns (slots_storeResult_error hrun slot) rfl
  · rw [hrun] at hturns hfresh
    exact hheld.put hroom hfresh (hissue proxy) hturns (slots_storeResult_ok hrun slot)

/-- A loose handle that is adopted passes from the host to the proxy. -/
theorem adopt (hheld : Held past loose state)
    (hroom : state.ledger.allocated < UInt64.size) {handle : Handle}
    (hlive : state.context.process.objects.contains handle = true)
    (hfree : handle ∉ state.owned)
    (hafter : ((store slot (.adopt handle)).run state).2.ledger.allocated < UInt64.size) :
    Held (past ++ displaced slot state) (loose.filter (· ≠ handle))
      ((store slot (.adopt handle)).run state).2 := by
  have hmem : handle ∈ state.owned ++ loose :=
    (hheld.mem_iff_find hroom).mpr (HandleTable.contains_iff_find.mp hlive)
  have hloose : handle ∈ loose := (List.mem_append.mp hmem).resolve_left hfree
  have hnodup : loose.Nodup := (List.nodup_append.mp hheld.nodup).2.1
  have hperm : loose.Perm (handle :: loose.filter (· ≠ handle)) := by
    have hfilter : loose.filter (· ≠ handle) = loose.erase handle := by
      rw [hnodup.erase_eq_filter]
      refine List.filter_congr fun other _ => ?_
      rw [bne, beq_eq_decide, decide_not]
    rw [hfilter]
    exact List.perm_cons_erase hloose
  have hslots := slots_store slot (.adopt handle) state
  refine hheld.of_turns hafter (turns_store slot _ state) ?_ ?_
  · rw [hslots]
    exact nodup_replaced hheld.names slot _
  · have howned : ((store slot (.adopt handle)).run state).2.owned =
        handle :: handlesIn (otherSlots slot state.slots) := by
      rw [State.owned, hslots]
      rfl
    rw [howned]
    have hmoved : List.Perm
        (handle :: (handlesIn (otherSlots slot state.slots) ++ loose.filter (· ≠ handle)))
        (handlesIn (otherSlots slot state.slots) ++ loose) :=
      List.perm_middle.symm.trans (hperm.symm.append_left _)
    exact hmoved.trans (hheld.settle_displaced slot).symm

/-- A proxy in a slot is disposed of without fail. -/
theorem told_dispose (hheld : Held past loose state)
    (hroom : state.ledger.allocated < UInt64.size) {proxy : Proxy}
    (hlookup : state.slots.lookup slot = some proxy) :
    told state proxy.dispose (fun () => proxy.parting) = proxy.parting := by
  rw [told, Proxy.dispose, Proxy.parting]
  cases hdisposed : proxy.isDisposed with
  | true => rfl
  | false =>
      have howned : proxy.raw ∈ state.ownedAt slot := by
        simp [State.ownedAt, hlookup, Proxy.owned, hdisposed]
      obtain ⟨object, hfind⟩ := (hheld.mem_iff_find hroom).mp (hheld.mem_of_ownedAt howned)
      obtain ⟨freed, hfree⟩ := Managed.exists_run_ask_free hfind
      change onSuccess _ ((Managed.ask (.free proxy.raw)).run.run state.context).1 = _
      rw [hfree]
      rfl

/-- What a slot held is let go of, and its place is taken by nothing that owns a
handle. -/
theorem clear (hheld : Held past loose state) (hroom : after.ledger.allocated < UInt64.size)
    (hturns : Ledger.Turns state.ledger (displaced slot state) after.ledger)
    {slots : List (String × Proxy)} (hslots : after.slots = slots)
    (hnames : (slots.map (·.1)).Nodup)
    (howned : handlesIn slots = handlesIn (otherSlots slot state.slots)) :
    Held (past ++ displaced slot state) loose after := by
  subst hslots
  refine hheld.of_turns hroom hturns hnames ?_
  rw [State.owned, howned]
  exact (hheld.settle_displaced slot).symm

/-- Work with a proxy keeps every live handle looked after. -/
theorem runProxy (hheld : Held past loose state) (task : ProxyTask)
    (hroom : ((Host.runProxy slot task).run state).2.ledger.allocated < UInt64.size) :
    Held (past ++ (Step.proxy slot task).record state)
      ((Step.proxy slot task).loose state loose) ((Host.runProxy slot task).run state).2 := by
  have hturns : Ledger.Turns state.ledger ((Step.proxy slot task).record state)
      ((Host.runProxy slot task).run state).2.ledger := turns_runProxy slot task state
  have hbefore := Nat.lt_of_le_of_lt hturns.allocated_le hroom
  cases hlookup : state.slots.lookup slot with
  | none =>
      have hrecord : (Step.proxy slot task).record state = [] := by
        rw [Step.record, hlookup]
        rfl
      have hloose : (Step.proxy slot task).loose state loose = loose := by
        cases task with
        | giveUp =>
            rw [Step.loose, State.ownedAt, hlookup]
            rfl
        | _ => rfl
      have hrun : ((Host.runProxy slot task).run state).2 = state := by
        rw [Host.runProxy, run_bind, run_inSlot?, hlookup]
        cases task <;> rfl
      rw [hrecord, hloose, hrun, List.append_nil]
      exact hheld
  | some proxy =>
      have hdisplaced : displaced slot state = proxy.parting := by
        rw [displaced, hlookup]
        exact List.append_nil _
      have hrecord : (Step.proxy slot task).record state = task.record proxy state := by
        rw [Step.record, hlookup]
        exact List.append_nil _
      rw [hrecord] at hturns ⊢
      rw [Host.runProxy, run_bind, run_inSlot?, hlookup] at hturns hroom ⊢
      cases task with
      | handle => exact hheld.of_same hroom hturns (slots_attempt _ _ state) rfl
      | isDisposed => exact hheld.of_same hroom hturns rfl rfl
      | print => exact hheld.of_same hroom hturns (slots_attempt _ _ state) rfl
      | increment =>
          exact hheld.of_same hroom hturns (slots_attempt _ _ state) (settleAll_told_added _ ..)
      | add amount =>
          exact hheld.of_same hroom hturns (slots_attempt _ _ state) (settleAll_told_added _ ..)
      | get => exact hheld.of_same hroom hturns (slots_attempt _ _ state) rfl
      | printCopy => exact hheld.of_same hroom hturns (slots_attempt _ _ state) rfl
      -- The slot keeps the disposed proxy, which owns nothing.
      | dispose =>
          have htold := hheld.told_dispose hbefore hlookup
          have hslots := slots_attempt proxy.dispose (fun () => .done)
            ((replace slot proxy.disposed).run state).2
          rw [ProxyTask.record, htold, ← hdisplaced] at hturns ⊢
          exact hheld.clear hroom hturns hslots
            (nodup_replaced hheld.names slot proxy.disposed) rfl
      | drop =>
          rw [ProxyTask.record, ← hdisplaced] at hturns ⊢
          exact hheld.clear hroom hturns rfl (nodup_otherSlots hheld.names slot) rfl
      | giveUp =>
          exact hheld.of_turns hroom hturns (nodup_otherSlots hheld.names slot)
            ((List.perm_append_comm_assoc ..).trans (hheld.owned_perm slot).symm)
      | duplicate destination =>
          exact hheld.storeResult (fun _ => rfl) proxy.records_duplicate proxy.ends_duplicate
            hroom

/-- A proxy that is dropped at once leaves nothing to look after. -/
theorem dropped (hheld : Held past loose state) {body : Attempt Proxy}
    {issue : Proxy → Happening} (hissue : ∀ proxy, (issue proxy).issued? = some proxy.raw)
    (hends : Ends (fun proxy => proxy.isDisposed = false) (fun _ => True) body)
    (hroom : after.ledger.allocated < UInt64.size)
    (hturns : Ledger.Turns state.ledger
      (told state body fun proxy => issue proxy :: proxy.parting) after.ledger)
    (hslots : after.slots = state.slots) :
    Held (past ++ told state body fun proxy => issue proxy :: proxy.parting) loose after := by
  refine hheld.of_same hroom hturns hslots ?_
  have hfresh := hends state.context
  rw [told] at hturns ⊢
  rcases hrun : body.run.run state.context with ⟨error | proxy, between⟩
  · rfl
  · rw [hrun] at hturns hfresh
    have hnew := hheld.not_mem_of_issue hroom (hissue proxy) hturns
    have hnodup : ([proxy.raw] ++ (state.owned ++ loose)).Nodup :=
      List.nodup_cons.mpr ⟨hnew, hheld.nodup⟩
    change settleAll _ (issue proxy :: proxy.parting) = _
    rw [settleAll_cons, Happening.settle_issued (hissue proxy), proxy.parting_eq,
      Proxy.owned_eq hfresh]
    exact settleAll_released_append hnodup

theorem runLibrary (hheld : Held past loose state) (task : LibraryTask)
    (hroom : ((Host.runLibrary task).run state).2.ledger.allocated < UInt64.size) :
    Held (past ++ task.record state) loose ((Host.runLibrary task).run state).2 := by
  have hturns := turns_runLibrary task state
  cases task with
  | maybeMake name destination =>
      have hrecords := records_presentProxy name
      have hends := ends_presentProxy name
      cases destination with
      | some slot =>
          have hstored := hheld.storeResult (fun _ => rfl) hrecords hends hroom
          rw [told_presentProxy] at hstored
          exact hstored
      | none =>
          have htold := told_presentProxy name
            (fun proxy => .made proxy.raw :: proxy.parting) state
          rw [LibraryTask.record, ← htold] at hturns ⊢
          exact hheld.dropped (fun _ => rfl) hends hroom hturns (slots_attempt _ _ state)
  | hello | printNumber | add | concat | concatLent | printLength | getNumbers | maybeAddOne =>
      exact hheld.of_same hroom hturns (slots_attempt _ _ state) rfl

/-- A call that frees nothing that a proxy owns changes the loose handles only. -/
theorem called (hheld : Held past loose state) (hroom : after.ledger.allocated < UInt64.size)
    (hturns : Ledger.Turns state.ledger history after.ledger)
    (hslots : after.slots = state.slots)
    (hkept : ∀ handle ∈ state.owned, .released handle ∉ history)
    (hshut : .shutDown ∉ history) : Held (past ++ history) (settleAll loose history) after := by
  have howned : after.owned = state.owned := by rw [State.owned, hslots]
  refine hheld.of_turns hroom hturns ?_ ?_
  · rw [hslots]
    exact hheld.names
  · rw [howned]
    exact (settleAll_append state.owned loose hkept hshut).symm

end Held

mutual

/-- A respectful step keeps every live handle looked after. -/
theorem Step.held_run {past : List Happening} {loose : List Handle} {state : State}
    (step : Step) (hheld : Held past loose state) (hrespects : step.Respects state)
    (hroom : (step.run.run state).2.ledger.allocated < UInt64.size) :
    Held (past ++ step.record state) (step.loose state loose) (step.run.run state).2 := by
  have hturns := step.turns_run state
  cases step with
  -- Captures and threads change neither slots nor the ledger, so the inner steps go on
  -- from what was held before them.
  | recorded step =>
      have hinner : Held past loose (native Native.openCapture state).2 :=
        ⟨hheld.tracks, hheld.names, hheld.handles⟩
      have hafter := step.held_run hinner hrespects hroom
      exact ⟨hafter.tracks, hafter.names, hafter.handles⟩
  | crossing crossing place givesPlace =>
      refine hheld.called hroom hturns rfl (fun handle howned hreleased => ?_) ?_
      · exact hrespects handle (Crossing.freed?_of_told hreleased) howned
      · exact Crossing.shutDown_not_told crossing _ _
  | lastErrorCode | takeLastError | lastErrorLength | lastErrorMessage | startFromFiles
  | releasePlaceholders | adjust | settings | tally | live | writeLine | startLogging | log =>
      exact hheld.of_same hroom hturns rfl rfl
  | cleanUp | shutdown => exact absurd hrespects id
  | call name args =>
      refine hheld.called hroom hturns (slots_attempt _ _ state) (fun handle howned hmem => ?_)
        fun hmem => ?_
      · obtain ⟨value, hreleased⟩ := exists_of_mem_told hmem
        exact hrespects handle (Dynamic.freed?_of_happenings hreleased) howned
      · obtain ⟨value, hshut⟩ := exists_of_mem_told hmem
        exact Dynamic.shutDown_not_happening name args value hshut
  | library task => exact hheld.runLibrary task hroom
  | make slot =>
      exact hheld.storeResult (fun _ => rfl) Proxy.records_make Proxy.ends_make hroom
  | adopt slot handle =>
      have hbefore := Nat.lt_of_le_of_lt hturns.allocated_le hroom
      exact hheld.adopt hbefore hrespects.1 hrespects.2 hroom
  | proxy slot task => exact hheld.runProxy task hroom
  | configure text =>
      have hslots : ((Step.configure text).run.run state).2.slots = state.slots := by
        rw [Step.run]
        cases Settings.parse text <;> rfl
      exact hheld.of_same hroom hturns hslots rfl
  | capture steps breaksOff =>
      have hinner : Held past loose (native Native.openCapture state).2 :=
        ⟨hheld.tracks, hheld.names, hheld.handles⟩
      cases breaksOff <;>
      · have hafter := held_runAll steps hinner hrespects hroom
        exact ⟨hafter.tracks, hafter.names, hafter.handles⟩
  | thread steps =>
      have hinner : Held past loose (native (Native.switchThread {}) state).2 :=
        ⟨hheld.tracks, hheld.names, hheld.handles⟩
      have hafter := held_runAll steps hinner hrespects hroom
      exact ⟨hafter.tracks, hafter.names, hafter.handles⟩
  | incrementAtOnce handle threads count =>
      exact hheld.of_same hroom hturns rfl (settleAll_added ..)
  | start text =>
      have hslots : ((Step.start text).run.run state).2.slots = state.slots := by
        rw [Step.run]
        cases Settings.parse text <;> rfl
      exact hheld.of_same hroom hturns hslots rfl

theorem held_runAll {past : List Happening} {loose : List Handle} {state : State}
    (steps : List Step) (hheld : Held past loose state) (hrespects : RespectsAll state steps)
    (hroom : ((runAll steps).run state).2.ledger.allocated < UInt64.size) :
    Held (past ++ recordAll state steps) (looseAll state loose steps)
      ((runAll steps).run state).2 := by
  cases steps with
  | nil =>
      rw [recordAll, List.append_nil]
      exact hheld
  | cons step rest =>
      have hrest := turns_runAll rest (step.run.run state).2
      have hfirst := step.held_run hheld hrespects.1 (Nat.lt_of_le_of_lt hrest.allocated_le hroom)
      have hwhole := held_runAll rest hfirst hrespects.2 hroom
      rw [List.append_assoc] at hwhole
      exact hwhole

end

end Host

end InteropBridge
