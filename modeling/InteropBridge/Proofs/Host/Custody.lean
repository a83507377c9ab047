import InteropBridge.Proofs.Host.History
import InteropBridge.Proofs.Ledger.Holding

/-!
# Who looks after a handle

A handle is owned by the proxy that was made for it, until the proxy is disposed of,
dropped or gives it up.  A handle that a call returned as such, or that a proxy gave
up, is loose: the host itself has to see to it that it is freed or adopted.  A host is
respectful if it frees no handle that a proxy owns, adopts only live ones that none
owns, and does not shut down.
-/

namespace InteropBridge

/-- The handle that the call is to free. -/
def Crossing.freed? {kind : ResultKind} : Crossing kind → Option Handle
  | .free handle => some handle
  | _ => none

/-- The handle that a call by name is to free. -/
def Dynamic.freed? (name : String) (args : List Value) : Option Handle :=
  match Export.ofName? name, args with
  | some .free, [.object handle] => some handle
  | _, _ => none

/-- The handle, as long as the proxy owns it. -/
def Proxy.owned (proxy : Proxy) : List Handle :=
  if proxy.isDisposed then [] else [proxy.raw]

theorem Proxy.owned_eq {proxy : Proxy} (hproxy : proxy.isDisposed = false) :
    proxy.owned = [proxy.raw] := by
  rw [owned, hproxy]
  rfl

theorem Proxy.parting_eq (proxy : Proxy) : proxy.parting = proxy.owned.map .released := by
  rw [parting, owned]
  cases proxy.isDisposed <;> rfl

namespace Host

/-- The handles that proxies in slots own. -/
def handlesIn (slots : List (String × Proxy)) : List Handle :=
  slots.flatMap (·.2.owned)

abbrev State.owned (state : State) : List Handle :=
  handlesIn state.slots

/-- The handle that the proxy in a slot owns. -/
def State.ownedAt (state : State) (slot : String) : List Handle :=
  (state.slots.lookup slot).toList.flatMap Proxy.owned

/-- The slots but one. -/
def otherSlots (slot : String) (slots : List (String × Proxy)) : List (String × Proxy) :=
  slots.filter (·.1 ≠ slot)

mutual

/-- The loose handles after a step: those that calls returned are added and those
that calls freed taken away; what a proxy gives up is added and what one adopts taken
away. -/
def Step.loose (state : State) (loose : List Handle) : Step → List Handle
  | .crossing crossing place givesPlace =>
      settleAll loose ((Step.crossing crossing place givesPlace).record state)
  | .call name args => settleAll loose ((Step.call name args).record state)
  | .proxy slot .giveUp => state.ownedAt slot ++ loose
  | .adopt _ handle => loose.filter (· ≠ handle)
  | .recorded step => step.loose (native Native.openCapture state).2 loose
  | .capture steps _ => looseAll (native Native.openCapture state).2 loose steps
  | .thread steps => looseAll (native (Native.switchThread {}) state).2 loose steps
  | .lastErrorCode | .takeLastError | .lastErrorLength | .lastErrorMessage ..
  | .startFromFiles | .cleanUp | .releasePlaceholders | .library _ | .make _ | .proxy ..
  | .configure _ | .adjust _ | .settings | .tally | .live | .shutdown | .writeLine _
  | .incrementAtOnce .. | .start _ | .startLogging _ | .log _ => loose

/-- The loose handles after steps, made one after another. -/
def looseAll (state : State) (loose : List Handle) : List Step → List Handle
  | [] => loose
  | step :: rest => looseAll (step.run state).2 (step.loose state loose) rest

end

mutual

/-- The step frees no handle that a proxy owns, adopts only a live one that none
owns, and does not shut down. -/
def Step.Respects (state : State) : Step → Prop
  | .crossing crossing _ _ => ∀ handle ∈ crossing.freed?, handle ∉ state.owned
  | .call name args => ∀ handle ∈ Dynamic.freed? name args, handle ∉ state.owned
  | .adopt _ handle =>
      state.context.process.objects.contains handle = true ∧ handle ∉ state.owned
  | .shutdown | .cleanUp => False
  | .recorded step => step.Respects (native Native.openCapture state).2
  | .capture steps _ => RespectsAll (native Native.openCapture state).2 steps
  | .thread steps => RespectsAll (native (Native.switchThread {}) state).2 steps
  | .lastErrorCode | .takeLastError | .lastErrorLength | .lastErrorMessage ..
  | .startFromFiles | .releasePlaceholders | .library _ | .make _ | .proxy ..
  | .configure _ | .adjust _ | .settings | .tally | .live | .writeLine _
  | .incrementAtOnce .. | .start _ | .startLogging _ | .log _ => True

/-- The steps are respectful, made one after another. -/
def RespectsAll (state : State) : List Step → Prop
  | [] => True
  | step :: rest => step.Respects state ∧ RespectsAll (step.run state).2 rest

end

/-! ## Slots -/

theorem displaced_eq (slot : String) (state : State) :
    displaced slot state = (state.ownedAt slot).map .released := by
  rw [displaced, State.ownedAt]
  cases state.slots.lookup slot with
  | none => rfl
  | some proxy => simp [proxy.parting_eq]

theorem handlesIn_perm {slots : List (String × Proxy)} (hnames : (slots.map (·.1)).Nodup)
    (slot : String) :
    (handlesIn slots).Perm
      ((slots.lookup slot).toList.flatMap Proxy.owned ++ handlesIn (otherSlots slot slots)) := by
  -- Names are distinct, so once the slot is found there is no other of its name.
  induction slots with
  | nil => exact .refl _
  | cons entry rest ih =>
      obtain ⟨name, proxy⟩ := entry
      obtain ⟨hname, hrest⟩ := List.nodup_cons.mp hnames
      by_cases hslot : slot = name
      · subst hslot
        have hothers : otherSlots slot ((slot, proxy) :: rest) = rest := by
          rw [otherSlots, List.filter_cons_of_neg (by simp), List.filter_eq_self]
          rintro other hother
          have hne : other.1 ≠ slot := by
            rintro rfl
            exact hname (List.mem_map.mpr ⟨other, hother, rfl⟩)
          exact decide_eq_true hne
        rw [hothers, List.lookup_cons_self]
        simp [handlesIn]
      · have hothers : otherSlots slot ((name, proxy) :: rest) =
            (name, proxy) :: otherSlots slot rest := by
          rw [otherSlots, List.filter_cons_of_pos (by simp [Ne.symm hslot])]
          rfl
        have hlookup : List.lookup slot ((name, proxy) :: rest) = rest.lookup slot := by
          rw [List.lookup_cons, beq_eq_false_iff_ne.mpr hslot]
        rw [hothers, hlookup]
        calc
          List.Perm (handlesIn ((name, proxy) :: rest))
              (proxy.owned ++ (_ ++ handlesIn (otherSlots slot rest))) :=
            (ih hrest).append_left proxy.owned
          List.Perm _ (_ ++ (proxy.owned ++ handlesIn (otherSlots slot rest))) := by
            rw [← List.append_assoc, ← List.append_assoc]
            exact List.perm_append_comm.append_right _

theorem nodup_otherSlots {slots : List (String × Proxy)}
    (hnames : (slots.map (·.1)).Nodup) (slot : String) :
    ((otherSlots slot slots).map (·.1)).Nodup :=
  hnames.sublist (List.filter_sublist.map _)

theorem nodup_replaced {slots : List (String × Proxy)} (hnames : (slots.map (·.1)).Nodup)
    (slot : String) (proxy : Proxy) :
    (((slot, proxy) :: otherSlots slot slots).map (·.1)).Nodup := by
  refine List.nodup_cons.mpr ⟨fun hmem => ?_, nodup_otherSlots hnames slot⟩
  obtain ⟨other, hother, hname⟩ := List.mem_map.mp hmem
  exact of_decide_eq_true (List.mem_filter.mp hother).2 hname

variable {α : Type}

theorem slots_attempt (body : Attempt α) (answer : α → Answer) (state : State) :
    ((attempt body answer).run state).2.slots = state.slots := by
  rw [attempt, run_bind, run_native]
  rcases body.run.run state.context with ⟨error | value, after⟩ <;> rfl

theorem slots_store (slot : String) (proxy : Proxy) (state : State) :
    ((store slot proxy).run state).2.slots = (slot, proxy) :: otherSlots slot state.slots := by
  rw [store, run_bind, run_inSlot?, run_bind]
  cases state.slots.lookup slot <;> rfl

theorem slots_storeResult_ok {body : Attempt Proxy} {state : State} {proxy : Proxy}
    {after : Context} (hbody : body.run.run state.context = (.ok proxy, after)) (slot : String) :
    ((storeResult slot body).run state).2.slots =
      (slot, proxy) :: otherSlots slot state.slots := by
  rw [storeResult, run_bind, run_native, hbody]
  exact slots_store slot proxy { state with context := after }

theorem slots_storeResult_error {body : Attempt Proxy} {state : State} {error : BridgeError}
    {after : Context} (hbody : body.run.run state.context = (.error error, after))
    (slot : String) : ((storeResult slot body).run state).2.slots = state.slots := by
  rw [storeResult, run_bind, run_native, hbody]
  rfl

end Host

/-! ## What calls free -/

theorem Crossing.freed?_of_told {kind : ResultKind} {crossing : Crossing kind}
    {status : Status} {result : kind.Result} {handle : Handle}
    (htold : .released handle ∈ crossing.told status result) : handle ∈ crossing.freed? := by
  cases status with
  | ok => cases crossing <;> simp_all [told, happenings, freed?]
  | allocationFailed | disposedHandle | marshalFailed | absentValue | nativePanic =>
      cases htold

theorem Crossing.shutDown_not_told {kind : ResultKind} (crossing : Crossing kind)
    (status : Status) (result : kind.Result) : .shutDown ∉ crossing.told status result := by
  cases status with
  | ok => cases crossing <;> simp [told, happenings]
  | allocationFailed | disposedHandle | marshalFailed | absentValue | nativePanic =>
      exact List.not_mem_nil

theorem Dynamic.freed?_of_happenings {name : String} {args : List Value} {value : Value}
    {handle : Handle} (hreleased : .released handle ∈ happenings name args value) :
    handle ∈ freed? name args := by
  obtain ⟨target, hname, htold⟩ := List.mem_flatMap.mp hreleased
  rw [Option.mem_toList] at hname
  rw [freed?.eq_def, hname]
  rw [told.eq_def] at htold
  split at htold <;> simp_all

theorem Dynamic.shutDown_not_happening (name : String) (args : List Value) (value : Value) :
    .shutDown ∉ happenings name args value := by
  intro hshut
  obtain ⟨target, -, htold⟩ := List.mem_flatMap.mp hshut
  rw [told.eq_def] at htold
  split at htold <;> simp at htold

end InteropBridge
