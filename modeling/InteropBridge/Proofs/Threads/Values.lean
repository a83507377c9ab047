import InteropBridge.Proofs.Ledger.Values
import InteropBridge.Proofs.Threads.History

/-!
# The values of objects

Whoever asks for the value of an object is told what the history of the machine says: what
the object started with and what was added to it since, on whatever thread and by whatever
way.  Only an operation on its own handle, or the end of all handles, can change that.
-/

namespace InteropBridge

open Attempt

variable {α : Type} {kind : ResultKind}

/-! ## What operations leave alone -/

namespace Crossing

/-- The handle whose object the export changes or ends. -/
def alters? : Crossing kind → Option Handle
  | free handle | increment handle | addTo handle _ => some handle
  | hello | printNumber _ | add .. | concat .. | concatLent .. | printCopy _ | printLength _
  | getNumbers | maybeMake _ | maybeAddOne _ | make | duplicate _ | print _ | get _ => none

/-- A call tells of no object but its own and the one that it makes. -/
theorem spares_of_told {crossing : Crossing kind} {status : Status} {result : kind.Result}
    {happening : Happening} {handle : Handle}
    (htold : happening ∈ crossing.told status result) (halters : crossing.alters? ≠ some handle)
    (hissued : handle ∉ issuedIn (crossing.told status result)) : happening.Spares handle := by
  have hnew : happening.issued? ≠ some handle :=
    fun hissue => hissued (List.mem_filterMap.mpr ⟨happening, htold, hissue⟩)
  cases status with
  | ok =>
      cases crossing with
      | make | duplicate =>
          rw [List.mem_singleton.mp htold] at hnew ⊢
          exact ⟨by simpa [Happening.issued?] using hnew, fun _ => Happening.noConfusion⟩
      | maybeMake name =>
          obtain ⟨made, -, rfl⟩ := List.mem_map.mp htold
          exact ⟨by simpa [Happening.issued?] using hnew, fun _ => Happening.noConfusion⟩
      | free other =>
          rw [List.mem_singleton.mp htold]
          exact ⟨by simpa [alters?] using halters, fun _ => Happening.noConfusion⟩
      | increment other | addTo other amount =>
          rw [List.mem_singleton.mp htold]
          refine ⟨by simp, ?_⟩
          rintro amount' ⟨⟩
          exact halters rfl
      | hello | printNumber | add | concat | concatLent | printCopy | printLength | getNumbers
      | maybeAddOne | print | get => cases htold
  | allocationFailed | disposedHandle | marshalFailed | absentValue | nativePanic =>
      cases htold

end Crossing

namespace Operation

/-- Whether the operation is there to change or end the object of the handle. -/
def Alters (handle : Handle) : {α : Type} → Operation α → Prop
  | _, cross crossing _ => crossing.alters? = some handle
  | _, manage call => ∃ made, call.crossing? = some made ∧ made.2.alters? = some handle
  | _, drop proxy => proxy.isDisposed = false ∧ proxy.raw = handle
  | _, takeLastError => False
  | _, aside other => .shutDown ∈ other.told

variable {past : List Happening} {handle : Handle}

theorem objects_of_fails {operation : Operation α} (context : Context)
    (hfails : operation.Fails (operation.run.run context).1) :
    (operation.run.run context).2.process.objects = context.process.objects := by
  have hturns := operation.records_run context
  rw [told_of_fails hfails] at hturns
  exact congrArg Ledger.objects hturns.eq_of_nil

theorem find_cross_of_not_alters {crossing : Crossing kind} (place : Option kind.Result)
    (halters : crossing.alters? ≠ some handle) {context : Context}
    (htracks : Ledger.Tracks past context.process.ledger)
    (hlive : context.process.objects.contains handle = true)
    (hroom : ((crossing.invoke place).run context).2.process.ledger.allocated < UInt64.size) :
    ((crossing.invoke place).run context).2.process.objects.find handle =
      context.process.objects.find handle := by
  have hturns := crossing.records_invoke place kind.blank context
  apply hturns.find_of_spares
  intro happening htold
  exact Crossing.spares_of_told htold halters (htracks.not_mem_issuedIn hroom hturns hlive)

/-- A live object stays as it is under every operation that is not there to alter it. -/
theorem find_of_not_alters {operation : Operation α} (halters : ¬ operation.Alters handle)
    {context : Context} (htracks : Ledger.Tracks past context.process.ledger)
    (hlive : context.process.objects.contains handle = true)
    (hroom : (operation.run.run context).2.process.ledger.allocated < UInt64.size) :
    (operation.run.run context).2.process.objects.find handle =
      context.process.objects.find handle := by
  cases operation with
  | cross crossing place => exact find_cross_of_not_alters place halters htracks hlive hroom
  | manage call =>
      rw [run] at hroom ⊢
      cases hmade : call.crossing? with
      | none =>
          have hledger := ManagedCall.ledger_perform_of_none hmade context
          exact congrArg (fun ledger => ledger.objects.find handle) hledger
      | some made =>
          have hledger := ManagedCall.ledger_perform hmade context
          have hmadeAlters : made.2.alters? ≠ some handle := fun hmadeAlters =>
            halters ⟨made, hmade, hmadeAlters⟩
          rw [hledger] at hroom
          calc
            (call.perform.run.run context).2.process.objects.find handle =
                ((made.2.invoke (some made.1.blank)).run context).2.process.objects.find
                  handle := congrArg (fun ledger => ledger.objects.find handle) hledger
            _ = context.process.objects.find handle :=
              find_cross_of_not_alters _ hmadeAlters htracks hlive hroom
  | drop proxy =>
      apply (proxy.records_drop context).find_of_spares
      intro happening htold
      cases hproxy : proxy.isDisposed with
      | true =>
          rw [Proxy.parting, if_pos hproxy] at htold
          cases htold
      | false =>
          rw [Proxy.parting, hproxy] at htold
          rw [List.mem_singleton.mp htold]
          have hraw : proxy.raw ≠ handle := fun hraw => halters ⟨hproxy, hraw⟩
          exact ⟨by simpa using hraw, fun _ => Happening.noConfusion⟩
  | takeLastError => rfl
  | aside other =>
      have hturns := other.records_run context
      have hnone : other.told = [] := by
        apply other.told_eq.resolve_right
        intro htold
        apply halters
        rw [Alters, htold]
        exact List.mem_singleton_self _
      rw [hnone] at hturns
      exact congrArg (fun ledger => ledger.objects.find handle) hturns.eq_of_nil

end Operation

/-! ## What a thread is told -/

theorem Crossing.outcome_get (handle : Handle) (context : Context) :
    (get handle).outcome true context = context.process.objects.find handle := by
  rw [outcome, attempt_true]
  exact congrArg Prod.fst (Objects.run_read handle _)

/-- What mirrors a direct call for the value is told what the table finds. -/
theorem Attempt.Mirrors.result_eq_find {decode : Int32 → α} {body : Attempt α} {handle : Handle}
    (hbody : Mirrors (.get handle) decode body) (context : Context) :
    (body.run.run context).1 = (context.process.objects.find handle).map decode := by
  rw [hbody.result_eq, Crossing.outcome_get]

theorem Dynamic.resolve?_get (handle : Handle) :
    resolve? "TestClass.get" [.object handle] = .ok .get := by
  have hname : Export.ofName? "TestClass.get" = some .get := by
    decide
  exact (resolve?_eq_ok_iff _ _ _).mpr ⟨hname, (TypedCall.get handle).validate_args⟩

namespace Machine

variable {Name : Type} [DecidableEq Name]

/-- Whoever asks for the value of the object is told this one. -/
structure Yields (machine : Machine Name) (handle : Handle) (value : Int32) : Prop where
  /-- By a direct call, whatever the place for the result held before. -/
  direct : ∀ name held,
    (machine.perform name (.cross (.get handle) (some held))).1 = (.ok, some value)
  /-- Through a proxy that has the handle. -/
  proxy : ∀ name (proxy : Proxy), proxy.raw = handle → proxy.isDisposed = false →
    (machine.perform name (.manage (.get proxy))).1 = .ok value
  /-- By name. -/
  byName : ∀ name,
    (machine.perform name (.manage (.byName "TestClass.get" [.object handle]))).1 =
      .ok (.int value)

variable {machine : Machine Name} {handle : Handle} {value : Int32}

theorem yields_of_find (hfind : machine.process.objects.find handle = .ok value) :
    machine.Yields handle value where
  direct name held := by
    have houtcome : (Crossing.get handle).outcome true (machine.seenBy name) = .ok value := by
      rw [Crossing.outcome_get]
      exact hfind
    exact (Crossing.invoke_of_ok (some held) houtcome).1
  proxy name proxy hraw hproxy := by
    have hmirrors : Mirrors (.get proxy.raw) id proxy.get := by
      rw [Proxy.get, Proxy.ask_of_not_disposed hproxy]
      exact Managed.mirrors_ask _
    have hresult := hmirrors.result_eq_find (machine.seenBy name)
    have hfound : (machine.seenBy name).process.objects.find proxy.raw = .ok value := by
      rw [hraw]
      exact hfind
    rw [hfound] at hresult
    exact hresult
  byName name := by
    have hmirrors : Mirrors (.get handle) Value.ofResult
        (Dynamic.call "TestClass.get" [.object handle]) :=
      Dynamic.mirrors_call_of_crossing? (Dynamic.resolve?_get handle) rfl
    have hresult := hmirrors.result_eq_find (machine.seenBy name)
    have hfound : (machine.seenBy name).process.objects.find handle = .ok value := hfind
    rw [hfound] at hresult
    exact hresult

theorem Yields.find_eq (hyields : machine.Yields handle value) (name : Name) :
    machine.process.objects.find handle = .ok value := by
  have hanswer := hyields.direct name 0
  cases hfind : machine.process.objects.find handle with
  | ok found =>
      have hfound := (yields_of_find hfind).direct name 0
      rw [hanswer] at hfound
      cases hfound
      rfl
  | error error =>
      have houtcome : (Crossing.get handle).outcome true (machine.seenBy name) =
          .error error := by
        rw [Crossing.outcome_get]
        exact hfind
      have hfailed := (Crossing.invoke_of_error (some 0) houtcome).1
      exact absurd (congrArg Prod.fst (hfailed.symm.trans hanswer)) error.status_ne_ok

theorem values_after (moves : List (Move Name)) :
    Ledger.Values (({} : Machine Name).history moves)
      (({} : Machine Name).after moves).process.ledger :=
  (({} : Machine Name).turns_after moves).values

/-- At every point of a run of any threads, a live object has the value that the history
tells, and whoever asks for it is told this value.  No operation changes it that fails or
that is not there to alter this very object.  The last needs a number for the handle that
the operation may issue: the next one after the last is null. -/
theorem object_values (moves : List (Move Name)) :
    let start : Machine Name := {}
    let machine := start.after moves
    (∀ handle, machine.process.objects.contains handle = true →
      ∃ value, ValueIn (start.history moves) handle value ∧ machine.Yields handle value) ∧
    (∀ handle value, handle ≠ .null → ValueIn (start.history moves) handle value →
      machine.process.objects.contains handle = true ∧ machine.Yields handle value) ∧
    ∀ {α : Type} (name : Name) (operation : Operation α) (handle : Handle) (value : Int32),
      machine.process.objects.contains handle = true → machine.Yields handle value →
      let performed := machine.perform name operation
      performed.2.process.tally.handlesAllocated < UInt64.size →
      ¬ operation.Alters handle ∨ operation.Fails performed.1 →
      performed.2.Yields handle value := by
  intro start machine
  have hvalues : Ledger.Values (start.history moves) machine.process.ledger :=
    values_after moves
  refine ⟨?_, ?_, ?_⟩
  · intro handle hlive
    obtain ⟨value, hfind⟩ := HandleTable.contains_iff_find.mp hlive
    obtain ⟨-, hvalue⟩ := (hvalues handle value).mp hfind
    exact ⟨value, hvalue, yields_of_find hfind⟩
  · intro handle value hhandle hvalue
    have hfind := (hvalues handle value).mpr ⟨hhandle, hvalue⟩
    exact ⟨HandleTable.contains_iff_find.mpr ⟨value, hfind⟩, yields_of_find hfind⟩
  · intro α name operation handle value hlive hyields performed hroom hkept
    have hfind := hyields.find_eq name
    suffices hsame : performed.2.process.objects.find handle =
        machine.process.objects.find handle from yields_of_find (hsame.trans hfind)
    rcases hkept with halters | hfails
    · have hbefore : machine.process.tally.handlesAllocated < UInt64.size := by
        have hle := (machine.turns_perform name operation).allocated_le
        exact Nat.lt_of_le_of_lt hle hroom
      have htracks : Ledger.Tracks (start.history moves) (machine.seenBy name).process.ledger :=
        tracks_after moves hbefore
      exact Operation.find_of_not_alters halters htracks hlive hroom
    · have hobjects := Operation.objects_of_fails (machine.seenBy name) hfails
      exact congrArg (·.find handle) hobjects

/-- What is added to an object after it was copied does not show in the copy. -/
example :
    let machine := ({} : Machine Bool).after
      [⟨true, .cross .make (some .null)⟩, ⟨false, .cross (.addTo ⟨1⟩ 5) none⟩,
        ⟨true, .cross (.duplicate ⟨1⟩) (some .null)⟩, ⟨false, .cross (.increment ⟨1⟩) none⟩]
    (machine.perform true (.cross (.get ⟨1⟩) (some 0))).1 = (.ok, some 6) ∧
      (machine.perform false (.cross (.get ⟨2⟩) (some 0))).1 = (.ok, some 5) := by
  decide

end Machine

end InteropBridge
