import InteropBridge.Proofs.Crossing.Subject
import InteropBridge.Proofs.Host.History

/-!
# The lifetime of handles

Over any run of a fresh process, handles come about numbered from one, and the
exports for objects accept exactly those that came about and have not ended.
What has ended stays so, however the run goes on.
-/

namespace InteropBridge

/-- Given a place for the result and room for a copy, the exports that need the
object of the handle succeed exactly if the condition holds. -/
def Process.AcceptsIff (process : Process) (handle : Handle) (condition : Prop) : Prop :=
  ∀ (kind : ResultKind) (crossing : Crossing kind) (place : Option kind.Result)
    (thread : Thread), crossing.subject? = some handle → crossing.HasPlace place →
      crossing.HasRoom process →
        (((crossing.invoke place).run ⟨process, thread⟩).1.1 = .ok ↔ condition)

/-- Given a place for the result, the exports that need the object of the handle
fail with the error. -/
def Process.Refuses (process : Process) (handle : Handle) (error : BridgeError) : Prop :=
  ∀ (kind : ResultKind) (crossing : Crossing kind) (place : Option kind.Result)
    (thread : Thread), crossing.subject? = some handle → crossing.HasPlace place →
      ((crossing.invoke place).run ⟨process, thread⟩).1.1 = error.status ∧
        ((crossing.invoke place).run ⟨process, thread⟩).2.thread.lastError = some error

theorem Process.refuses_of_find {process : Process} {handle : Handle} {error : BridgeError}
    (hfind : process.objects.find handle = .error error) : process.Refuses handle error := by
  intro kind crossing place thread hsubject hplace
  have hfound : (Context.mk process thread).process.objects.find handle = .error error :=
    hfind
  rw [Crossing.invoke_of_find_error hsubject hplace hfound]
  exact ⟨rfl, rfl⟩

theorem Process.refuses_null (process : Process) :
    process.Refuses .null (.marshal .nullHandle) :=
  refuses_of_find (HandleTable.find_null process.objects)

namespace Ledger

variable {history : List Happening} {process : Process} {handle : Handle}

theorem Tracks.refuses (htracks : Tracks history process.ledger) (hhandle : handle ≠ .null)
    (hdead : ¬ LiveIn history handle) : process.Refuses handle (.disposedHandle handle) :=
  Process.refuses_of_find (htracks.find_of_not_liveIn hhandle hdead)

theorem Tracks.acceptsIff (htracks : Tracks history process.ledger)
    (hroom : process.ledger.allocated < UInt64.size) (handle : Handle) :
    process.AcceptsIff handle (LiveIn history handle) := by
  intro kind crossing place thread hsubject hplace hspace
  constructor
  · intro hok
    by_contra hdead
    have hrefused : ∃ error, process.Refuses handle error := by
      by_cases hhandle : handle = .null
      · subst hhandle
        exact ⟨_, process.refuses_null⟩
      · exact ⟨_, htracks.refuses hhandle hdead⟩
    obtain ⟨error, hrefuses⟩ := hrefused
    obtain ⟨hstatus, -⟩ := hrefuses kind crossing place thread hsubject hplace
    exact error.status_ne_ok (hstatus.symm.trans hok)
  · intro hlive
    obtain ⟨object, hfind⟩ := htracks.find_of_liveIn hroom hlive
    have hfound : (Context.mk process thread).process.objects.find handle = .ok object :=
      hfind
    exact Crossing.invoke_of_find_ok hsubject hplace hfound hspace

end Ledger

namespace Host

/-- The handles of a run of a fresh process are numbered from one in the order in
which calls return them.  The exports for objects accept a handle exactly if it came
about and has not ended since; they refuse the null handle as such and any other as
disposed, and what has ended they refuse after any further steps. -/
theorem handle_lifetime (files : FileTree) (directory : Place) (steps more : List Step)
    (hroom :
      (issuedIn (recordAll (.fresh files directory) (steps ++ more))).length < UInt64.size - 1) :
    let start := State.fresh files directory
    let history := recordAll start steps
    let process := (start.after steps).context.process
    (∀ count handle, (issuedIn history)[count]? = some handle →
      handle.raw.toNat = count + 1) ∧
    Handle.null ∉ issuedIn history ∧
    (issuedIn history).Nodup ∧
    (∀ handle, process.AcceptsIff handle (LiveIn history handle)) ∧
    process.Refuses .null (.marshal .nullHandle) ∧
    (∀ handle, handle ≠ .null → ¬ LiveIn history handle →
      process.Refuses handle (.disposedHandle handle)) ∧
    ∀ handle, handle ∈ issuedIn history → ¬ LiveIn history handle →
      (start.after (steps ++ more)).context.process.Refuses handle
        (.disposedHandle handle) := by
  intro start history process
  have hsplit : recordAll start (steps ++ more) =
      history ++ recordAll (start.after steps) more := recordAll_append steps more start
  have hwhole : (start.after (steps ++ more)).ledger.allocated < UInt64.size := by
    rw [allocated_after]
    omega
  have hpart : process.ledger.allocated < UInt64.size := by
    have hcount : process.ledger.allocated = (issuedIn history).length :=
      allocated_after files directory steps
    rw [hsplit, issuedIn_append, List.length_append] at hroom
    omega
  have htracks : Ledger.Tracks history process.ledger :=
    tracks_after files directory steps hpart
  have hlonger : Ledger.Tracks (history ++ recordAll (start.after steps) more)
      (start.after (steps ++ more)).ledger :=
    hsplit ▸ tracks_after files directory (steps ++ more) hwhole
  refine ⟨?_, ?_, htracks.nodup_issuedIn hpart, htracks.acceptsIff hpart,
    process.refuses_null, ?_, ?_⟩
  · intro count handle hissued
    exact htracks.toNat_of_issuedIn hpart hissued
  · intro hnull
    exact htracks.ne_null_of_mem hpart hnull rfl
  · intro handle hhandle hdead
    exact htracks.refuses hhandle hdead
  · intro handle hissued hdead
    have hended := hlonger.not_liveIn_append hwhole hissued hdead
    exact hlonger.refuses (htracks.ne_null_of_mem hpart hissued) hended

/-- Once a handle was made and freed, it is refused also after another was made. -/
theorem handle_lifetime_freed :
    (issuedIn (recordAll (.fresh {} []) ([.make "a", .proxy "a" .dispose] ++
      [.crossing .make .null true]))).length < UInt64.size - 1 ∧
    ((State.fresh {} []).after ([.make "a", .proxy "a" .dispose] ++
      [.crossing .make .null true])).context.process.Refuses ⟨1⟩ (.disposedHandle ⟨1⟩) := by
  have hroom : (issuedIn (recordAll (.fresh {} []) ([.make "a", .proxy "a" .dispose] ++
      [.crossing .make .null true]))).length < UInt64.size - 1 := by
    decide
  obtain ⟨-, -, -, -, -, -, hended⟩ :=
    handle_lifetime {} [] [.make "a", .proxy "a" .dispose] [.crossing .make .null true] hroom
  exact ⟨hroom, hended ⟨1⟩ (by decide) (by decide)⟩

end Host

end InteropBridge
