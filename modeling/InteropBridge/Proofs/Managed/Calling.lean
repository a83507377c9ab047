import InteropBridge.Managed.Dynamic
import InteropBridge.Proofs.Computation

/-!
# Running a call by name

A call by name is either refused by name and signature, which only counts a
marshal error, or dispatched, and then the dispatch decides what comes of it.
What goes on around either is a matter of the log.
-/

namespace InteropBridge.Dynamic

/-- The context after an event. -/
abbrev noted (event : Log.Event) (context : Context) : Context :=
  ((Native.emit event).run context).2

theorem name_of_ofName? {name : String} {target : Export}
    (hname : Export.ofName? name = some target) : target.name = name := by
  have hfound := List.find?_some hname
  exact beq_iff_eq.mp hfound

theorem resolve?_of_name {name : String} {target : Export}
    (hname : Export.ofName? name = some target) (args : List Value) :
    resolve? name args = (target.signature.validate args).map fun () => target := by
  rw [resolve?, hname]
  dsimp only
  cases target.signature.validate args <;> rfl

theorem resolve?_eq_ok_iff (name : String) (args : List Value) (target : Export) :
    resolve? name args = .ok target ↔
      Export.ofName? name = some target ∧ target.signature.validate args = .ok () := by
  cases hname : Export.ofName? name with
  | none => simp [resolve?, hname]
  | some found =>
      rw [resolve?_of_name hname]
      cases hvalid : found.signature.validate args with
      | error fault =>
          constructor
          · intro hresolve
            cases hresolve
          · rintro ⟨hfound, htarget⟩
            cases hfound
            rw [hvalid] at htarget
            cases htarget
      | ok =>
          constructor
          · intro hresolve
            cases hresolve
            exact ⟨rfl, hvalid⟩
          · rintro ⟨hfound, -⟩
            cases hfound
            rfl

theorem run_resolve (name : String) (args : List Value) (context : Context) :
    (resolve name args).run.run context =
      match resolve? name args with
      | .ok target => (.ok target, context)
      | .error fault =>
          (.error (.marshal fault), (Native.countMarshalError.run context).2) := by
  rw [resolve]
  cases resolve? name args <;> rfl

/-- The context after a dispatch that succeeded: the caller is reminded of what it
owns. -/
def settled (name : String) (target : Export) (value : Value) (context : Context) :
    Context :=
  if target.signature.result.needsRelease then
    noted (.callerOwns name value.typeName) context
  else context

theorem run_attempt {name : String} {args : List Value} {target : Export}
    (hresolve : resolve? name args = .ok target) (context : Context) :
    (attempt name args).run.run context =
      match (dispatch target.name args).run.run
        (noted (.dispatching target.signature.text) context) with
      | (.ok value, after) => (.ok value, settled name target value after)
      | (.error error, after) => (.error error, after) := by
  have hfound : (resolve name args).run.run context = (.ok target, context) := by
    rw [run_resolve, hresolve]
  rw [attempt, Attempt.run_bind_ok hfound, Attempt.run_bind_ok (Attempt.run_lift _ _),
    Attempt.run_bind]
  rcases (dispatch target.name args).run.run
    (noted (.dispatching target.signature.text) context) with ⟨error | value, after⟩
  · rfl
  · dsimp only
    rw [settled]
    split <;> rfl

/-- A call that fits a signature comes to what its dispatch comes to. -/
theorem run_call_resolved {name : String} {args : List Value} {target : Export}
    (hresolve : resolve? name args = .ok target) (context : Context) :
    (call name args).run.run context =
      match (dispatch target.name args).run.run
        (noted (.dispatching target.signature.text) context) with
      | (.ok value, after) => (.ok value, settled name target value after)
      | (.error error, after) =>
          (.error error, noted (.dynamicCallFailed name error.message) after) := by
  rw [call, Attempt.run_tryCatch, run_attempt hresolve]
  rcases (dispatch target.name args).run.run
    (noted (.dispatching target.signature.text) context) with ⟨error | value, after⟩ <;>
    rfl

/-- A call that does not is counted and goes no further. -/
theorem run_call_refused {name : String} {args : List Value} {fault : MarshalError}
    (hresolve : resolve? name args = .error fault) (context : Context) :
    (call name args).run.run context =
      (.error (.marshal fault),
        noted (.dynamicCallFailed name (BridgeError.marshal fault).message)
          (Native.countMarshalError.run context).2) := by
  have hrefused : (attempt name args).run.run context =
      (.error (.marshal fault), (Native.countMarshalError.run context).2) := by
    rw [attempt, Attempt.run_bind, run_resolve, hresolve]
  rw [call, Attempt.run_tryCatch, hrefused]
  rfl

end InteropBridge.Dynamic
