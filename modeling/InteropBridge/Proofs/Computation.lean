import InteropBridge.Process

/-!
# Running computations

A computation on a thread is a function of the context, and a computation that
may fail keeps what it did before it failed.  This module states what running
each of them comes to, and names three habits of computations that may fail:
looking without touching, leaving nothing behind on failure, and never failing.
A computation that looks first and acts last leaves nothing behind when it
fails, which is how every export is written.
-/

namespace InteropBridge

namespace Native

variable {α β : Type}

theorem run_bind (body : Native α) (next : α → Native β) (context : Context) :
    (body >>= next).run context =
      (next (body.run context).1).run (body.run context).2 := rfl

end Native

namespace Attempt

variable {α β : Type}

@[simp]
theorem run_get (context : Context) :
    (get : Attempt Context).run.run context = (.ok context, context) := rfl

@[simp]
theorem run_lift (body : Native α) (context : Context) :
    (liftM body : Attempt α).run.run context =
      (.ok (body.run context).1, (body.run context).2) := rfl

@[simp]
theorem run_ofExcept (result : Except BridgeError α) (context : Context) :
    (MonadExcept.ofExcept result : Attempt α).run.run context = (result, context) := by
  cases result <;> rfl

/-- The second computation runs where the first one succeeded; a failure of the
first is the failure of both. -/
theorem run_bind (body : Attempt α) (next : α → Attempt β) (context : Context) :
    (body >>= next).run.run context =
      match body.run.run context with
      | (.ok value, after) => (next value).run.run after
      | (.error error, after) => (.error error, after) := by
  change (ExceptT.bindCont next (body.run.run context).1).run
    (body.run.run context).2 = _
  rcases body.run.run context with ⟨error | value, after⟩ <;> rfl

/-- The handler runs where the computation failed, in what it left behind. -/
theorem run_tryCatch (body : Attempt α) (handler : BridgeError → Attempt α)
    (context : Context) :
    (tryCatch body handler).run.run context =
      match body.run.run context with
      | (.ok value, after) => (.ok value, after)
      | (.error error, after) => (handler error).run.run after := by
  simp only [tryCatch, tryCatchThe, MonadExceptOf.tryCatch, ExceptT.tryCatch,
    ExceptT.run, ExceptT.mk, bind, StateT.bind, StateT.run]
  rcases body context with ⟨error | value, after⟩ <;> rfl

/-- A bind whose first part is known to succeed. -/
theorem run_bind_ok {body : Attempt α} {context after : Context} {value : α}
    (hbody : body.run.run context = (.ok value, after)) (next : α → Attempt β) :
    (body >>= next).run.run context = (next value).run.run after := by
  rw [run_bind, hbody]

/-- A bind whose first part is known to fail. -/
theorem run_bind_error {body : Attempt α} {context after : Context}
    {error : BridgeError} (hbody : body.run.run context = (.error error, after))
    (next : α → Attempt β) :
    (body >>= next).run.run context = (.error error, after) := by
  rw [run_bind, hbody]

/-! ## Looking, failing without a trace, and not failing -/

/-- The computation leaves the context as it is. -/
def Looks (body : Attempt α) : Prop :=
  ∀ context, (body.run.run context).2 = context

/-- The computation leaves the context as it is whenever it fails. -/
def Traceless (body : Attempt α) : Prop :=
  ∀ context error after, body.run.run context = (.error error, after) → after = context

/-- The computation succeeds everywhere. -/
def Certain (body : Attempt α) : Prop :=
  ∀ context, ∃ value after, body.run.run context = (.ok value, after)

theorem looks_pure (value : α) : Looks (pure value) := fun _ => rfl

theorem looks_throw (error : BridgeError) : Looks (throw error : Attempt α) :=
  fun _ => rfl

theorem looks_ofExcept (result : Except BridgeError α) :
    Looks (MonadExcept.ofExcept result) := by
  intro context
  rw [run_ofExcept]

theorem Looks.bind {body : Attempt α} {next : α → Attempt β} (hbody : Looks body)
    (hnext : ∀ value, Looks (next value)) : Looks (body >>= next) := by
  intro context
  have hafter := hbody context
  rcases hrun : body.run.run context with ⟨error | value, after⟩
  · rw [run_bind_error hrun]
    rw [hrun] at hafter
    exact hafter
  · rw [run_bind_ok hrun]
    rw [hrun] at hafter
    subst hafter
    exact hnext value after

theorem Looks.traceless {body : Attempt α} (hbody : Looks body) : Traceless body := by
  intro context error after hrun
  have hafter := hbody context
  rw [hrun] at hafter
  exact hafter

theorem certain_pure (value : α) : Certain (pure value) :=
  fun context => ⟨value, context, rfl⟩

theorem certain_lift (body : Native α) : Certain (liftM body) :=
  fun context => ⟨_, _, run_lift body context⟩

theorem Certain.traceless {body : Attempt α} (hbody : Certain body) :
    Traceless body := by
  intro context error after hrun
  obtain ⟨value, _, hok⟩ := hbody context
  rw [hok] at hrun
  cases hrun

/-- Looking first costs nothing: only what follows can leave a trace. -/
theorem Looks.bind_traceless {body : Attempt α} {next : α → Attempt β}
    (hbody : Looks body) (hnext : ∀ value, Traceless (next value)) :
    Traceless (body >>= next) := by
  intro context error after hrun
  have hlooked := hbody context
  rcases hfirst : body.run.run context with ⟨fault | value, middle⟩
  · rw [hfirst] at hlooked
    rw [run_bind_error hfirst] at hrun
    cases hrun
    exact hlooked
  · rw [hfirst] at hlooked
    subst hlooked
    rw [run_bind_ok hfirst] at hrun
    exact hnext value middle error after hrun

/-- What cannot fail may follow anything that fails without a trace. -/
theorem Traceless.bind_certain {body : Attempt α} {next : α → Attempt β}
    (hbody : Traceless body) (hnext : ∀ value, Certain (next value)) :
    Traceless (body >>= next) := by
  intro context error after hrun
  rcases hfirst : body.run.run context with ⟨fault | value, middle⟩
  · rw [run_bind_error hfirst] at hrun
    cases hrun
    exact hbody context error after hfirst
  · rw [run_bind_ok hfirst] at hrun
    obtain ⟨result, final, hok⟩ := hnext value middle
    rw [hok] at hrun
    cases hrun

/-! ## How a computation ends -/

/-- Wherever it runs, the computation ends in a value or an error of the given
sorts. -/
def Ends (value : α → Prop) (fault : BridgeError → Prop) (body : Attempt α) : Prop :=
  ∀ context, match (body.run.run context).1 with
    | .ok result => value result
    | .error error => fault error

theorem ends_pure {value : α → Prop} {fault : BridgeError → Prop} {result : α}
    (hresult : value result) : Ends value fault (pure result) := fun _ => hresult

theorem ends_any (body : Attempt α) : Ends (fun _ => True) (fun _ => True) body := by
  intro context
  cases (body.run.run context).1 <;> trivial

theorem ends_throw {value : α → Prop} {fault : BridgeError → Prop} {error : BridgeError}
    (herror : fault error) : Ends value fault (throw error) := fun _ => herror

theorem ends_lift {fault : BridgeError → Prop} (body : Native α) :
    Ends (fun _ => True) fault (liftM body) := fun _ => trivial

theorem ends_ofExcept {value : α → Prop} {fault : BridgeError → Prop}
    {result : Except BridgeError α}
    (hresult : match result with
      | .ok found => value found
      | .error error => fault error) :
    Ends value fault (MonadExcept.ofExcept result) := by
  intro context
  rw [run_ofExcept]
  exact hresult

theorem Ends.mono {value : α → Prop} {fault weaker : BridgeError → Prop} {body : Attempt α}
    (hbody : Ends value fault body) (hfault : ∀ error, fault error → weaker error) :
    Ends value weaker body := by
  intro context
  have hends := hbody context
  rcases hrun : (body.run.run context).1 with error | result <;> rw [hrun] at hends
  · exact hfault error hends
  · exact hends

theorem Ends.bind {first : α → Prop} {second : β → Prop} {fault : BridgeError → Prop}
    {body : Attempt α} {next : α → Attempt β} (hbody : Ends first fault body)
    (hnext : ∀ value, first value → Ends second fault (next value)) :
    Ends second fault (body >>= next) := by
  intro context
  have hfirst := hbody context
  rcases hrun : body.run.run context with ⟨error | value, after⟩
  · rw [run_bind_error hrun]
    rw [hrun] at hfirst
    exact hfirst
  · rw [run_bind_ok hrun]
    rw [hrun] at hfirst
    exact hnext value hfirst after

end Attempt

/-! ## Relations that computations respect -/

/-- From contexts that are alike the computation comes to the same result, and the contexts
after it are alike. -/
def Native.Respects {α : Type} (alike : Context → Context → Prop) (body : Native α) : Prop :=
  ∀ left right, alike left right →
    (body.run left).1 = (body.run right).1 ∧ alike (body.run left).2 (body.run right).2

namespace Native

variable {α β : Type} {alike : Context → Context → Prop}

theorem respects_pure (value : α) : Respects alike (pure value) :=
  fun _ _ halike => ⟨rfl, halike⟩

theorem Respects.bind {body : Native α} {next : α → Native β} (hbody : body.Respects alike)
    (hnext : ∀ value, (next value).Respects alike) : (body >>= next).Respects alike := by
  intro left right halike
  obtain ⟨hresult, hafter⟩ := hbody left right halike
  rw [run_bind, run_bind, hresult]
  exact hnext _ _ _ hafter

end Native

namespace Attempt

variable {α β : Type} {alike : Context → Context → Prop}

/-- From contexts that are alike the computation ends alike, also where it fails. -/
abbrev Respects (alike : Context → Context → Prop) (body : Attempt α) : Prop :=
  Native.Respects alike body.run

theorem respects_pure (value : α) : Respects alike (pure value) :=
  fun _ _ halike => ⟨rfl, halike⟩

theorem respects_throw (error : BridgeError) : Respects alike (throw error : Attempt α) :=
  fun _ _ halike => ⟨rfl, halike⟩

theorem respects_ofExcept (result : Except BridgeError α) :
    Respects alike (MonadExcept.ofExcept result) := by
  intro left right halike
  rw [run_ofExcept, run_ofExcept]
  exact ⟨rfl, halike⟩

theorem respects_lift {body : Native α} (hbody : body.Respects alike) :
    Respects alike (liftM body) := by
  intro left right halike
  obtain ⟨hresult, hafter⟩ := hbody left right halike
  rw [run_lift, run_lift, hresult]
  exact ⟨rfl, hafter⟩

theorem Respects.bind {body : Attempt α} {next : α → Attempt β} (hbody : Respects alike body)
    (hnext : ∀ value, Respects alike (next value)) : Respects alike (body >>= next) := by
  intro left right halike
  obtain ⟨hresult, hafter⟩ := hbody left right halike
  rcases hleft : body.run.run left with ⟨found, leftAfter⟩
  rcases hright : body.run.run right with ⟨other, rightAfter⟩
  rw [hleft, hright] at hresult hafter
  obtain rfl : found = other := hresult
  cases found with
  | error error =>
      rw [run_bind_error hleft, run_bind_error hright]
      exact ⟨rfl, hafter⟩
  | ok value =>
      rw [run_bind_ok hleft, run_bind_ok hright]
      exact hnext value leftAfter rightAfter hafter

end Attempt

end InteropBridge
