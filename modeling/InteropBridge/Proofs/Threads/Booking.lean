import InteropBridge.Proofs.Threads.Accounts

/-!
# What operations enter into the accounts

Each operation says beforehand which export it will enter, if any.  Its answer tells
whether it failed with a marshal error, and the context in which it is done decides what
becomes of the last error.  Its entry into the accounts is made of these three, and it
enters nothing else.
-/

namespace InteropBridge

variable {α : Type} {kind : ResultKind}

/-- What an operation does to the last error of its thread. -/
inductive Mark
  | kept
  | cleared
  | recorded (error : BridgeError)

/-- The last error afterwards. -/
def Mark.next : Mark → Option BridgeError → Option BridgeError
  | kept, last => last
  | cleared, _ => none
  | recorded error, _ => some error

theorem BridgeError.status_eq_marshalFailed_iff (error : BridgeError) :
    error.status = .marshalFailed ↔ error.isMarshal = true := by
  cases error <;> simp [status, isMarshal, cause?]

namespace Operation

/-- What the operation does to the last error when it is done in a context.  A managed call
takes what the export that it enters has recorded. -/
def mark : {α : Type} → Operation α → Context → Mark
  | _, cross crossing place, context =>
      match crossing.outcome place.isSome context with
      | .ok _ => .cleared
      | .error error => .recorded error
  | _, manage call, _ => if call.crossing?.isSome then .cleared else .kept
  | _, drop proxy, _ => if proxy.isDisposed then .kept else .cleared
  | _, takeLastError, _ => .cleared
  | _, aside _, _ => .kept

/-- The export that the operation enters, if it enters one. -/
def target? : {α : Type} → Operation α → Option Export
  | _, cross crossing _ => some crossing.target
  | _, manage call => call.crossing?.map (·.2.target)
  | _, drop proxy => if proxy.isDisposed then none else some .free
  | _, takeLastError | _, aside _ => none

/-- Whether the operation fails with a marshal error, judging by its answer.  The drop of a
proxy answers nothing, and what it may swallow is no marshal error. -/
def failsToMarshal : {α : Type} → Operation α → α → Bool
  | _, cross _ _, (status, _) => status == .marshalFailed
  | _, manage _, .error error => error.isMarshal
  | _, manage _, .ok _ | _, drop _, _ | _, takeLastError, _ | _, aside _, _ => false

end Operation

/-- The accounts with the operation entered, which was done in the given context with the
given answer. -/
def Accounts.booked (accounts : Accounts) (operation : Operation α) (context : Context)
    (answer : α) : Accounts where
  marshalErrors := accounts.marshalErrors + if operation.failsToMarshal answer then 1 else 0
  entries :=
    (accounts.entries.1 + if operation.target?.isSome then 1 else 0,
      operation.target?.toList.map (fun target => .called target.symbol target.signature.arity)
        ++ accounts.entries.2)
  lastError := (operation.mark context).next accounts.lastError

namespace Operation

theorem accounts_run_cross (crossing : Crossing kind) (place : Option kind.Result)
    (context : Context) :
    ((cross crossing place).run.run context).2.accounts =
      context.accounts.booked (cross crossing place) context
        ((cross crossing place).run.run context).1 := by
  rw [run, crossing.accounts_invoke place context]
  cases houtcome : crossing.outcome place.isSome context with
  | ok result =>
      obtain ⟨hanswer, -⟩ := Crossing.invoke_of_ok place houtcome
      simp [Accounts.entered, Accounts.booked, marshalErrorsIn, errorIn?, failsToMarshal,
        hanswer, target?, mark, houtcome, Mark.next]
  | error error =>
      obtain ⟨hanswer, -⟩ := Crossing.invoke_of_error place houtcome
      simp [Accounts.entered, Accounts.booked, marshalErrorsIn, errorIn?, failsToMarshal,
        hanswer, error.status_eq_marshalFailed_iff, target?, mark, houtcome, Mark.next]

theorem accounts_run_manage (call : ManagedCall α) (context : Context) :
    ((manage call).run.run context).2.accounts =
      context.accounts.booked (manage call) context ((manage call).run.run context).1 := by
  have hfails : ∀ result : Except BridgeError α,
      marshalErrorsIn result = if (manage call).failsToMarshal result then 1 else 0 := by
    intro result
    cases result <;> rfl
  cases hmade : call.crossing? with
  | none =>
      rw [run, call.accounts_perform_of_none hmade context, hfails]
      simp [Accounts.booked, Accounts.charged, target?, mark, hmade, Mark.next]
  | some made =>
      rw [run, call.accounts_perform hmade context, Accounts.entered, hfails]
      simp [Accounts.booked, target?, mark, hmade, Mark.next]

theorem accounts_run_drop (proxy : Proxy) (context : Context) :
    ((drop proxy).run.run context).2.accounts =
      context.accounts.booked (drop proxy) context ((drop proxy).run.run context).1 := by
  -- A drop disposes of the proxy, and that call never fails with a marshal error.
  have hfails : (manage (.dispose proxy)).failsToMarshal (proxy.dispose.run.run context).1 =
      false := by
    have hends := proxy.ends_dispose context
    cases hresult : (proxy.dispose.run.run context).1 with
    | ok released => rfl
    | error error =>
        rw [hresult] at hends
        exact hends
  calc
    (proxy.drop.run context).2.accounts = (proxy.dispose.run.run context).2.accounts :=
      proxy.accounts_drop context
    _ = context.accounts.booked (manage (.dispose proxy)) context
          (proxy.dispose.run.run context).1 :=
      accounts_run_manage (.dispose proxy) context
    _ = context.accounts.booked (drop proxy) context () := by
      rw [Accounts.booked, hfails]
      cases hproxy : proxy.isDisposed <;>
        simp [Accounts.booked, failsToMarshal, target?, mark, ManagedCall.crossing?,
          Proxy.crossing?, hproxy, Crossing.target]

/-- Every operation enters exactly what it comes to. -/
theorem accounts_run (operation : Operation α) (context : Context) :
    (operation.run.run context).2.accounts =
      context.accounts.booked operation context (operation.run.run context).1 := by
  cases operation with
  | cross crossing place => exact accounts_run_cross crossing place context
  | manage call => exact accounts_run_manage call context
  | drop proxy => exact accounts_run_drop proxy context
  | takeLastError => rfl
  | aside other => exact other.keeps_run context

theorem lastError_run (operation : Operation α) (context : Context) :
    (operation.run.run context).2.lastError =
      (operation.mark context).next context.lastError :=
  congrArg Accounts.lastError (operation.accounts_run context)

/-- An operation enters the export that it says, and no other. -/
theorem entered_iff (operation : Operation α) (target : Export) (context : Context) :
    context.Entered target (operation.run.run context).2 ↔ operation.target? = some target := by
  have hentries := congrArg Accounts.entries (operation.accounts_run context)
  have hentered : ∀ found, operation.target? = some found →
      context.Entered found (operation.run.run context).2 := by
    intro found hfound
    rw [Accounts.booked, hfound] at hentries
    exact ⟨congrArg Prod.fst hentries, congrArg Prod.snd hentries⟩
  refine ⟨fun htarget => ?_, hentered target⟩
  cases hfound : operation.target? with
  | none =>
      rw [Accounts.booked, hfound] at hentries
      have hkept : (operation.run.run context).2.entries.1 = context.entries.1 :=
        congrArg Prod.fst hentries
      rw [htarget.counted] at hkept
      omega
  | some found => rw [(hentered found hfound).unique htarget]

end Operation

end InteropBridge
