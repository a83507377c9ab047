import InteropBridge.Proofs.Managed.Refinement

/-!
# All managed calls

A managed caller calls functions of the library, calls on the object of a proxy, and
exports by name.  Whether such a call gets to the boundary shows in the call itself: it
does not if a text has no native form, if the proxy has given its handle up, or if name
and arguments do not fit.  A call that gets there mirrors one direct call.  A call that
does not counts the marshal error that it fails with, if that is how it fails, and leaves
everything else as it was.
-/

namespace InteropBridge

/-- A call of the managed side, by the type of its result. -/
inductive ManagedCall : Type → Type
  | hello : ManagedCall Unit
  | printNumber (number : Int32) : ManagedCall Unit
  | add (left right : Int32) : ManagedCall Int32
  | concat (left right : ManagedText) : ManagedCall ManagedText
  | concatLent (left right : ManagedText) : ManagedCall ManagedText
  | printCopy (proxy : Proxy) : ManagedCall Unit
  | printLength (items : List Int32) : ManagedCall Unit
  | getNumbers : ManagedCall (List Int32)
  | maybeMake (name : ManagedOptional ManagedText) : ManagedCall (ManagedOptional Proxy)
  | maybeAddOne (value : ManagedOptional Int32) : ManagedCall (ManagedOptional Int32)
  | make : ManagedCall Proxy
  | duplicate (proxy : Proxy) : ManagedCall Proxy
  | handle (proxy : Proxy) : ManagedCall Handle
  | print (proxy : Proxy) : ManagedCall Unit
  | increment (proxy : Proxy) : ManagedCall Unit
  | addTo (proxy : Proxy) (amount : Int32) : ManagedCall Unit
  | get (proxy : Proxy) : ManagedCall Int32
  | dispose (proxy : Proxy) : ManagedCall Unit
  | byName (name : String) (args : List Value) : ManagedCall Value

/-- The direct call that a proxy makes on its object, while it has the handle. -/
def Proxy.crossing? {kind : ResultKind} (proxy : Proxy) (crossing : Handle → Crossing kind) :
    Option AnyCrossing :=
  if proxy.isDisposed then none else some ⟨kind, crossing proxy.raw⟩

namespace ManagedCall

/-- What a managed caller does to make the call. -/
def perform : {α : Type} → ManagedCall α → Attempt α
  | _, hello => Library.hello
  | _, printNumber number => Library.printNumber number
  | _, add left right => Library.add left right
  | _, concat left right => Library.concat left right
  | _, concatLent left right => Library.concatLent left right
  | _, printCopy proxy => proxy.printCopy
  | _, printLength items => Library.printLength items
  | _, getNumbers => Library.getNumbers
  | _, maybeMake name => Library.maybeMake name
  | _, maybeAddOne value => Library.maybeAddOne value
  | _, make => Proxy.make
  | _, duplicate proxy => proxy.duplicate
  | _, handle proxy => MonadExcept.ofExcept proxy.handle
  | _, print proxy => proxy.print
  | _, increment proxy => proxy.increment
  | _, addTo proxy amount => proxy.add amount
  | _, get proxy => proxy.get
  | _, dispose proxy => proxy.dispose
  | _, byName name args => Dynamic.call name args

/-- The direct call that the managed one makes, if it gets to the boundary. -/
def crossing? : {α : Type} → ManagedCall α → Option AnyCrossing
  | _, hello => some ⟨_, .hello⟩
  | _, printNumber number => some ⟨_, .printNumber number⟩
  | _, add left right => some ⟨_, .add left right⟩
  | _, concat left right => AnyCrossing.joining? .concat left right
  | _, concatLent left right => AnyCrossing.joining? .concatLent left right
  | _, printCopy proxy => proxy.crossing? .printCopy
  | _, printLength items => some ⟨_, .printLength (.ofList items)⟩
  | _, getNumbers => some ⟨_, .getNumbers⟩
  | _, maybeMake name => AnyCrossing.making? name.content
  | _, maybeAddOne value => some ⟨_, .maybeAddOne (.ofOption value.content)⟩
  | _, make => some ⟨_, .make⟩
  | _, duplicate proxy => proxy.crossing? .duplicate
  | _, handle _ => none
  | _, print proxy => proxy.crossing? .print
  | _, increment proxy => proxy.crossing? .increment
  | _, addTo proxy amount => proxy.crossing? (.addTo · amount)
  | _, get proxy => proxy.crossing? .get
  | _, dispose proxy => proxy.crossing? .free
  | _, byName name args => (Dynamic.resolve? name args).toOption.bind (·.crossing? args)

end ManagedCall

/-- How many marshal errors there are in a result, which is one at most. -/
def marshalErrorsIn {α : Type} : Except BridgeError α → Nat
  | .ok _ => 0
  | .error error => if error.isMarshal then 1 else 0

/-- The context with some more marshal errors counted. -/
def Context.charged (context : Context) (errors : Nat) : Context :=
  { context with
    process.tally.marshalErrors := context.process.tally.marshalErrors + errors }

/-- Wherever it runs, the computation counts the marshal error it ends in, if it ends in
one, and leaves all else as it is but for the log. -/
def Attempt.StaysOutside {α : Type} (body : Attempt α) : Prop :=
  ∀ context, (body.run.run context).2.muted =
    context.muted.charged (marshalErrorsIn (body.run.run context).1)

open Attempt

variable {kind : ResultKind} {α : Type}

theorem Attempt.Rejects.staysOutside {body : Attempt α} (hbody : Rejects body) :
    StaysOutside body := by
  intro context
  obtain ⟨fault, after, hrun, hrejected⟩ := hbody context
  rw [hrun]
  exact hrejected

/-- Out of the reach of exports, only the count of marshal errors shows a call that stays
on the managed side. -/
theorem Attempt.StaysOutside.outskirts {body : Attempt α} (hbody : StaysOutside body)
    (context : Context) :
    (body.run.run context).2.outskirts =
      context.outskirts.charged (marshalErrorsIn (body.run.run context).1) := by
  have hcharged : ∀ errors,
      (context.muted.charged errors).outskirts = context.muted.outskirts.charged errors :=
    fun _ => rfl
  rw [← Context.outskirts_muted, hbody context, hcharged, Context.outskirts_muted]

theorem Attempt.StaysOutside.entries {body : Attempt α} (hbody : StaysOutside body) :
    Keeps Context.entries body := by
  intro context
  rw [← Context.entries_outskirts, hbody.outskirts context]
  exact context.entries_outskirts

namespace AnyCrossing

theorem not_wellFormed_of_joining? {crossing : TextView → TextView → Crossing .text}
    {left right : ManagedText} (hnone : joining? crossing left right = none) :
    ¬ (Utf16.WellFormed left.units ∧ Utf16.WellFormed right.units) := by
  intro ⟨hleft, hright⟩
  obtain ⟨left, rfl⟩ := left.wellFormed_iff_exists_ofNative.mp hleft
  obtain ⟨right, rfl⟩ := right.wellFormed_iff_exists_ofNative.mp hright
  rw [joining?_ofNative] at hnone
  cases hnone

theorem not_wellFormed_of_making? {text : ManagedText} (hnone : making? (some text) = none) :
    ¬ Utf16.WellFormed text.units := by
  intro hwell
  obtain ⟨native, rfl⟩ := text.wellFormed_iff_exists_ofNative.mp hwell
  have hmade := making?_ofNative (some native)
  rw [Option.map_some, hnone] at hmade
  cases hmade

end AnyCrossing

namespace Proxy

variable {proxy : Proxy} {crossing : Handle → Crossing kind}

theorem isDisposed_of_crossing?_eq_none (hnone : proxy.crossing? crossing = none) :
    proxy.isDisposed = true := by
  by_contra hproxy
  rw [crossing?, if_neg hproxy] at hnone
  cases hnone

theorem not_disposed_of_crossing? {made : AnyCrossing}
    (hmade : proxy.crossing? crossing = some made) :
    proxy.isDisposed = false ∧ made = ⟨kind, crossing proxy.raw⟩ := by
  cases hproxy : proxy.isDisposed with
  | true =>
      rw [crossing?, if_pos hproxy] at hmade
      cases hmade
  | false =>
      rw [crossing?, hproxy] at hmade
      exact ⟨rfl, (Option.some.inj hmade).symm⟩

theorem exists_mirrors_ask {made : AnyCrossing} (hmade : proxy.crossing? crossing = some made) :
    ∃ decode, Mirrors made.2 decode (proxy.ask crossing) := by
  obtain ⟨hproxy, rfl⟩ := not_disposed_of_crossing? hmade
  rw [ask_of_not_disposed hproxy]
  exact ⟨id, Managed.mirrors_ask _⟩

theorem staysOutside_ask (hnone : proxy.crossing? crossing = none) :
    StaysOutside (proxy.ask crossing) := by
  intro context
  rw [run_ask_of_disposed (isDisposed_of_crossing?_eq_none hnone)]
  rfl

theorem staysOutside_duplicate (hnone : proxy.crossing? .duplicate = none) :
    StaysOutside proxy.duplicate := by
  intro context
  have hrefused := run_ask_of_disposed (isDisposed_of_crossing?_eq_none hnone)
    Crossing.duplicate context
  rw [duplicate, run_bind_error hrefused]
  rfl

theorem dispose_of_not_disposed (hproxy : proxy.isDisposed = false) :
    proxy.dispose = Managed.ask (.free proxy.raw) := by
  rw [dispose, hproxy]
  rfl

theorem dispose_of_disposed (hproxy : proxy.isDisposed = true) : proxy.dispose = pure () := by
  rw [dispose, hproxy]
  rfl

end Proxy

namespace Dynamic

theorem mirrors_call_of_crossing? {name : String} {args : List Value} {target : Export}
    {made : AnyCrossing} (hresolve : resolve? name args = .ok target)
    (hmade : target.crossing? args = some made) :
    Mirrors made.2 Value.ofResult (call name args) := by
  obtain ⟨-, hvalid⟩ := (resolve?_eq_ok_iff name args target).mp hresolve
  obtain ⟨typed, rfl, rfl⟩ := TypedCall.exists_of_validate hvalid
  obtain ⟨found, hfound, -, hmirrors⟩ :=
    mirrors_call hresolve (TypedCall.wellFormed_of_crossing? hmade)
  obtain rfl : made = found := Option.some.inj (hmade.symm.trans hfound)
  exact hmirrors

theorem rejects_call_of_crossing? {name : String} {args : List Value} {target : Export}
    (hresolve : resolve? name args = .ok target) (hnone : target.crossing? args = none) :
    Rejects (call name args) := by
  apply rejects_call_unpaired hresolve
  intro htexts
  obtain ⟨made, hmade, -, -⟩ := mirrors_call hresolve htexts
  rw [hnone] at hmade
  cases hmade

end Dynamic

namespace ManagedCall

/-- A call that gets to the boundary mirrors the direct call that it makes. -/
theorem exists_mirrors_perform {call : ManagedCall α} {made : AnyCrossing}
    (hmade : call.crossing? = some made) : ∃ decode, Mirrors made.2 decode call.perform := by
  cases call with
  | hello | printNumber number | add left right | printLength items =>
      cases hmade
      exact ⟨id, Managed.mirrors_ask _⟩
  | concat left right | concatLent left right =>
      obtain ⟨left, right, rfl, rfl, rfl⟩ := AnyCrossing.exists_ofNative_of_joining? hmade
      exact ⟨_, Library.mirrors_joinThrough _ left right⟩
  | getNumbers =>
      cases hmade
      exact ⟨_, Library.mirrors_getNumbers⟩
  | maybeMake name =>
      obtain ⟨native, hname, rfl⟩ := AnyCrossing.exists_ofNative_of_making? hmade
      obtain rfl : name = ⟨native.map .ofNative⟩ := congrArg ManagedOptional.mk hname
      exact ⟨_, Library.mirrors_maybeMake native⟩
  | maybeAddOne value =>
      cases hmade
      exact ⟨_, Library.mirrors_maybeAddOne value.content⟩
  | make =>
      cases hmade
      exact ⟨_, Managed.mirrors_ask_bind _ fun _ => gives_pure _⟩
  | duplicate proxy =>
      obtain ⟨decode, hmirrors⟩ := Proxy.exists_mirrors_ask hmade
      exact ⟨_, hmirrors.map fun _ => rfl⟩
  | handle proxy => cases hmade
  | printCopy proxy | print proxy | increment proxy | addTo proxy amount | get proxy =>
      rw [crossing?] at hmade
      exact Proxy.exists_mirrors_ask hmade
  | dispose proxy =>
      obtain ⟨hproxy, rfl⟩ := Proxy.not_disposed_of_crossing? hmade
      rw [perform, Proxy.dispose_of_not_disposed hproxy]
      exact ⟨id, Managed.mirrors_ask _⟩
  | byName name args =>
      cases hresolve : Dynamic.resolve? name args with
      | ok target =>
          rw [crossing?, hresolve] at hmade
          exact ⟨_, Dynamic.mirrors_call_of_crossing? hresolve hmade⟩
      | error fault =>
          rw [crossing?, hresolve] at hmade
          cases hmade

/-- A call that does not get there stays on the managed side. -/
theorem staysOutside_perform {call : ManagedCall α} (hnone : call.crossing? = none) :
    StaysOutside call.perform := by
  cases call with
  | concat left right | concatLent left right =>
      apply Rejects.staysOutside
      exact Library.rejects_joinThrough _ (AnyCrossing.not_wellFormed_of_joining? hnone)
  | maybeMake name =>
      rcases name with ⟨_ | text⟩
      · cases hnone
      · apply Rejects.staysOutside
        exact Library.rejects_maybeMake (AnyCrossing.not_wellFormed_of_making? hnone)
  | handle proxy =>
      intro context
      rw [perform, run_ofExcept, Proxy.handle]
      split <;> rfl
  | printCopy proxy | print proxy | increment proxy | addTo proxy amount | get proxy =>
      exact Proxy.staysOutside_ask hnone
  | duplicate proxy => exact Proxy.staysOutside_duplicate hnone
  | dispose proxy =>
      intro context
      rw [perform, Proxy.dispose_of_disposed (Proxy.isDisposed_of_crossing?_eq_none hnone)]
      rfl
  | byName name args =>
      apply Rejects.staysOutside
      cases hresolve : Dynamic.resolve? name args with
      | ok target =>
          rw [crossing?, hresolve] at hnone
          exact Dynamic.rejects_call_of_crossing? hresolve hnone
      | error fault => exact Dynamic.rejects_call_unresolved hresolve
  | hello | printNumber number | add left right | printLength items | getNumbers
  | maybeAddOne value | make => cases hnone

end ManagedCall

end InteropBridge
