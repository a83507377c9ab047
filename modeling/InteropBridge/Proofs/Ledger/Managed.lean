import InteropBridge.Managed.Proxy
import InteropBridge.Proofs.Ledger.Crossing
import InteropBridge.Proofs.Managed.Calling
import InteropBridge.Proofs.Managed.TypedCall

/-!
# What managed calls tell

Managed callers reach the objects of a process through the library, through
proxies and by name.  On each of these paths the result tells what became of
handles and objects, just as the result of the export behind it does.
-/

namespace InteropBridge

open Attempt

namespace Library

theorem silent_joinThrough (crossing : TextView → TextView → Crossing .text)
    (hcrossing : ∀ left right, (crossing left right).happenings = fun _ => [])
    (left right : ManagedText) : Attempt.Silent (joinThrough crossing left right) := by
  refine (Managed.silent_lend left).bind fun left => ?_
  refine (Managed.silent_lend right).bind fun right => ?_
  have hask := Managed.records_ask (crossing (.ofNative left) (.ofNative right))
  rw [hcrossing] at hask
  exact Silent.bind hask fun buffer => records_lift (Managed.silent_adoptText buffer)

theorem silent_concat (left right : ManagedText) : Attempt.Silent (concat left right) :=
  silent_joinThrough .concat (fun _ _ => rfl) left right

theorem silent_concatLent (left right : ManagedText) :
    Attempt.Silent (concatLent left right) :=
  silent_joinThrough .concatLent (fun _ _ => rfl) left right

theorem silent_getNumbers : Attempt.Silent getNumbers :=
  Silent.bind (Managed.records_ask .getNumbers) fun buffer =>
    records_lift (Managed.silent_adoptSequence buffer)

theorem silent_maybeAddOne (value : ManagedOptional Int32) :
    Attempt.Silent (maybeAddOne value) :=
  Silent.bind (Managed.records_ask (.maybeAddOne (.ofOption value.content))) fun _ =>
    (looks_pure _).silent

theorem silent_lendName (name : Option ManagedText) :
    Attempt.Silent (name.mapM Managed.lend) := by
  cases name with
  | none => exact (looks_pure none).silent
  | some text =>
      rw [Option.mapM_some, map_eq_pure_bind]
      exact (Managed.silent_lend text).bind fun _ => (looks_pure _).silent

theorem records_maybeMake (name : ManagedOptional ManagedText) :
    Records (fun made => made.content.toList.map fun proxy => .made proxy.raw)
      (maybeMake name) := by
  refine (silent_lendName name.content).bind fun lent => ?_
  refine (Managed.records_ask _).map fun made => ?_
  change (made.toOption.map Proxy.adopt).toList.map _ = made.toOption.toList.map _
  cases made.toOption <;> rfl

end Library

namespace Proxy

/-- What letting go of the proxy tells of. -/
def parting (proxy : Proxy) : List Happening :=
  if proxy.isDisposed then [] else [.released proxy.raw]

variable {kind : ResultKind}

theorem records_ask (proxy : Proxy) (crossing : Handle → Crossing kind) :
    Records (crossing proxy.raw).happenings (proxy.ask crossing) := by
  rw [ask, handle]
  cases proxy.isDisposed with
  | true => exact fun context => .refl _
  | false => exact Managed.records_ask _

theorem records_make : Records (fun proxy => [.made proxy.raw]) make :=
  (Managed.records_ask .make).map fun _ => rfl

theorem records_duplicate (proxy : Proxy) :
    Records (fun copy => [.copied proxy.raw copy.raw]) proxy.duplicate :=
  (proxy.records_ask .duplicate).map fun _ => rfl

theorem records_dispose (proxy : Proxy) :
    Records (fun _ => proxy.parting) proxy.dispose := by
  rw [dispose, parting]
  cases proxy.isDisposed with
  | true => exact (looks_pure ()).silent
  | false => exact Managed.records_ask (.free proxy.raw)

/-- A proxy fails to be disposed of only if there is no object to be released. -/
theorem find_of_dispose_error {proxy : Proxy} {context after : Context}
    {error : BridgeError}
    (hdispose : proxy.dispose.run.run context = (.error error, after)) :
    proxy.isDisposed = false ∧ ∃ fault,
      context.process.objects.find proxy.raw = .error fault := by
  rw [dispose] at hdispose
  cases hdisposed : proxy.isDisposed with
  | true =>
      rw [hdisposed] at hdispose
      cases hdispose
  | false =>
      refine ⟨rfl, ?_⟩
      rw [hdisposed] at hdispose
      cases hfind : context.process.objects.find proxy.raw with
      | error fault => exact ⟨fault, rfl⟩
      | ok object =>
          obtain ⟨released, hfree⟩ := Managed.exists_run_ask_free hfind
          have hfailed : (Managed.ask (.free proxy.raw)).run.run context =
              (.error error, after) := hdispose
          rw [hfree] at hfailed
          cases hfailed

theorem records_drop (proxy : Proxy) : proxy.drop.Records fun _ => proxy.parting := by
  intro context
  have hturns := proxy.records_dispose context
  rw [drop, Native.run_bind]
  rcases hdispose : proxy.dispose.run.run context with ⟨error | value, after⟩
  · obtain ⟨hdisposed, fault, hfind⟩ := find_of_dispose_error hdispose
    rw [hdispose] at hturns
    have hpassed : Ledger.Turns context.process.ledger [.released proxy.raw]
        context.process.ledger := (Ledger.Turn.passed hfind).turns
    rw [parting, hdisposed]
    exact hpassed.trans hturns
  · rw [hdispose] at hturns
    exact hturns

end Proxy

namespace Dynamic

/-- What the value of a call by name tells of, given the export it meant. -/
def told : Export → List Value → Value → List Happening
  | .make, _, .object handle => [.made handle]
  | .maybeMake, _, .present (.object handle) => [.made handle]
  | .duplicate, [.object source], .object handle => [.copied source handle]
  | .increment, [.object handle], _ => [.added handle 1]
  | .addTo, [.object handle, .int amount], _ => [.added handle amount]
  | .free, [.object handle], _ => [.released handle]
  | _, _, _ => []

/-- What the value of a call by name tells of. -/
def happenings (name : String) (args : List Value) (value : Value) : List Happening :=
  (Export.ofName? name).toList.flatMap fun target => told target args value

end Dynamic

theorem TypedCall.records_perform (call : TypedCall) :
    Records (Dynamic.told call.target call.args) call.perform := by
  cases call with
  | hello | printNumber | printLength | printCopy | print =>
      exact (Managed.records_ask _).map fun _ => rfl
  | add | get => exact (Managed.records_ask _).map fun _ => rfl
  | make | free | duplicate | increment | addTo =>
      exact (Managed.records_ask _).map fun _ => rfl
  | concat left right => exact (Library.silent_concat left right).map fun _ => rfl
  | concatLent left right => exact (Library.silent_concatLent left right).map fun _ => rfl
  | getNumbers => exact Library.silent_getNumbers.map fun _ => rfl
  | maybeMake name =>
      refine (Library.records_maybeMake ⟨name⟩).map fun made => ?_
      cases made.content <;> rfl
  | maybeAddOne number => exact (Library.silent_maybeAddOne ⟨number⟩).map fun _ => rfl

namespace Dynamic

/-- A call by name tells what the typed call behind it tells; one that is refused
touches no object. -/
theorem records_call (name : String) (args : List Value) :
    Records (happenings name args) (call name args) := by
  intro context
  cases hresolve : resolve? name args with
  | error fault =>
      rw [run_call_refused hresolve]
      exact .refl _
  | ok target =>
      obtain ⟨hname, hvalid⟩ := (resolve?_eq_ok_iff name args target).mp hresolve
      obtain ⟨typed, rfl, rfl⟩ := TypedCall.exists_of_validate hvalid
      have hturns := typed.records_perform
        (noted (.dispatching typed.target.signature.text) context)
      rw [run_call_resolved hresolve, typed.dispatch_args]
      rcases hperform : typed.perform.run.run
          (noted (.dispatching typed.target.signature.text) context) with
        ⟨error | value, after⟩
      · rw [hperform] at hturns
        exact hturns
      · rw [hperform] at hturns
        have hsettled : (settled name typed.target value after).process.ledger =
            after.process.ledger := by
          rw [settled]
          split <;> rfl
        have hhappenings : happenings name typed.args value =
            told typed.target typed.args value := by
          rw [happenings, hname]
          exact List.append_nil _
        dsimp only
        rw [hsettled]
        change Ledger.Turns _ (happenings name typed.args value) _
        rw [hhappenings]
        exact hturns

end Dynamic

end InteropBridge
