import InteropBridge.Proofs.Managed.Asking
import InteropBridge.Proofs.Managed.Calling
import InteropBridge.Proofs.Managed.TypedCall

/-!
# Signatures and dispatch agree

Arguments that a signature accepts are dispatched without any further complaint
about their number or types, and what a call by name returns conforms to the
result type of the signature.
-/

namespace InteropBridge

open Attempt

namespace Library

theorem fits_joinThrough (crossing : TextView → TextView → Crossing .text)
    (left right : ManagedText) : (joinThrough crossing left right).FitsSignatures :=
  (Managed.fits_lend left).bind fun _ _ =>
    (Managed.fits_lend right).bind fun _ _ =>
      (Managed.fits_ask _).bind fun _ _ => ends_lift _

theorem fits_getNumbers : getNumbers.FitsSignatures :=
  (Managed.fits_ask _).bind fun _ _ => ends_lift _

theorem fits_lendName (name : Option ManagedText) :
    (name.mapM Managed.lend).FitsSignatures := by
  cases name with
  | none => exact ends_pure trivial
  | some text =>
      rw [Option.mapM_some, map_eq_pure_bind]
      exact (Managed.fits_lend text).bind fun _ _ => ends_pure trivial

theorem fits_maybeMake (name : Option ManagedText) :
    (maybeMake ⟨name⟩).FitsSignatures :=
  (fits_lendName name).bind fun _ _ =>
    (Managed.fits_ask _).bind fun _ _ => ends_pure trivial

theorem fits_maybeAddOne (number : Option Int32) :
    (maybeAddOne ⟨number⟩).FitsSignatures :=
  (Managed.fits_ask _).bind fun _ _ => ends_pure trivial

end Library

namespace TypedCall

/-- A typed call returns what its signature promises, and does not complain about
the signature. -/
theorem sound_perform (call : TypedCall) :
    call.perform.Ends
      (fun value => value.conforms call.target.signature.result = true)
      fun error => error.isSignatureFault = false := by
  cases call with
  | hello | printNumber | printLength | printCopy | free | print | increment | addTo =>
      exact (Managed.fits_ask _).bind fun _ _ => ends_pure rfl
  | add | make | duplicate | get =>
      exact (Managed.fits_ask _).bind fun _ _ => ends_pure rfl
  | concat left right =>
      exact (Library.fits_joinThrough _ left right).bind fun _ _ => ends_pure rfl
  | concatLent left right =>
      exact (Library.fits_joinThrough _ left right).bind fun _ _ => ends_pure rfl
  | getNumbers => exact Library.fits_getNumbers.bind fun _ _ => ends_pure rfl
  | maybeMake name =>
      refine (Library.fits_maybeMake name).bind fun made _ => ends_pure ?_
      cases made.content <;> rfl
  | maybeAddOne number =>
      refine (Library.fits_maybeAddOne number).bind fun answer _ => ends_pure ?_
      cases answer.content <;> rfl

end TypedCall

namespace Dynamic

theorem sound_dispatch {target : Export} {args : List Value}
    (hvalid : target.signature.validate args = .ok ()) :
    (dispatch target.name args).Ends
      (fun value => value.conforms target.signature.result = true)
      fun error => error.isSignatureFault = false := by
  obtain ⟨call, rfl, rfl⟩ := TypedCall.exists_of_validate hvalid
  rw [TypedCall.dispatch_args]
  exact call.sound_perform

theorem sound_call {name : String} {args : List Value} {target : Export}
    (hresolve : resolve? name args = .ok target) :
    (call name args).Ends
      (fun value => value.conforms target.signature.result = true)
      fun error => error.isSignatureFault = false := by
  intro context
  obtain ⟨-, hvalid⟩ := (resolve?_eq_ok_iff name args target).mp hresolve
  have hends := sound_dispatch hvalid
    (noted (.dispatching target.signature.text) context)
  rw [run_call_resolved hresolve]
  rcases hdispatch : (dispatch target.name args).run.run
      (noted (.dispatching target.signature.text) context) with ⟨error | value, after⟩ <;>
  · rw [hdispatch] at hends
    exact hends

theorem resolve?_of_call {name : String} {args : List Value} {value : Value}
    {context after : Context}
    (hcall : (call name args).run.run context = (.ok value, after)) :
    ∃ target, resolve? name args = .ok target := by
  cases hresolve : resolve? name args with
  | ok target => exact ⟨target, rfl⟩
  | error fault =>
      rw [run_call_refused hresolve] at hcall
      cases hcall

/-- For every name in the table, arguments that its signature accepts never meet a
complaint about name, number of arguments or types again, and whatever arguments
a call by that name returns a value for, the value conforms to the result type. -/
theorem call_agrees_with_signature (name : String) (target : Export) (args : List Value)
    (hname : Export.ofName? name = some target) (context : Context) :
    (target.signature.validate args = .ok () →
      (∀ error after, (dispatch name args).run.run context = (.error error, after) →
        error.isSignatureFault = false) ∧
      ∀ error after, (call name args).run.run context = (.error error, after) →
        error.isSignatureFault = false) ∧
    ∀ value after, (call name args).run.run context = (.ok value, after) →
      value.conforms target.signature.result = true := by
  refine ⟨fun hvalid => ⟨?_, ?_⟩, ?_⟩
  · intro error after hdispatch
    have hends := sound_dispatch hvalid context
    rw [name_of_ofName? hname] at hends
    rw [hdispatch] at hends
    exact hends
  · intro error after hcall
    have hresolve := (resolve?_eq_ok_iff name args target).mpr ⟨hname, hvalid⟩
    have hends := sound_call hresolve context
    rw [hcall] at hends
    exact hends
  · intro value after hcall
    obtain ⟨found, hresolve⟩ := resolve?_of_call hcall
    obtain ⟨hfound, -⟩ := (resolve?_eq_ok_iff name args found).mp hresolve
    obtain rfl : found = target := Option.some.inj (hfound.symm.trans hname)
    have hends := sound_call hresolve context
    rw [hcall] at hends
    exact hends

/-- An object that may come back does come back for a name, as an optional handle. -/
theorem call_agrees_with_signature_maybeMake :
    Export.ofName? "TestStaticClass.maybe_return_class" = some .maybeMake ∧
    ((call "TestStaticClass.maybe_return_class" [.present (.text ⟨[97]⟩)]).run.run {}).1 =
      .ok (.present (.object ⟨1⟩)) ∧
    (Value.present (.object ⟨1⟩)).conforms Export.maybeMake.signature.result = true := by
  have hname : Export.ofName? "TestStaticClass.maybe_return_class" = some .maybeMake := by
    decide
  have hcall : ((call "TestStaticClass.maybe_return_class"
      [.present (.text ⟨[97]⟩)]).run.run {}).1 = .ok (.present (.object ⟨1⟩)) := by
    rfl
  obtain ⟨-, hvalue⟩ := call_agrees_with_signature _ .maybeMake
    [.present (.text ⟨[97]⟩)] hname {}
  refine ⟨hname, hcall, hvalue _ _ (Prod.ext hcall rfl)⟩

end Dynamic

end InteropBridge
