import InteropBridge.Proofs.Managed.ManagedCall

/-!
# Calls that end alike everywhere

A managed call that does not get to the boundary is settled by its arguments.  It never sees
the objects or the settings, so it ends alike wherever it is made.
-/

namespace InteropBridge

/-- Wherever it runs, the computation ends in the same result or the same error. -/
abbrev Attempt.Steady {α : Type} (body : Attempt α) : Prop :=
  Respects (fun _ _ => True) body

open Attempt

namespace Attempt

variable {α β : Type}

/-- What would come after a rejection makes no difference. -/
theorem Steady.bind_of_rejects {body : Attempt α} (hbody : Steady body) (hrejects : Rejects body)
    (next : α → Attempt β) : Steady (body >>= next) := by
  intro left right _
  obtain ⟨fault, leftAfter, hleft, -⟩ := hrejects left
  obtain ⟨other, rightAfter, hright, -⟩ := hrejects right
  have hresult := (hbody left right trivial).1
  rw [hleft, hright] at hresult
  cases hresult
  rw [run_bind_error hleft, run_bind_error hright]
  exact ⟨rfl, trivial⟩

end Attempt

namespace Managed

theorem steady_lend (text : ManagedText) : Steady (lend text) := by
  intro left right _
  rw [run_lend, run_lend]
  cases text.toNative <;> exact ⟨rfl, trivial⟩

theorem steady_lendName (text : ManagedText) : Steady ((some text).mapM lend) := by
  rw [Option.mapM_some, map_eq_pure_bind]
  exact (steady_lend text).bind fun _ => respects_pure _

end Managed

namespace Library

theorem steady_joinThrough (crossing : TextView → TextView → Crossing .text)
    {left right : ManagedText}
    (hunpaired : ¬ (Utf16.WellFormed left.units ∧ Utf16.WellFormed right.units)) :
    Steady (joinThrough crossing left right) := by
  by_cases hleft : Utf16.WellFormed left.units
  · have hright := fun hright => hunpaired ⟨hleft, hright⟩
    exact (Managed.steady_lend left).bind fun _ =>
      (Managed.steady_lend right).bind_of_rejects (Managed.rejects_lend hright) _
  · exact (Managed.steady_lend left).bind_of_rejects (Managed.rejects_lend hleft) _

theorem steady_maybeMake {text : ManagedText} (hunpaired : ¬ Utf16.WellFormed text.units) :
    Steady (maybeMake ⟨some text⟩) :=
  (Managed.steady_lendName text).bind_of_rejects (Managed.rejects_lendName hunpaired) _

end Library

theorem TypedCall.steady_perform {call : TypedCall}
    (htexts : ¬ ∀ text ∈ call.args.flatMap Value.texts, Utf16.WellFormed text.units) :
    Steady call.perform := by
  cases call with
  | concat left right | concatLent left right =>
      have hunpaired : ¬ (Utf16.WellFormed left.units ∧ Utf16.WellFormed right.units) := by
        intro ⟨hleft, hright⟩
        apply htexts
        simp [args, Value.texts, hleft, hright]
      exact (Library.steady_joinThrough _ hunpaired).bind fun _ => respects_pure _
  | maybeMake name =>
      cases name with
      | none => simp [args, Value.ofOption, Value.texts] at htexts
      | some text =>
          have hunpaired : ¬ Utf16.WellFormed text.units := by
            intro htext
            apply htexts
            simp [args, Value.ofOption, Value.texts, htext]
          exact (Library.steady_maybeMake hunpaired).bind fun _ => respects_pure _
  | maybeAddOne number =>
      cases number <;> simp [args, Value.ofOption, Value.texts] at htexts
  | _ => simp [args, Value.texts] at htexts

namespace Dynamic

theorem steady_call_unresolved {name : String} {args : List Value} {fault : MarshalError}
    (hresolve : resolve? name args = .error fault) : Steady (call name args) := by
  intro left right _
  rw [run_call_refused hresolve, run_call_refused hresolve]
  exact ⟨rfl, trivial⟩

theorem steady_call_unpaired {name : String} {args : List Value} {target : Export}
    (hresolve : resolve? name args = .ok target) (hnone : target.crossing? args = none) :
    Steady (call name args) := by
  obtain ⟨-, hvalid⟩ := (resolve?_eq_ok_iff name args target).mp hresolve
  obtain ⟨typed, rfl, rfl⟩ := TypedCall.exists_of_validate hvalid
  have htexts : ¬ ∀ text ∈ typed.args.flatMap Value.texts, Utf16.WellFormed text.units := by
    intro htexts
    obtain ⟨made, hmade, -, -⟩ := mirrors_call hresolve htexts
    rw [hnone] at hmade
    cases hmade
  intro left right _
  have hresult := (TypedCall.steady_perform htexts
    (noted (.dispatching typed.target.signature.text) left)
    (noted (.dispatching typed.target.signature.text) right) trivial).1
  rw [run_call_resolved hresolve, run_call_resolved hresolve, typed.dispatch_args]
  rcases hleft : typed.perform.run.run (noted (.dispatching typed.target.signature.text) left)
    with ⟨found, leftAfter⟩
  rcases hright : typed.perform.run.run (noted (.dispatching typed.target.signature.text) right)
    with ⟨other, rightAfter⟩
  rw [hleft, hright] at hresult
  obtain rfl : found = other := hresult
  cases found <;> exact ⟨rfl, trivial⟩

end Dynamic

theorem Proxy.steady_ask {kind : ResultKind} {proxy : Proxy} {crossing : Handle → Crossing kind}
    (hnone : proxy.crossing? crossing = none) : Steady (proxy.ask crossing) := by
  intro left right _
  have hproxy := isDisposed_of_crossing?_eq_none hnone
  rw [run_ask_of_disposed hproxy, run_ask_of_disposed hproxy]
  exact ⟨rfl, trivial⟩

theorem ManagedCall.steady_perform {α : Type} {call : ManagedCall α}
    (hnone : call.crossing? = none) : Steady call.perform := by
  cases call with
  | concat left right | concatLent left right =>
      exact Library.steady_joinThrough _ (AnyCrossing.not_wellFormed_of_joining? hnone)
  | maybeMake name =>
      rcases name with ⟨_ | text⟩
      · cases hnone
      · exact Library.steady_maybeMake (AnyCrossing.not_wellFormed_of_making? hnone)
  | handle proxy => exact respects_ofExcept _
  | printCopy proxy | print proxy | increment proxy | addTo proxy amount | get proxy =>
      exact Proxy.steady_ask hnone
  | duplicate proxy => exact (Proxy.steady_ask hnone).bind fun _ => respects_pure _
  | dispose proxy =>
      rw [perform, Proxy.dispose_of_disposed (Proxy.isDisposed_of_crossing?_eq_none hnone)]
      exact respects_pure ()
  | byName name args =>
      cases hresolve : Dynamic.resolve? name args with
      | ok target =>
          rw [crossing?, hresolve] at hnone
          exact Dynamic.steady_call_unpaired hresolve hnone
      | error fault => exact Dynamic.steady_call_unresolved hresolve
  | hello | printNumber number | add left right | printLength items | getNumbers
  | maybeAddOne value | make => cases hnone

end InteropBridge
