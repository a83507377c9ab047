import InteropBridge.Proofs.Managed.DirectCall

/-!
# Rejected calls by name

A call by name has two chances to be rejected before anything crosses: by name and
signature, and when its texts are converted.  A call that passes both enters exactly
the export it names; one that fails either is counted as a marshal error and leaves
everything else as it was, an earlier error of the thread included.
-/

namespace InteropBridge

namespace Export

/-- The arguments are as many as the export has parameters, each conforms to its
parameter, and the texts in them have native forms. -/
structure Admits (target : Export) (args : List Value) : Prop where
  length_eq : args.length = target.signature.arity
  conforms : ∀ pair ∈ args.zip target.signature.params, pair.1.conforms pair.2 = true
  wellFormed : ∀ text ∈ args.flatMap Value.texts, Utf16.WellFormed text.units

theorem admits_iff_validate (target : Export) (args : List Value) :
    target.Admits args ↔
      target.signature.validate args = .ok () ∧
        ∀ text ∈ args.flatMap Value.texts, Utf16.WellFormed text.units := by
  rw [Signature.validate_eq_ok_iff, List.forall₂_iff_zip]
  constructor
  · rintro ⟨hlength, hconforms, hwell⟩
    exact ⟨⟨hlength, fun hpair => hconforms _ hpair⟩, hwell⟩
  · rintro ⟨⟨hlength, hconforms⟩, hwell⟩
    exact ⟨hlength, fun _ hpair => hconforms hpair, hwell⟩

theorem find?_symbol (target : Export) :
    all.find? (·.symbol == target.symbol) = some target := by
  cases target <;> decide

theorem symbol_injective : Function.Injective symbol := by
  intro left right hsymbol
  have hfind := find?_symbol left
  rw [hsymbol, find?_symbol right] at hfind
  exact (Option.some.inj hfind).symm

/-- The event for a call tells which export was called. -/
theorem called_injective : Function.Injective fun target : Export =>
    Log.Event.called target.symbol target.signature.arity := by
  intro left right hcalled
  have hfields := congrArg Log.Event.fields hcalled
  have hsymbol : left.symbol = right.symbol := by
    simpa [Log.Event.called] using (List.cons.inj hfields).1
  exact symbol_injective hsymbol

end Export

namespace Context

/-- The log tells which export was entered. -/
theorem Entered.unique {left right : Export} {before after : Context}
    (hleft : Entered left before after) (hright : Entered right before after) :
    left = right := by
  have hlogged := hleft.logged.symm.trans hright.logged
  exact Export.called_injective (List.cons.inj hlogged).1

theorem Rejected.not_entered {target : Export} {before after : Context}
    (hrejected : Rejected before after) : ¬ Entered target before after := by
  intro hentered
  have hcounted := hentered.counted
  have hmuted : after.muted.process.tally.callsMade = before.process.tally.callsMade := by
    rw [hrejected]
    rfl
  change after.muted.process.tally.callsMade = before.process.tally.callsMade + 1 at hcounted
  omega

end Context

open Attempt

namespace Library

theorem rejects_joinThrough (crossing : TextView → TextView → Crossing .text)
    {left right : ManagedText}
    (hunpaired : ¬ (Utf16.WellFormed left.units ∧ Utf16.WellFormed right.units)) :
    Rejects (joinThrough crossing left right) := by
  by_cases hleft : Utf16.WellFormed left.units
  · have hright := fun hright => hunpaired ⟨hleft, hright⟩
    obtain ⟨left, rfl⟩ := (ManagedText.wellFormed_iff_exists_ofNative left).mp hleft
    exact .of_gives (Managed.gives_lend left) ((Managed.rejects_lend hright).bind _)
  · exact (Managed.rejects_lend hleft).bind _

theorem rejects_maybeMake {text : ManagedText} (hunpaired : ¬ Utf16.WellFormed text.units) :
    Rejects (maybeMake ⟨some text⟩) :=
  (Managed.rejects_lendName hunpaired).bind _

end Library

namespace TypedCall

/-- A typed call with a text that has no native form is rejected. -/
theorem rejects_perform {call : TypedCall}
    (htexts : ¬ ∀ text ∈ call.args.flatMap Value.texts, Utf16.WellFormed text.units) :
    Rejects call.perform := by
  cases call with
  | concat left right | concatLent left right =>
      refine (Library.rejects_joinThrough _ fun ⟨hleft, hright⟩ => htexts ?_).bind _
      simp [args, Value.texts, hleft, hright]
  | maybeMake name =>
      cases name with
      | none => simp [args, Value.ofOption, Value.texts] at htexts
      | some text =>
          refine (Library.rejects_maybeMake fun htext => htexts ?_).bind _
          simp [args, Value.ofOption, Value.texts, htext]
  | maybeAddOne number =>
      cases number <;> simp [args, Value.ofOption, Value.texts] at htexts
  | _ => simp [args, Value.texts] at htexts

end TypedCall

namespace Dynamic

theorem enters_call {name : String} {args : List Value} {target : Export}
    (hresolve : resolve? name args = .ok target)
    (htexts : ∀ text ∈ args.flatMap Value.texts, Utf16.WellFormed text.units) :
    Enters target (call name args) := by
  obtain ⟨made, -, rfl, hmirrors⟩ := mirrors_call hresolve htexts
  exact hmirrors.enters

theorem rejects_call_unpaired {name : String} {args : List Value} {target : Export}
    (hresolve : resolve? name args = .ok target)
    (htexts : ¬ ∀ text ∈ args.flatMap Value.texts, Utf16.WellFormed text.units) :
    Rejects (call name args) := by
  intro context
  obtain ⟨-, hvalid⟩ := (resolve?_eq_ok_iff name args target).mp hresolve
  obtain ⟨typed, rfl, rfl⟩ := TypedCall.exists_of_validate hvalid
  have hbefore := muted_noted
    (Log.Event.isCall_dispatching typed.target.signature.text) context
  obtain ⟨fault, after, hrun, hrejected⟩ := TypedCall.rejects_perform htexts
    (noted (.dispatching typed.target.signature.text) context)
  have hafter := muted_noted (Log.Event.isCall_dynamicCallFailed name
    (BridgeError.marshal fault).message) after
  refine ⟨fault, _, ?_, .of_muted_eq hbefore hrejected hafter⟩
  rw [run_call_resolved hresolve, TypedCall.dispatch_args, hrun]

theorem rejects_call_unresolved {name : String} {args : List Value} {fault : MarshalError}
    (hresolve : resolve? name args = .error fault) : Rejects (call name args) := by
  intro context
  have hafter := muted_noted (Log.Event.isCall_dynamicCallFailed name
    (BridgeError.marshal fault).message) (Native.countMarshalError.run context).2
  have hrejected : context.Rejected (Native.countMarshalError.run context).2 := rfl
  exact ⟨fault, _, run_call_refused hresolve context, .of_muted_eq rfl hrejected hafter⟩

theorem resolve?_eq_ok_of_admits {name : String} {args : List Value} {target : Export}
    (hname : Export.ofName? name = some target) (hadmits : target.Admits args) :
    resolve? name args = .ok target := by
  obtain ⟨hvalid, -⟩ := (target.admits_iff_validate args).mp hadmits
  exact (resolve?_eq_ok_iff name args target).mpr ⟨hname, hvalid⟩

theorem enters_call_of_admits {name : String} {args : List Value} {target : Export}
    (hname : Export.ofName? name = some target) (hadmits : target.Admits args) :
    Enters target (call name args) :=
  enters_call (resolve?_eq_ok_of_admits hname hadmits) hadmits.wellFormed

theorem rejects_call {name : String} {args : List Value}
    (hadmits : ∀ target, Export.ofName? name = some target → ¬ target.Admits args) :
    Rejects (call name args) := by
  cases hresolve : resolve? name args with
  | error fault => exact rejects_call_unresolved hresolve
  | ok target =>
      obtain ⟨hname, hvalid⟩ := (resolve?_eq_ok_iff name args target).mp hresolve
      refine rejects_call_unpaired hresolve fun htexts => hadmits target hname ?_
      exact (target.admits_iff_validate args).mpr ⟨hvalid, htexts⟩

/-- A call by name enters an export exactly if the name and the arguments fit it and
the texts have native forms, and then it enters that export only.  Every other call
fails with a marshal error, which is counted, and changes nothing else but the log. -/
theorem call_enters_or_rejects (name : String) (args : List Value) (context : Context) :
    (∀ target, context.Entered target ((call name args).run.run context).2 ↔
      Export.ofName? name = some target ∧ target.Admits args) ∧
    ((∀ target, Export.ofName? name = some target → ¬ target.Admits args) →
      ∃ fault after, (call name args).run.run context = (.error (.marshal fault), after) ∧
        context.Rejected after) := by
  refine ⟨fun target => ⟨fun hentered => ?_, ?_⟩, fun hadmits => rejects_call hadmits context⟩
  · by_cases hadmits : ∃ found, Export.ofName? name = some found ∧ found.Admits args
    · obtain ⟨found, hname, hfound⟩ := hadmits
      have hother := enters_call_of_admits hname hfound context
      obtain rfl := hentered.unique hother
      exact ⟨hname, hfound⟩
    · have hnone : ∀ found, Export.ofName? name = some found → ¬ found.Admits args :=
        fun found hname hfound => hadmits ⟨found, hname, hfound⟩
      obtain ⟨fault, after, hrun, hrejected⟩ := rejects_call hnone context
      rw [hrun] at hentered
      exact absurd hentered hrejected.not_entered
  · rintro ⟨hname, hadmits⟩
    exact enters_call_of_admits hname hadmits context

/-- Text that only the second argument spoils is noticed before anything crosses, and
the error that the thread had before is still there. -/
theorem call_enters_or_rejects_second_text :
    ∃ fault after,
      (call "TestStaticClass.concat" [.text ⟨[97]⟩, .text ⟨[0xDC00]⟩]).run.run
          { thread.lastError := some (.disposedHandle ⟨7⟩) } =
        (.error (.marshal fault), after) ∧
      after.thread.lastError = some (.disposedHandle ⟨7⟩) ∧
      after.process.tally = { marshalErrors := 1 } := by
  have hadmits : ∀ target, Export.ofName? "TestStaticClass.concat" = some target →
      ¬ target.Admits [.text ⟨[97]⟩, .text ⟨[0xDC00]⟩] := by
    intro target hname ⟨_, _, hwell⟩
    obtain ⟨previous, hprevious, -⟩ :=
      (hwell ⟨[0xDC00]⟩ (by decide)).high_before_low 0 (by decide)
    omega
  obtain ⟨-, hrejects⟩ := call_enters_or_rejects "TestStaticClass.concat"
    [.text ⟨[97]⟩, .text ⟨[0xDC00]⟩] { thread.lastError := some (.disposedHandle ⟨7⟩) }
  obtain ⟨fault, after, hrun, hrejected⟩ := hrejects hadmits
  have hthread : after.muted.thread.lastError = some (.disposedHandle ⟨7⟩) := by
    rw [hrejected]
    rfl
  have htally : after.muted.process.tally = { marshalErrors := 1 } := by
    rw [hrejected]
    rfl
  exact ⟨fault, after, hrun, hthread, htally⟩

end Dynamic

end InteropBridge
