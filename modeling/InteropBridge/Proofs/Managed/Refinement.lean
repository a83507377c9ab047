import InteropBridge.Proofs.Managed.Rejection
import Mathlib.Algebra.Group.Nat.Defs

/-!
# Calls by name refine direct calls

A call by name with fitting arguments is one direct call of the export it names, with the
arguments brought to their native forms and the result read back.  The two differ only in
the log and in the last error, which the call by name takes.
-/

namespace InteropBridge

open Attempt

namespace Crossing

/-- An object comes back exactly if a name was given. -/
theorem ends_maybeMake (name : Flagged TextView) :
    (maybeMake name).run.Ends (fun made => made.isPresent = name.isPresent) fun _ => True := by
  rcases name with ⟨_ | _, view⟩
  · exact ends_pure rfl
  · exact (ends_any (readText view)).bind fun _ _ =>
      (ends_any (Objects.register 0)).bind fun _ _ => ends_pure rfl

theorem isPresent_of_invoke {name : Flagged TextView} {place result : Flagged Handle}
    {context : Context}
    (hinvoke : (((maybeMake name).invoke (some place)).run context).1 = (.ok, some result)) :
    result.isPresent = name.isPresent := by
  have hends := ends_maybeMake name ((maybeMake name).entered context)
  rw [run_invoke, Option.isSome_some, attempt_true] at hinvoke
  rcases hrun : (maybeMake name).run.run.run ((maybeMake name).entered context) with
    ⟨error | made, after⟩ <;> rw [hrun] at hends hinvoke
  · exact absurd (congrArg Prod.fst hinvoke) error.status_ne_ok
  · cases hinvoke
    exact hends

end Crossing

namespace Dynamic

/-- What numbers and optionals come back as. -/
structure Answers (target : Export) (args : List Value) (result : Except BridgeError Value) :
    Prop where
  sum : ∀ left right, target = .add → args = [.int left, .int right] →
    ∃ sum, result = .ok (.int sum) ∧ sum.toInt = (left.toInt + right.toInt).bmod (2 ^ 32)
  oneMore : ∀ number : Option Int32, target = .maybeAddOne →
    args = [.ofOption (number.map .int)] →
      ∃ answer : Option Int32, result = .ok (.ofOption (answer.map .int)) ∧
        answer.map Int32.toInt = number.map fun number => (number.toInt + 1).bmod (2 ^ 32)
  presence : ∀ name : Option ManagedText, target = .maybeMake →
    args = [.ofOption (name.map .text)] → ∀ value, result = .ok value →
      ∃ handle, value = .ofOption (name.map fun _ => .object handle)

theorem answers_of_mirrored {target : Export} {args : List Value} {made : AnyCrossing}
    (hmade : target.crossing? args = some made) {context : Context}
    {performed : Except BridgeError Value × Context}
    (hmirrored : ∀ place,
      Crossing.Mirrored Value.ofResult ((made.2.invoke (some place)).run context) performed) :
    Answers target args performed.1 where
  sum left right htarget hargs := by
    subst htarget hargs
    cases hmade
    obtain ⟨result, hplace, hresult⟩ := (hmirrored (0 : Int32)).returned rfl
    cases hplace
    exact ⟨left + right, hresult, Int32.toInt_add left right⟩
  oneMore number htarget hargs := by
    subst htarget hargs
    have hnumber : made = ⟨.maybeInt, .maybeAddOne (.ofOption number)⟩ := by
      cases number <;> exact (Option.some.inj hmade).symm
    subst hnumber
    obtain ⟨result, hplace, hresult⟩ := (hmirrored (.ofOption none)).returned rfl
    cases hplace
    refine ⟨number.map (· + 1), ?_, ?_⟩
    · rw [hresult]
      cases number <;> rfl
    · cases number with
      | none => rfl
      | some number => exact congrArg some (Int32.toInt_add number 1)
  presence name htarget hargs value hvalue := by
    subst htarget hargs
    have hmaking : AnyCrossing.making? name = some made := by
      cases name <;> exact hmade
    obtain ⟨native, rfl, rfl⟩ := AnyCrossing.exists_ofNative_of_making? hmaking
    by_cases hok : (((Crossing.maybeMake ⟨native.isSome, native.elim (.null 0) .ofNative⟩).invoke
        (some (.ofOption none))).run context).1.1 = .ok
    · obtain ⟨made, hplace, hmadeValue⟩ := (hmirrored (.ofOption none)).returned hok
      have hpresent : made.isPresent = native.isSome :=
        Crossing.isPresent_of_invoke (Prod.ext hok hplace)
      obtain rfl : Value.ofResult made = value := Except.ok.inj (hmadeValue.symm.trans hvalue)
      refine ⟨made.value, ?_⟩
      simp only [Value.ofResult, Flagged.toOption, hpresent]
      cases native <;> rfl
    · obtain ⟨error, -, -, herror⟩ := (hmirrored (.ofOption none)).failed hok
      cases herror.symm.trans hvalue

/-- A call by name with fitting arguments, whose texts have native forms, does what one
direct call of the export does with the native forms of the arguments, whatever the place
for the result holds before: it returns the value that is then in the place, or the error
that the export failed with, and it leaves the same behind, but for the log and for the
last error, of which there is none afterwards. -/
theorem call_refines_crossing (name : String) (args : List Value) (target : Export)
    (hname : Export.ofName? name = some target) (hadmits : target.Admits args)
    (context : Context) :
    ∃ made : AnyCrossing, target.crossing? args = some made ∧ made.2.target = target ∧
      (∀ place : made.1.Result,
        Crossing.Mirrored Value.ofResult ((made.2.invoke (some place)).run context)
          ((call name args).run.run context)) ∧
      ((call name args).run.run context).2.thread.lastError = none ∧
      Answers target args ((call name args).run.run context).1 := by
  obtain ⟨made, hmade, htarget, hmirrors⟩ :=
    mirrors_call (resolve?_eq_ok_of_admits hname hadmits) hadmits.wellFormed
  have hmirrored := hmirrors context
  refine ⟨made, hmade, htarget, hmirrored, ?_, answers_of_mirrored hmade hmirrored⟩
  have hafter := (hmirrored made.1.blank).after
  exact congrArg Context.lastError hafter

/-- A sum that overflows wraps around, and the error that the thread had before is gone. -/
theorem call_refines_crossing_overflow :
    Export.ofName? "TestStaticClass.add" = some .add ∧
    Export.add.Admits [.int 2147483647, .int 1] ∧
    ∃ sum,
      ((call "TestStaticClass.add" [.int 2147483647, .int 1]).run.run
        { thread.lastError := some (.disposedHandle ⟨7⟩) }).1 = .ok (.int sum) ∧
      sum.toInt = -2147483648 ∧
      ((call "TestStaticClass.add" [.int 2147483647, .int 1]).run.run
        { thread.lastError := some (.disposedHandle ⟨7⟩) }).2.thread.lastError = none := by
  have hname : Export.ofName? "TestStaticClass.add" = some .add := by decide
  have hadmits : Export.add.Admits [.int 2147483647, .int 1] := ⟨rfl, by decide, nofun⟩
  obtain ⟨made, -, -, -, hnone, hanswers⟩ :=
    call_refines_crossing _ _ _ hname hadmits { thread.lastError := some (.disposedHandle ⟨7⟩) }
  obtain ⟨sum, hsum, hwraps⟩ := hanswers.sum _ _ rfl rfl
  exact ⟨hname, hadmits, sum, hsum, hwraps, hnone⟩

end Dynamic

end InteropBridge
