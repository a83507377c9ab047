import InteropBridge.Proofs.Managed.Mirroring
import InteropBridge.Proofs.Managed.TypedCall

/-!
# The direct call behind a call by name

Loose arguments that fit an export, and whose texts have native forms, stand for one
direct call of it.  Calling the export by name with them mirrors that call.
-/

namespace InteropBridge

/-- The texts in a value that would cross with it. -/
def Value.texts : Value → List ManagedText
  | text content => [content]
  | present value => value.texts
  | void | int _ | list _ | object _ | absent => []

/-- A direct call of some export. -/
abbrev AnyCrossing := (kind : ResultKind) × Crossing kind

/-- A view of the native form of a text, if it has one. -/
def ManagedText.view? (text : ManagedText) : Option TextView :=
  text.toNative.toOption.map .ofNative

namespace AnyCrossing

/-- The call that joins two texts, if both have native forms. -/
def joining? (crossing : TextView → TextView → Crossing .text) (left right : ManagedText) :
    Option AnyCrossing := do
  let left ← left.view?
  let right ← right.view?
  return ⟨.text, crossing left right⟩

/-- The call that makes an object for a name, if the name that is given has a native
form. -/
def making? : Option ManagedText → Option AnyCrossing
  | none => some ⟨.maybeHandle, .maybeMake ⟨false, .null 0⟩⟩
  | some name => do
      let view ← name.view?
      return ⟨.maybeHandle, .maybeMake ⟨true, view⟩⟩

end AnyCrossing

namespace Export

/-- The direct call of the export that loose arguments stand for, if they fit it. -/
def crossing? : Export → List Value → Option AnyCrossing
  | hello, [] => some ⟨_, .hello⟩
  | printNumber, [.int number] => some ⟨_, .printNumber number⟩
  | add, [.int left, .int right] => some ⟨_, .add left right⟩
  | concat, [.text left, .text right] => AnyCrossing.joining? .concat left right
  | concatLent, [.text left, .text right] => AnyCrossing.joining? .concatLent left right
  | printCopy, [.object handle] => some ⟨_, .printCopy handle⟩
  | printLength, [.list items] => some ⟨_, .printLength (.ofList items)⟩
  | getNumbers, [] => some ⟨_, .getNumbers⟩
  | maybeMake, [.absent] => AnyCrossing.making? none
  | maybeMake, [.present (.text name)] => AnyCrossing.making? (some name)
  | maybeAddOne, [.absent] => some ⟨_, .maybeAddOne (.ofOption none)⟩
  | maybeAddOne, [.present (.int number)] => some ⟨_, .maybeAddOne (.ofOption (some number))⟩
  | make, [] => some ⟨_, .make⟩
  | free, [.object handle] => some ⟨_, .free handle⟩
  | duplicate, [.object handle] => some ⟨_, .duplicate handle⟩
  | print, [.object handle] => some ⟨_, .print handle⟩
  | increment, [.object handle] => some ⟨_, .increment handle⟩
  | addTo, [.object handle, .int amount] => some ⟨_, .addTo handle amount⟩
  | get, [.object handle] => some ⟨_, .get handle⟩
  | _, _ => none

end Export

/-- The result of an export as a loose value, text brought back to UTF-16. -/
def Value.ofResult : {kind : ResultKind} → kind.Result → Value
  | .nothing, _ => .void
  | .int, number => .int number
  | .text, buffer => .text (.ofNative buffer.content)
  | .handle, handle => .object handle
  | .sequence, buffer => .list buffer.content
  | .maybeHandle, made => .ofOption (made.toOption.map .object)
  | .maybeInt, answer => .ofOption (answer.toOption.map .int)

open Attempt

namespace ManagedText

theorem view?_ofNative (native : NativeText) :
    (ofNative native).view? = some (.ofNative native) := by
  rw [view?, toNative_ofNative]
  rfl

theorem exists_ofNative_of_view? {text : ManagedText} {view : TextView}
    (hview : text.view? = some view) :
    ∃ native, text = ofNative native ∧ view = .ofNative native := by
  cases hnative : text.toNative with
  | ok native =>
      rw [view?, hnative] at hview
      exact ⟨native, (text.toNative_eq_ok_iff native).mp hnative, (Option.some.inj hview).symm⟩
  | error fault =>
      rw [view?, hnative] at hview
      cases hview

end ManagedText

namespace AnyCrossing

theorem joining?_ofNative (crossing : TextView → TextView → Crossing .text)
    (left right : NativeText) :
    joining? crossing (.ofNative left) (.ofNative right) =
      some ⟨.text, crossing (.ofNative left) (.ofNative right)⟩ := by
  rw [joining?, ManagedText.view?_ofNative, ManagedText.view?_ofNative]
  rfl

theorem making?_ofNative (name : Option NativeText) :
    making? (name.map .ofNative) =
      some ⟨.maybeHandle,
        .maybeMake { isPresent := name.isSome, value := name.elim (.null 0) .ofNative }⟩ := by
  cases name with
  | none => rfl
  | some native =>
      rw [Option.map_some, making?, ManagedText.view?_ofNative]
      rfl

/-- Texts that can be joined have native forms. -/
theorem exists_ofNative_of_joining? {crossing : TextView → TextView → Crossing .text}
    {left right : ManagedText} {made : AnyCrossing}
    (hmade : joining? crossing left right = some made) :
    ∃ leftNative rightNative, left = .ofNative leftNative ∧ right = .ofNative rightNative ∧
      made = ⟨.text, crossing (.ofNative leftNative) (.ofNative rightNative)⟩ := by
  obtain ⟨leftView, hleft, hrest⟩ := Option.bind_eq_some_iff.mp hmade
  obtain ⟨rightView, hright, hcrossing⟩ := Option.bind_eq_some_iff.mp hrest
  obtain ⟨leftNative, rfl, rfl⟩ := ManagedText.exists_ofNative_of_view? hleft
  obtain ⟨rightNative, rfl, rfl⟩ := ManagedText.exists_ofNative_of_view? hright
  exact ⟨leftNative, rightNative, rfl, rfl, (Option.some.inj hcrossing).symm⟩

/-- A name that an object can be made for has a native form, and whether a name is given
crosses with it. -/
theorem exists_ofNative_of_making? {name : Option ManagedText} {made : AnyCrossing}
    (hmade : making? name = some made) :
    ∃ native : Option NativeText, name = native.map .ofNative ∧
      made = ⟨.maybeHandle,
        .maybeMake { isPresent := native.isSome, value := native.elim (.null 0) .ofNative }⟩ := by
  cases name with
  | none => exact ⟨none, rfl, (Option.some.inj hmade).symm⟩
  | some text =>
      obtain ⟨view, hview, hcrossing⟩ := Option.bind_eq_some_iff.mp hmade
      obtain ⟨native, rfl, rfl⟩ := ManagedText.exists_ofNative_of_view? hview
      exact ⟨some native, rfl, (Option.some.inj hcrossing).symm⟩

end AnyCrossing

/-- Joining texts that have native forms mirrors a direct call. -/
theorem Library.exists_mirrors_joinThrough (crossing : TextView → TextView → Crossing .text)
    {target : Export} (htarget : ∀ left right, (crossing left right).target = target)
    {left right : ManagedText} (hleft : Utf16.WellFormed left.units)
    (hright : Utf16.WellFormed right.units) :
    ∃ made, AnyCrossing.joining? crossing left right = some made ∧ made.2.target = target ∧
      Mirrors made.2 Value.ofResult (do return .text (← joinThrough crossing left right)) := by
  obtain ⟨left, rfl⟩ := left.wellFormed_iff_exists_ofNative.mp hleft
  obtain ⟨right, rfl⟩ := right.wellFormed_iff_exists_ofNative.mp hright
  exact ⟨_, AnyCrossing.joining?_ofNative crossing left right, htarget _ _,
    (mirrors_joinThrough crossing left right).map fun _ => rfl⟩

namespace TypedCall

/-- A typed call whose texts have native forms mirrors the direct call that its arguments
stand for. -/
theorem mirrors_perform {call : TypedCall}
    (htexts : ∀ text ∈ call.args.flatMap Value.texts, Utf16.WellFormed text.units) :
    ∃ made, call.target.crossing? call.args = some made ∧ made.2.target = call.target ∧
      Mirrors made.2 Value.ofResult call.perform := by
  cases call with
  | concat left right =>
      apply Library.exists_mirrors_joinThrough .concat fun _ _ => rfl
      · exact htexts left (List.mem_cons_self ..)
      · exact htexts right (List.mem_cons_of_mem _ (List.mem_cons_self ..))
  | concatLent left right =>
      apply Library.exists_mirrors_joinThrough .concatLent fun _ _ => rfl
      · exact htexts left (List.mem_cons_self ..)
      · exact htexts right (List.mem_cons_of_mem _ (List.mem_cons_self ..))
  | getNumbers => exact ⟨_, rfl, rfl, Library.mirrors_getNumbers.map fun _ => rfl⟩
  | maybeMake name =>
      obtain ⟨name, rfl⟩ : ∃ native : Option NativeText, name = native.map .ofNative := by
        cases name with
        | none => exact ⟨none, rfl⟩
        | some text =>
            obtain ⟨native, rfl⟩ := text.wellFormed_iff_exists_ofNative.mp
              (htexts text (List.mem_cons_self ..))
            exact ⟨some native, rfl⟩
      have hmade := AnyCrossing.making?_ofNative name
      refine ⟨⟨.maybeHandle, .maybeMake _⟩, ?_, rfl,
        (Library.mirrors_maybeMake name).map fun made => ?_⟩
      · cases name <;> exact hmade
      · rcases made with ⟨_ | _, handle⟩ <;> rfl
  | maybeAddOne number =>
      refine ⟨⟨_, .maybeAddOne (.ofOption number)⟩, ?_, rfl,
        (Library.mirrors_maybeAddOne number).map fun _ => rfl⟩
      cases number <;> rfl
  | _ => exact ⟨_, rfl, rfl, Managed.mirrors_ask_bind _ fun _ => gives_pure _⟩

/-- Texts that stand for a direct call have native forms. -/
theorem wellFormed_of_crossing? {call : TypedCall} {made : AnyCrossing}
    (hmade : call.target.crossing? call.args = some made) :
    ∀ text ∈ call.args.flatMap Value.texts, Utf16.WellFormed text.units := by
  cases call with
  | concat left right | concatLent left right =>
      obtain ⟨left, right, rfl, rfl, -⟩ := AnyCrossing.exists_ofNative_of_joining? hmade
      simp [args, Value.texts, ManagedText.wellFormed_iff_exists_ofNative]
  | maybeMake name =>
      have hmaking : AnyCrossing.making? name = some made := by
        cases name <;> exact hmade
      obtain ⟨native, rfl, -⟩ := AnyCrossing.exists_ofNative_of_making? hmaking
      cases native <;>
        simp [args, Value.ofOption, Value.texts, ManagedText.wellFormed_iff_exists_ofNative]
  | maybeAddOne number => cases number <;> simp [args, Value.ofOption, Value.texts]
  | _ => simp [args, Value.texts]

end TypedCall

namespace Log.Event

theorem isCall_dispatching (signature : String) : (dispatching signature).isCall = false := by
  apply isCall_eq_false
  simp [dispatching, String.toList_append]

theorem isCall_callerOwns (function typeName : String) :
    (callerOwns function typeName).isCall = false := by
  apply isCall_eq_false
  simp [callerOwns, String.toList_append]

theorem isCall_dynamicCallFailed (function error : String) :
    (dynamicCallFailed function error).isCall = false := by
  apply isCall_eq_false
  simp [dynamicCallFailed, String.toList_append]

end Log.Event

namespace Dynamic

theorem muted_noted {event : Log.Event} (hevent : event.isCall = false)
    (context : Context) : (noted event context).muted = context.muted :=
  context.muted_emit hevent

theorem muted_settled (name : String) (target : Export) (value : Value)
    (context : Context) : (settled name target value context).muted = context.muted := by
  rw [settled]
  split
  · exact muted_noted (Log.Event.isCall_callerOwns name value.typeName) context
  · rfl

theorem mirrors_call {name : String} {args : List Value} {target : Export}
    (hresolve : resolve? name args = .ok target)
    (htexts : ∀ text ∈ args.flatMap Value.texts, Utf16.WellFormed text.units) :
    ∃ made, target.crossing? args = some made ∧ made.2.target = target ∧
      Mirrors made.2 Value.ofResult (call name args) := by
  obtain ⟨-, hvalid⟩ := (resolve?_eq_ok_iff name args target).mp hresolve
  obtain ⟨typed, rfl, rfl⟩ := TypedCall.exists_of_validate hvalid
  obtain ⟨made, hmade, htarget, hmirrors⟩ := TypedCall.mirrors_perform htexts
  refine ⟨made, hmade, htarget, fun context place => ?_⟩
  have hdispatching := muted_noted
    (Log.Event.isCall_dispatching typed.target.signature.text) context
  have hperformed := hmirrors (noted (.dispatching typed.target.signature.text) context) place
  obtain ⟨hanswer, hafter⟩ := made.2.heeds_invoke (some place) _ _ hdispatching.symm
  have hcrossed := hperformed.of_muted_eq hanswer hafter
  rw [run_call_resolved hresolve, TypedCall.dispatch_args]
  rcases hrun : typed.perform.run.run
      (noted (.dispatching typed.target.signature.text) context) with ⟨error | value, after⟩ <;>
    rw [hrun] at hcrossed
  · exact hcrossed.of_logged rfl
      (muted_noted (Log.Event.isCall_dynamicCallFailed name error.message) after)
  · exact hcrossed.of_logged rfl (muted_settled name typed.target value after)

end Dynamic

end InteropBridge
