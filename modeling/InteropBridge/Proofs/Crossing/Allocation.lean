import InteropBridge.Proofs.Crossing.Effect
import InteropBridge.Proofs.Crossing.Entering
import InteropBridge.Proofs.Crossing.Subject

/-!
# Calls that make objects

Three exports make objects.  What they make depends on their arguments, and whether they make
it on the room under the limit alone.  No other call, and no call that has nothing to make,
ever meets the limit.
-/

namespace InteropBridge

/-- The objects of a context after an effect. -/
theorem Effect.objects_on (effect : Effect) (context : Context) :
    (effect.on context).process.objects = effect.objects := by
  rcases effect with ⟨objects, allocated, released, _ | line, event⟩
  · rfl
  · rcases context with ⟨process, lastError, _ | collected⟩ <;> rfl

namespace Crossing

variable {kind : ResultKind}

theorem outcome_eq (crossing : Crossing kind) (hasPlace : Bool) (context : Context) :
    crossing.outcome hasPlace context =
      (crossing.effectAt hasPlace context.process.objects context.process.settings).1 := by
  rw [outcome, run_attempt]
  rfl

theorem objects_invoke (crossing : Crossing kind) (place : Option kind.Result)
    (context : Context) :
    ((crossing.invoke place).run context).2.process.objects =
      (crossing.effectAt place.isSome context.process.objects
        context.process.settings).2.objects := by
  have hentered : crossing.effectAt place.isSome (crossing.entered context).process.objects
      (crossing.entered context).process.settings =
      crossing.effectAt place.isSome context.process.objects context.process.settings := rfl
  rw [run_invoke, run_attempt, hentered]
  rcases crossing.effectAt place.isSome context.process.objects context.process.settings with
    ⟨error | result, effect⟩ <;> exact effect.objects_on (crossing.entered context)

/-- Given a place if it asks for one, the call does what its function does. -/
theorem effectAt_of_hasPlace {crossing : Crossing kind} {place : Option kind.Result}
    (hplace : crossing.HasPlace place) (objects : HandleTable Int32) (settings : Settings) :
    crossing.effectAt place.isSome objects settings = crossing.effect objects settings := by
  rw [effectAt.eq_def]
  cases hname : crossing.placeName? with
  | none => rfl
  | some what =>
      rw [hplace (by rw [hname]; rfl)]

/-- A call that is not given the place that it asks for fails for that. -/
theorem effectAt_of_not_hasPlace {crossing : Crossing kind} {place : Option kind.Result}
    (hplace : ¬ crossing.HasPlace place) (objects : HandleTable Int32) (settings : Settings) :
    ∃ what, (crossing.effectAt place.isSome objects settings).1 =
      .error (.marshal (.nullPointer what)) := by
  rw [HasPlace, Classical.not_imp] at hplace
  obtain ⟨hname, hnone⟩ := hplace
  obtain ⟨what, hwhat⟩ := Option.isSome_iff_exists.mp hname
  rw [effectAt.eq_def, hwhat, Bool.eq_false_iff.mpr hnone]
  exact ⟨what, rfl⟩

/-- Whether the call, as it stands, is to make an object: a new one, a copy of one that is
live, or one for a name that is given and can be read. -/
def Allocates (process : Process) : {kind : ResultKind} → Crossing kind → Prop
  | _, make => True
  | _, duplicate source => process.objects.contains source = true
  | _, maybeMake name => ∃ view text, name.toOption = some view ∧
      view.read process.settings.marshal.maxTextBytes = .ok text
  | _, hello | _, printNumber _ | _, add .. | _, concat .. | _, concatLent .. | _, printCopy _
  | _, printLength _ | _, getNumbers | _, maybeAddOne _ | _, free _ | _, print _
  | _, increment _ | _, addTo .. | _, get _ => False

variable {process : Process}

/-- A call that is to make an object comes to what storing it comes to. -/
theorem effect_of_allocates {crossing : Crossing kind} (hallocates : crossing.Allocates process) :
    ∃ (object : Int32) (decode : Handle → kind.Result),
      crossing.effect process.objects process.settings =
        let stored := Objects.storing process.objects object process.settings.handles.maxLive
        (stored.1.map decode, stored.2) := by
  cases crossing with
  | make =>
      refine ⟨0, id, ?_⟩
      rw [effect, Except.map_id]
      rfl
  | duplicate source =>
      obtain ⟨object, hfind⟩ := HandleTable.contains_iff_find.mp hallocates
      refine ⟨object, id, ?_⟩
      rw [effect, hfind, Except.map_id]
      rfl
  | maybeMake name =>
      obtain ⟨view, text, hname, hread⟩ := hallocates
      refine ⟨0, fun handle => .ofOption (some handle), ?_⟩
      rw [effect, hname, Option.map_some, hread]
      rfl
  | hello | printNumber | add | concat | concatLent | printCopy | printLength | getNumbers
  | maybeAddOne | free | print | increment | addTo | get => cases hallocates

section Room

variable {crossing : Crossing kind} (hallocates : crossing.Allocates process)

include hallocates

/-- Where there is room, an object is stored. -/
theorem effect_of_room
    (hroom : process.objects.live < process.settings.handles.maxLive) :
    ∃ result object, (crossing.effect process.objects process.settings).1 = .ok result ∧
      (crossing.effect process.objects process.settings).2.objects =
        process.objects.issued object := by
  obtain ⟨object, decode, heffect⟩ := effect_of_allocates hallocates
  rw [heffect, Objects.storing, if_pos hroom]
  exact ⟨_, object, rfl, rfl⟩

/-- Where there is none, the call fails and has no effect at all. -/
theorem effect_of_no_room
    (hfull : ¬ process.objects.live < process.settings.handles.maxLive) :
    crossing.effect process.objects process.settings =
      (.error (.allocation process.objects.kind
        (HandleTable.refusal process.objects.live process.settings.handles.maxLive)),
        { objects := process.objects }) := by
  obtain ⟨object, decode, heffect⟩ := effect_of_allocates hallocates
  rw [heffect, Objects.storing, if_neg hfull]
  rfl

end Room

/-! ## No other call meets the limit -/

section Errors

variable {what reason : String}

theorem find_ne_allocation (objects : HandleTable Int32) (handle : Handle) :
    objects.find handle ≠ .error (.allocation what reason) := by
  intro hfind
  obtain ⟨-, herror⟩ | ⟨-, herror⟩ := HandleTable.find_error hfind <;> cases herror

theorem ofMarshal_ne_allocation {α : Type} (checked : Except MarshalError α) :
    BridgeError.ofMarshal checked ≠ .error (.allocation what reason) := by
  cases checked <;> simp [BridgeError.ofMarshal, Except.mapError]

theorem joined_ne_allocation (left right : TextView) (limit : Nat) :
    joined left right limit ≠ .error (.allocation what reason) := by
  intro hjoined
  rw [joined] at hjoined
  cases hleft : BridgeError.ofMarshal (left.read limit) with
  | error error =>
      rw [hleft] at hjoined
      cases hjoined
      exact ofMarshal_ne_allocation _ hleft
  | ok left =>
      cases hright : BridgeError.ofMarshal (right.read limit) with
      | error error =>
          rw [hleft, hright] at hjoined
          cases hjoined
          exact ofMarshal_ne_allocation _ hright
      | ok right =>
          rw [hleft, hright] at hjoined
          cases hjoined

theorem showing_ne_allocation (objects : HandleTable Int32) (handle : Handle)
    (line : Int32 → String) :
    (Objects.showing objects handle line).1 ≠ .error (.allocation what reason) := by
  rw [Objects.showing]
  cases hfind : objects.find handle with
  | ok object => simp
  | error error =>
      rintro ⟨⟩
      exact find_ne_allocation objects handle hfind

theorem adding_ne_allocation (objects : HandleTable Int32) (handle : Handle) (amount : Int32) :
    (Objects.adding objects handle amount).1 ≠ .error (.allocation what reason) := by
  rw [Objects.adding]
  cases hfind : objects.find handle with
  | ok object => simp
  | error error =>
      rintro ⟨⟩
      exact find_ne_allocation objects handle hfind

theorem ending_ne_allocation (objects : HandleTable Int32) (handle : Handle)
    (policy : ReleasePolicy) :
    (Objects.ending objects handle policy).1 ≠ .error (.allocation what reason) := by
  rw [Objects.ending]
  cases hfind : objects.find handle with
  | ok object => simp
  | error error =>
      obtain ⟨-, rfl⟩ | ⟨-, rfl⟩ := HandleTable.find_error hfind
      · simp
      · cases policy <;> simp

/-- A call that fails for want of room was to make an object. -/
theorem allocates_of_effect {crossing : Crossing kind}
    (heffect : (crossing.effect process.objects process.settings).1 =
      .error (.allocation what reason)) : crossing.Allocates process := by
  cases crossing with
  | make => trivial
  | duplicate source =>
      cases hfind : process.objects.find source with
      | ok object => exact HandleTable.contains_iff_find.mpr ⟨object, hfind⟩
      | error error =>
          rw [effect, hfind] at heffect
          cases heffect
          exact absurd hfind (find_ne_allocation _ _)
  | maybeMake name =>
      rw [effect] at heffect
      cases hname : name.toOption with
      | none =>
          rw [hname] at heffect
          cases heffect
      | some view =>
          cases hread : view.read process.settings.marshal.maxTextBytes with
          | ok text => exact ⟨view, text, hname, hread⟩
          | error fault =>
              rw [hname, Option.map_some, hread] at heffect
              cases heffect
  | printCopy | print => exact absurd heffect (showing_ne_allocation _ _ _)
  | increment | addTo => exact absurd heffect (adding_ne_allocation _ _ _)
  | get => exact absurd heffect (find_ne_allocation _ _)
  | concat | concatLent => exact absurd heffect (joined_ne_allocation _ _ _)
  | free handle =>
      rw [effect] at heffect
      split at heffect
      · cases heffect
      · exact absurd heffect (ending_ne_allocation _ _ _)
  | printLength items =>
      rw [effect] at heffect
      split at heffect
      · cases heffect
      · rename_i herror
        cases heffect
        exact absurd herror (ofMarshal_ne_allocation _)
  | hello | printNumber | add | getNumbers | maybeAddOne => cases heffect

end Errors

end Crossing

end InteropBridge
