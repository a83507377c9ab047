import InteropBridge.Proofs.Crossing.Running

/-!
# Calls on an object

Most exports for objects need the object of one handle, their subject.  Given a
place for the result and, for a copy, room for one more object, such a call
succeeds exactly if the subject is found.
-/

namespace InteropBridge.Crossing

open Attempt

variable {kind : ResultKind}

/-- The handle whose object the export needs. -/
def subject? : Crossing kind → Option Handle
  | printCopy handle | duplicate handle | print handle | increment handle | addTo handle _
  | get handle => some handle
  | hello | printNumber _ | add .. | concat .. | concatLent .. | printLength _ | getNumbers
  | maybeMake _ | maybeAddOne _ | make | free _ => none

/-- The caller gives a place for the result if the export asks for one. -/
def HasPlace (crossing : Crossing kind) (place : Option kind.Result) : Prop :=
  crossing.placeName?.isSome → place.isSome

/-- There is room for the copy if the export makes one. -/
def HasRoom (crossing : Crossing kind) (process : Process) : Prop :=
  crossing.target = .duplicate →
    process.objects.live < process.settings.handles.maxLive

theorem attempt_of_hasPlace {crossing : Crossing kind} {place : Option kind.Result}
    (hplace : crossing.HasPlace place) : crossing.attempt place.isSome = crossing.run := by
  rw [attempt_eq]
  cases hname : crossing.placeName? with
  | none => rfl
  | some what =>
      have hgiven := hplace (by rw [hname]; rfl)
      rw [hgiven]

variable {crossing : Crossing kind} {handle : Handle} {context : Context}

theorem run_of_find_error (hsubject : crossing.subject? = some handle) {error : BridgeError}
    (hfind : context.process.objects.find handle = .error error) :
    crossing.run.run.run context = (.error error, context) := by
  have hread : (Objects.read handle).run.run context = (.error error, context) := by
    rw [Objects.run_read, hfind]
  have hchange (revise : Int32 → Int32) :
      (Objects.change handle revise).run.run context = (.error error, context) := by
    rw [Objects.run_change, hfind]
  cases crossing with
  | printCopy | duplicate | print =>
      cases hsubject
      exact run_bind_error hread _
  | get =>
      cases hsubject
      exact hread
  | increment | addTo =>
      cases hsubject
      exact hchange _
  | hello | printNumber | add | concat | concatLent | printLength | getNumbers | maybeMake
  | maybeAddOne | make | free => cases hsubject

theorem run_of_find_ok (hsubject : crossing.subject? = some handle) {object : Int32}
    (hfind : context.process.objects.find handle = .ok object)
    (hroom : crossing.HasRoom context.process) :
    ∃ result after, crossing.run.run.run context = (.ok result, after) := by
  have hread : (Objects.read handle).run.run context = (.ok object, context) := by
    rw [Objects.run_read, hfind]
  have hchange (revise : Int32 → Int32) : ∃ after,
      (Objects.change handle revise).run.run context = (.ok (), after) := by
    rw [Objects.run_change, hfind]
    exact ⟨_, rfl⟩
  cases crossing with
  | printCopy | print =>
      cases hsubject
      exact ⟨_, _, (run_bind_ok hread _).trans (run_lift _ _)⟩
  | duplicate =>
      cases hsubject
      have hregister := Objects.run_register object context
      rw [if_pos (hroom rfl)] at hregister
      exact ⟨_, _, (run_bind_ok hread _).trans hregister⟩
  | get =>
      cases hsubject
      exact ⟨_, _, hread⟩
  | increment | addTo =>
      cases hsubject
      exact ⟨_, hchange _⟩
  | hello | printNumber | add | concat | concatLent | printLength | getNumbers | maybeMake
  | maybeAddOne | make | free => cases hsubject

theorem invoke_of_find_error (hsubject : crossing.subject? = some handle)
    {place : Option kind.Result} (hplace : crossing.HasPlace place) {error : BridgeError}
    (hfind : context.process.objects.find handle = .error error) :
    (crossing.invoke place).run context =
      ((error.status, place), crossing.refused error (crossing.entered context)) := by
  have hentered : (crossing.entered context).process.objects.find handle = .error error :=
    hfind
  rw [run_invoke, attempt_of_hasPlace hplace, run_of_find_error hsubject hentered]

theorem invoke_of_find_ok (hsubject : crossing.subject? = some handle)
    {place : Option kind.Result} (hplace : crossing.HasPlace place) {object : Int32}
    (hfind : context.process.objects.find handle = .ok object)
    (hroom : crossing.HasRoom context.process) :
    ((crossing.invoke place).run context).1.1 = .ok := by
  have hentered : (crossing.entered context).process.objects.find handle = .ok object :=
    hfind
  obtain ⟨result, after, hrun⟩ := run_of_find_ok hsubject hentered hroom
  rw [run_invoke, attempt_of_hasPlace hplace, hrun]

end InteropBridge.Crossing
