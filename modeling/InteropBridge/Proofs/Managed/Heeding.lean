import InteropBridge.Proofs.Managed.ManagedCall

/-!
# What managed calls heed

A managed call does nothing but convert text, cross the boundary and keep a log of both.  So
it heeds what exports heed, and nothing else: from contexts that are alike it comes to the
same result, and the contexts after it are alike again.
-/

namespace InteropBridge

open Attempt

variable {alike : Context → Context → Prop} (hlike : Context.Likeness alike)
variable {kind : ResultKind} {α : Type}

include hlike

namespace Native

theorem respects_emit (event : Log.Event) : (emit event).Respects alike :=
  fun _ _ halike => ⟨rfl, hlike.emitted event halike⟩

theorem respects_countMarshalError : countMarshalError.Respects alike :=
  fun _ _ halike => ⟨rfl, hlike.faulted 1 halike⟩

/-- Writing a line is among the effects that exports have. -/
theorem respects_writeLine (line : String) : (writeLine line).Respects alike := by
  intro left right halike
  have hwritten := hlike.affected { objects := left.process.objects, line := some line } halike
  have hright : Effect.on { objects := left.process.objects, line := some line } right =
      ((writeLine line).run right).2 := by
    rw [hlike.objects halike]
    rfl
  rw [hright] at hwritten
  exact ⟨rfl, hwritten⟩

end Native

namespace Managed

theorem respects_ask (crossing : Crossing kind) : Respects alike (ask crossing) := by
  intro left right halike
  obtain ⟨hresult, hafter⟩ := Crossing.respects_attempt hlike crossing true _ _
    (Crossing.alike_entered hlike crossing halike)
  rw [run_ask, run_ask]
  rcases hleft : (crossing.attempt true).run.run (crossing.entered left) with
    ⟨found, leftAfter⟩
  rcases hright : (crossing.attempt true).run.run (crossing.entered right) with
    ⟨other, rightAfter⟩
  rw [hleft, hright] at hresult hafter
  obtain rfl : found = other := hresult
  cases found with
  | ok result => exact ⟨rfl, Crossing.alike_returned hlike crossing hafter⟩
  | error error =>
      exact ⟨rfl, hlike.marked none (Crossing.alike_refused hlike crossing error hafter)⟩

theorem respects_lend (text : ManagedText) : Respects alike (lend text) := by
  refine (respects_lift (Native.respects_emit hlike _)).bind fun _ => ?_
  cases text.toNative with
  | ok native => exact respects_pure native
  | error fault =>
      exact (respects_lift (Native.respects_countMarshalError hlike)).bind fun _ =>
        respects_throw _

theorem respects_releaseText (buffer : Buffer NativeText) :
    buffer.releaseText.Respects alike := by
  cases buffer with
  | placeholder => exact Native.respects_pure ()
  | made text => exact Native.respects_emit hlike _

theorem respects_releaseSequence (buffer : Buffer (List Int32)) :
    buffer.releaseSequence.Respects alike := by
  cases buffer with
  | placeholder => exact Native.respects_pure ()
  | made items => exact Native.respects_emit hlike _

theorem respects_adoptText (buffer : Buffer NativeText) : (adoptText buffer).Respects alike :=
  (Native.respects_emit hlike _).bind fun _ =>
    (respects_releaseText hlike buffer).bind fun _ => Native.respects_pure _

theorem respects_adoptSequence (buffer : Buffer (List Int32)) :
    (adoptSequence buffer).Respects alike :=
  (respects_releaseSequence hlike buffer).bind fun _ => Native.respects_pure _

end Managed

namespace Library

theorem respects_joinThrough (crossing : TextView → TextView → Crossing .text)
    (left right : ManagedText) : Respects alike (joinThrough crossing left right) :=
  (Managed.respects_lend hlike left).bind fun _ =>
    (Managed.respects_lend hlike right).bind fun _ =>
      (Managed.respects_ask hlike _).bind fun buffer =>
        respects_lift (Managed.respects_adoptText hlike buffer)

theorem respects_getNumbers : Respects alike getNumbers :=
  (Managed.respects_ask hlike .getNumbers).bind fun buffer =>
    respects_lift (Managed.respects_adoptSequence hlike buffer)

theorem respects_maybeMake (name : ManagedOptional ManagedText) :
    Respects alike (maybeMake name) := by
  have hlend : Respects alike (name.content.mapM Managed.lend) := by
    cases name.content with
    | none => exact respects_pure none
    | some text =>
        rw [Option.mapM_some, map_eq_pure_bind]
        exact (Managed.respects_lend hlike text).bind fun _ => respects_pure _
  exact hlend.bind fun _ => (Managed.respects_ask hlike _).bind fun _ => respects_pure _

theorem respects_maybeAddOne (value : ManagedOptional Int32) :
    Respects alike (maybeAddOne value) :=
  (Managed.respects_ask hlike _).bind fun _ => respects_pure _

end Library

namespace Proxy

theorem respects_ask (proxy : Proxy) (crossing : Handle → Crossing kind) :
    Respects alike (proxy.ask crossing) :=
  (respects_ofExcept _).bind fun _ => Managed.respects_ask hlike _

theorem respects_dispose (proxy : Proxy) : Respects alike proxy.dispose := by
  rw [dispose]
  split
  · exact respects_pure ()
  · exact Managed.respects_ask hlike (.free proxy.raw)

theorem respects_drop (proxy : Proxy) : proxy.drop.Respects alike := by
  refine Native.Respects.bind (proxy.respects_dispose hlike) fun result => ?_
  cases result with
  | ok released => exact Native.respects_pure ()
  | error error => exact Native.respects_emit hlike _

end Proxy

theorem TypedCall.respects_perform (call : TypedCall) : Respects alike call.perform := by
  cases call with
  | hello | printNumber | printCopy | printLength | free | print | increment | addTo =>
      exact (Managed.respects_ask hlike _).bind fun _ => respects_pure _
  | add | make | duplicate | get =>
      exact (Managed.respects_ask hlike _).bind fun _ => respects_pure _
  | concat left right | concatLent left right =>
      exact (Library.respects_joinThrough hlike _ left right).bind fun _ => respects_pure _
  | getNumbers => exact (Library.respects_getNumbers hlike).bind fun _ => respects_pure _
  | maybeMake name =>
      exact (Library.respects_maybeMake hlike ⟨name⟩).bind fun _ => respects_pure _
  | maybeAddOne number =>
      exact (Library.respects_maybeAddOne hlike ⟨number⟩).bind fun _ => respects_pure _

namespace Dynamic

theorem respects_call (name : String) (args : List Value) : Respects alike (call name args) := by
  intro left right halike
  cases hresolve : resolve? name args with
  | error fault =>
      rw [run_call_refused hresolve, run_call_refused hresolve]
      exact ⟨rfl, hlike.emitted _ (hlike.faulted 1 halike)⟩
  | ok target =>
      obtain ⟨-, hvalid⟩ := (resolve?_eq_ok_iff name args target).mp hresolve
      obtain ⟨typed, rfl, rfl⟩ := TypedCall.exists_of_validate hvalid
      have hnoted := hlike.emitted (.dispatching typed.target.signature.text) halike
      obtain ⟨hresult, hafter⟩ := typed.respects_perform hlike _ _ hnoted
      rw [run_call_resolved hresolve, run_call_resolved hresolve, typed.dispatch_args]
      rcases hleft : typed.perform.run.run
          (noted (.dispatching typed.target.signature.text) left) with ⟨found, leftAfter⟩
      rcases hright : typed.perform.run.run
          (noted (.dispatching typed.target.signature.text) right) with ⟨other, rightAfter⟩
      rw [hleft, hright] at hresult hafter
      obtain rfl : found = other := hresult
      cases found with
      | error error => exact ⟨rfl, hlike.emitted _ hafter⟩
      | ok value =>
          refine ⟨rfl, ?_⟩
          dsimp only [settled]
          split
          · exact hlike.emitted _ hafter
          · exact hafter

end Dynamic

theorem ManagedCall.respects_perform (call : ManagedCall α) : Respects alike call.perform := by
  cases call with
  | hello => exact Managed.respects_ask hlike .hello
  | printNumber number => exact Managed.respects_ask hlike (.printNumber number)
  | add left right => exact Managed.respects_ask hlike (.add left right)
  | concat left right => exact Library.respects_joinThrough hlike .concat left right
  | concatLent left right => exact Library.respects_joinThrough hlike .concatLent left right
  | printLength items => exact Managed.respects_ask hlike (.printLength (.ofList items))
  | getNumbers => exact Library.respects_getNumbers hlike
  | maybeMake name => exact Library.respects_maybeMake hlike name
  | maybeAddOne value => exact Library.respects_maybeAddOne hlike value
  | make => exact (Managed.respects_ask hlike .make).bind fun _ => respects_pure _
  | duplicate proxy => exact (proxy.respects_ask hlike .duplicate).bind fun _ => respects_pure _
  | handle proxy => exact respects_ofExcept _
  | printCopy proxy => exact proxy.respects_ask hlike .printCopy
  | print proxy => exact proxy.respects_ask hlike .print
  | increment proxy => exact proxy.respects_ask hlike .increment
  | addTo proxy amount => exact proxy.respects_ask hlike (.addTo · amount)
  | get proxy => exact proxy.respects_ask hlike .get
  | dispose proxy => exact proxy.respects_dispose hlike
  | byName name args => exact Dynamic.respects_call hlike name args

end InteropBridge
