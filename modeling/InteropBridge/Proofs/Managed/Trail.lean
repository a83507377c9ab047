import InteropBridge.Proofs.Crossing.Trail
import InteropBridge.Proofs.Ledger.Managed

/-!
# The trail that managed calls leave

Whichever way a managed caller takes to an export, the trail grows by the entries of what the
caller's result tells of.  The conversion of text before the call and the release of buffers
after it are logged as well, but they leave no trail.
-/

namespace InteropBridge

open Attempt

namespace Managed

theorem keeps_lend (text : ManagedText) : Keeps Context.books (lend text) := by
  refine (keeps_lift (Native.keeps_emit rfl)).bind fun _ => ?_
  cases text.toNative with
  | ok native => exact (looks_pure native).keeps
  | error fault =>
      exact (keeps_lift Native.keeps_countMarshalError).bind fun _ => (looks_throw _).keeps

theorem keeps_releaseText (buffer : Buffer NativeText) :
    buffer.releaseText.Keeps Context.books := by
  cases buffer with
  | placeholder => exact fun _ => rfl
  | made text => exact Native.keeps_emit (Log.Event.isAudit_bufferReleased _ _)

theorem keeps_releaseSequence (buffer : Buffer (List Int32)) :
    buffer.releaseSequence.Keeps Context.books := by
  cases buffer with
  | placeholder => exact fun _ => rfl
  | made items => exact Native.keeps_emit (Log.Event.isAudit_bufferReleased _ _)

theorem keeps_adoptText (buffer : Buffer NativeText) :
    (adoptText buffer).Keeps Context.books :=
  (Native.keeps_emit rfl).bind fun _ => (keeps_releaseText buffer).bind fun _ _ => rfl

theorem keeps_adoptSequence (buffer : Buffer (List Int32)) :
    (adoptSequence buffer).Keeps Context.books :=
  (keeps_releaseSequence buffer).bind fun _ _ => rfl

end Managed

namespace Library

theorem reports_joinThrough (crossing : TextView → TextView → Crossing .text)
    (hcrossing : ∀ left right, (crossing left right).happenings = fun _ => [])
    (left right : ManagedText) : Reports (fun _ => []) (joinThrough crossing left right) := by
  refine .of_keeps (Managed.keeps_lend left) fun left => ?_
  refine .of_keeps (Managed.keeps_lend right) fun right => ?_
  have hask := Managed.reports_ask (crossing (.ofNative left) (.ofNative right))
  rw [hcrossing] at hask
  exact (hask.keeps.bind fun buffer => keeps_lift (Managed.keeps_adoptText buffer).trail).reports

theorem reports_concat (left right : ManagedText) : Reports (fun _ => []) (concat left right) :=
  reports_joinThrough .concat (fun _ _ => rfl) left right

theorem reports_concatLent (left right : ManagedText) :
    Reports (fun _ => []) (concatLent left right) :=
  reports_joinThrough .concatLent (fun _ _ => rfl) left right

theorem reports_getNumbers : Reports (fun _ => []) getNumbers :=
  ((Managed.reports_ask .getNumbers).keeps.bind fun buffer =>
    keeps_lift (Managed.keeps_adoptSequence buffer).trail).reports

theorem reports_maybeAddOne (value : ManagedOptional Int32) :
    Reports (fun _ => []) (maybeAddOne value) :=
  (Managed.reports_ask (.maybeAddOne (.ofOption value.content))).map fun _ => rfl

theorem reports_maybeMake (name : ManagedOptional ManagedText) :
    Reports (fun made => made.content.toList.map fun proxy => .made proxy.raw)
      (maybeMake name) := by
  have hlend : Keeps Context.books (name.content.mapM Managed.lend) := by
    cases name.content with
    | none => exact (looks_pure none).keeps
    | some text =>
        rw [Option.mapM_some, map_eq_pure_bind]
        exact (Managed.keeps_lend text).bind fun _ => (looks_pure _).keeps
  refine .of_keeps hlend fun lent => (Managed.reports_ask _).map fun made => ?_
  change (made.toOption.map Proxy.adopt).toList.map _ = made.toOption.toList.map _
  cases made.toOption <;> rfl

end Library

namespace Proxy

variable {kind : ResultKind}

theorem reports_ask (proxy : Proxy) (crossing : Handle → Crossing kind) :
    Reports (crossing proxy.raw).happenings (proxy.ask crossing) := by
  rw [ask, handle]
  cases proxy.isDisposed with
  | true => exact fun context => (List.append_nil _).symm
  | false => exact Managed.reports_ask _

theorem reports_make : Reports (fun proxy => [.made proxy.raw]) make :=
  (Managed.reports_ask .make).map fun _ => rfl

theorem reports_duplicate (proxy : Proxy) :
    Reports (fun copy => [.copied proxy.raw copy.raw]) proxy.duplicate :=
  (proxy.reports_ask .duplicate).map fun _ => rfl

theorem reports_dispose (proxy : Proxy) :
    Reports (fun _ => proxy.parting) proxy.dispose := by
  rw [dispose, parting]
  cases proxy.isDisposed with
  | true => exact Attempt.Keeps.reports (looks_pure ()).keeps
  | false => exact Managed.reports_ask (.free proxy.raw)

/-- A drop that could not release anything leaves no trail, as there was nothing to release. -/
theorem reports_drop (proxy : Proxy) : proxy.drop.Reports fun _ => proxy.parting := by
  intro context
  have hreport := proxy.reports_dispose context
  rw [drop, Native.run_bind]
  rcases hdispose : proxy.dispose.run.run context with ⟨error | value, after⟩ <;>
    rw [hdispose] at hreport
  · obtain ⟨hdisposed, fault, hfind⟩ := find_of_dispose_error hdispose
    have hended : context.process.ledger.objects.contains proxy.raw = false :=
      HandleTable.contains_of_find_error hfind
    have hnone : proxy.parting.flatMap context.process.ledger.entries = [] := by
      rw [parting, hdisposed, if_neg Bool.false_ne_true, List.flatMap_singleton, Ledger.entries,
        hended, if_neg Bool.false_ne_true]
    rw [hnone]
    exact (after.process.journal.trail_emit_of_not_audit
      (Log.Event.isAudit_dropFailed proxy.raw error.message)).trans hreport
  · exact hreport

end Proxy

theorem TypedCall.reports_perform (call : TypedCall) :
    Reports (Dynamic.told call.target call.args) call.perform := by
  cases call with
  | hello | printNumber | printLength | printCopy | print =>
      exact (Managed.reports_ask _).map fun _ => rfl
  | add | get => exact (Managed.reports_ask _).map fun _ => rfl
  | make | free | duplicate | increment | addTo =>
      exact (Managed.reports_ask _).map fun _ => rfl
  | concat left right => exact (Library.reports_concat left right).map fun _ => rfl
  | concatLent left right => exact (Library.reports_concatLent left right).map fun _ => rfl
  | getNumbers => exact Library.reports_getNumbers.map fun _ => rfl
  | maybeMake name =>
      refine (Library.reports_maybeMake ⟨name⟩).map fun made => ?_
      cases made.content <;> rfl
  | maybeAddOne number => exact (Library.reports_maybeAddOne ⟨number⟩).map fun _ => rfl

namespace Dynamic

theorem trail_settled (name : String) (target : Export) (value : Value) (context : Context) :
    (settled name target value context).trail = context.trail := by
  rw [settled]
  split
  · exact context.process.journal.trail_emit_of_not_audit
      (Log.Event.isAudit_callerOwns name value.typeName)
  · rfl

/-- A call by name reports what the typed call behind it reports; one that is refused leaves no
trail. -/
theorem reports_call (name : String) (args : List Value) :
    Reports (happenings name args) (call name args) := by
  intro context
  have hfailed : ∀ (error : BridgeError) (after : Context),
      (noted (.dynamicCallFailed name error.message) after).trail = after.trail :=
    fun error after => after.process.journal.trail_emit_of_not_audit
      (Log.Event.isAudit_dynamicCallFailed name error.message)
  cases hresolve : resolve? name args with
  | error fault =>
      rw [run_call_refused hresolve]
      exact (hfailed (.marshal fault) _).trans (List.append_nil _).symm
  | ok target =>
      obtain ⟨hname, hvalid⟩ := (resolve?_eq_ok_iff name args target).mp hresolve
      obtain ⟨typed, rfl, rfl⟩ := TypedCall.exists_of_validate hvalid
      obtain ⟨hledger, htrail⟩ := Context.eq_of_books
        (Native.keeps_emit (Log.Event.isAudit_dispatching typed.target.signature.text) context)
      have hreport := typed.reports_perform
        (noted (.dispatching typed.target.signature.text) context)
      rw [noted, hledger, htrail] at hreport
      rw [run_call_resolved hresolve, typed.dispatch_args]
      rcases hperform : typed.perform.run.run
          (noted (.dispatching typed.target.signature.text) context) with
        ⟨error | value, after⟩ <;> rw [hperform] at hreport
      · exact (hfailed error after).trans hreport
      · have hhappenings : happenings name typed.args value =
            told typed.target typed.args value := by
          rw [happenings, hname]
          exact List.append_nil _
        dsimp only
        rw [trail_settled]
        change _ = _ ++ (happenings name typed.args value).flatMap _
        rw [hhappenings]
        exact hreport

end Dynamic

end InteropBridge
