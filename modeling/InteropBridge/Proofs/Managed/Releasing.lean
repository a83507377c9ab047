import InteropBridge.Proofs.Crossing.Allocation
import InteropBridge.Proofs.Handle.Finding
import InteropBridge.Proofs.Ledger.Managed
import InteropBridge.Proofs.Managed.ManagedCall

/-!
# New proxies and their release

A new proxy has its handle.  It asks for the release of the handle when it is disposed of or
dropped while it has it.  What that does depends on the handle alone: a live one ends, and
otherwise nothing becomes of any handle or object.  The policy for repeated releases only
decides whether it is an error to ask for the release of a handle that is gone.
-/

namespace InteropBridge

namespace Ledger

/-- The ledger once the release of a handle was asked for, which ends if it is live. -/
def freed (ledger : Ledger) (handle : Handle) : Ledger :=
  if ledger.objects.contains handle then ledger.release handle else ledger

variable {ledger : Ledger} {handle other : Handle}

theorem freed_of_find_ok {object : Int32} (hfind : ledger.objects.find handle = .ok object) :
    ledger.freed handle = ledger.release handle :=
  if_pos (HandleTable.contains_iff_find.mpr ⟨object, hfind⟩)

theorem freed_of_gone (hgone : ledger.objects.contains handle = false) :
    ledger.freed handle = ledger := by
  rw [freed, hgone]
  rfl

theorem find_freed_of_ne (hother : other ≠ handle) :
    (ledger.freed handle).objects.find other = ledger.objects.find other := by
  rw [freed]
  split
  · exact ledger.objects.find_without_of_ne hother
  · rfl

/-- A handle whose release was asked for is not live afterwards. -/
theorem not_contains_freed (hhandle : handle ≠ .null) :
    (ledger.freed handle).objects.contains handle = false := by
  rw [freed]
  split
  · exact HandleTable.contains_of_find_error (ledger.objects.find_without_self hhandle)
  · rename_i hgone
    exact Bool.eq_false_iff.mpr hgone

/-- The turns that a release can take come to the same. -/
theorem Turns.eq_freed {before after : Ledger} (hturns : Turns before [.released handle] after) :
    after = before.freed handle := by
  cases hturns with
  | step hturn hrest =>
      rw [hrest.eq_of_nil]
      cases hturn with
      | released hfind => exact (freed_of_find_ok hfind).symm
      | passed hfind => exact (freed_of_gone (HandleTable.contains_of_find_error hfind)).symm

end Ledger

open Attempt

/-! ## New proxies -/

namespace Proxy

theorem ends_make : Ends (fun proxy => proxy.isDisposed = false) (fun _ => True) make :=
  (ends_any _).bind fun _ _ => ends_pure rfl

theorem ends_duplicate (proxy : Proxy) :
    Ends (fun copy => copy.isDisposed = false) (fun _ => True) proxy.duplicate :=
  (ends_any _).bind fun _ _ => ends_pure rfl

end Proxy

theorem Library.ends_maybeMake (name : ManagedOptional ManagedText) :
    Ends (fun made => ∀ proxy ∈ made.content, proxy.isDisposed = false) (fun _ => True)
      (maybeMake name) := by
  refine (ends_any _).bind fun _ _ => (ends_any _).bind fun made _ => ends_pure ?_
  intro proxy hproxy
  obtain ⟨handle, -, rfl⟩ := Option.map_eq_some_iff.mp hproxy
  rfl

/-! ## Releases -/

namespace Proxy

variable {proxy : Proxy}

theorem parting_of_not_disposed (hproxy : proxy.isDisposed = false) :
    proxy.parting = [.released proxy.raw] := by
  rw [parting, hproxy]
  rfl

theorem ledger_drop (hproxy : proxy.isDisposed = false) (context : Context) :
    (proxy.drop.run context).2.process.ledger = context.process.ledger.freed proxy.raw := by
  have hturns := proxy.records_drop context
  rw [parting_of_not_disposed hproxy] at hturns
  exact hturns.eq_freed

/-- Whether it fails or not, disposing of a proxy ends its handle or nothing. -/
theorem ledger_dispose (hproxy : proxy.isDisposed = false) (context : Context) :
    (proxy.dispose.run.run context).2.process.ledger =
      context.process.ledger.freed proxy.raw := by
  have hturns := proxy.records_dispose context
  rcases hdispose : proxy.dispose.run.run context with ⟨error | released, after⟩
  · rw [hdispose] at hturns
    obtain ⟨-, fault, hfind⟩ := find_of_dispose_error hdispose
    rw [Ledger.freed_of_gone (HandleTable.contains_of_find_error hfind)]
    exact hturns.eq_of_nil
  · rw [hdispose] at hturns
    change Ledger.Turns _ proxy.parting _ at hturns
    rw [parting_of_not_disposed hproxy] at hturns
    exact hturns.eq_freed

/-- Disposing of a proxy whose handle is gone answers by the policy for repeated releases. -/
theorem dispose_of_gone (hproxy : proxy.isDisposed = false) (hraw : proxy.raw ≠ .null)
    {context : Context} (hgone : context.process.objects.contains proxy.raw = false) :
    (proxy.dispose.run.run context).1 =
      match context.process.settings.handles.doubleRelease with
      | .ignore => .ok ()
      | .report => .error (.disposedHandle proxy.raw) := by
  have hfind := HandleTable.find_of_gone hraw hgone
  rw [dispose_of_not_disposed hproxy, (Managed.mirrors_ask _).result_eq, Crossing.outcome_eq,
    Crossing.effectAt_true, Crossing.effect, HandleTable.isNull_eq_false hraw, Objects.ending,
    hfind]
  cases context.process.settings.handles.doubleRelease <;> rfl

end Proxy

end InteropBridge
