import InteropBridge.Proofs.Ledger.History
import Mathlib.Data.List.Perm.Basic

/-!
# The live handles as a list

What happens changes the list of live handles in the obvious way, wherever in a run
it happens.  So the handles of a ledger can be followed without the ledger, also by
someone who only looks after a part of them.
-/

namespace InteropBridge

/-- The live handles after something happened. -/
def Happening.settle (live : List Handle) : Happening → List Handle
  | made handle => handle :: live
  | copied _ handle => handle :: live
  | added .. => live
  | released handle => live.filter (· ≠ handle)
  | shutDown => []

/-- The live handles after all that happened. -/
def settleAll (live : List Handle) (history : List Happening) : List Handle :=
  history.foldl Happening.settle live

theorem Happening.settle_issued {happening : Happening} {handle : Handle}
    (hissued : happening.issued? = some handle) (live : List Handle) :
    happening.settle live = handle :: live := by
  cases happening with
  | made | copied =>
      cases hissued
      rfl
  | added | released | shutDown => cases hissued

theorem Happening.settle_perm {first second : List Handle} (hperm : first.Perm second)
    (happening : Happening) : (happening.settle first).Perm (happening.settle second) := by
  cases happening with
  | made handle | copied _ handle => exact hperm.cons handle
  | added => exact hperm
  | released handle => exact hperm.filter _
  | shutDown => exact .refl _

theorem settleAll_cons (live : List Handle) (happening : Happening)
    (history : List Happening) :
    settleAll live (happening :: history) = settleAll (happening.settle live) history := rfl

theorem settleAll_perm {first second : List Handle} (hperm : first.Perm second)
    (history : List Happening) : (settleAll first history).Perm (settleAll second history) := by
  induction history generalizing first second with
  | nil => exact hperm
  | cons happening rest ih => exact ih (happening.settle_perm hperm)

/-- Releasing some of the handles leaves the others. -/
theorem settleAll_released (live gone : List Handle) :
    settleAll live (gone.map .released) = live.filter (· ∉ gone) := by
  induction gone generalizing live with
  | nil => simp [settleAll]
  | cons handle rest ih =>
      rw [List.map_cons, settleAll_cons, ih, Happening.settle, List.filter_filter]
      refine List.filter_congr fun other _ => ?_
      simp [Bool.and_comm]

theorem settleAll_released_cons {handle : Handle} {gone : List Handle} (hnew : handle ∉ gone)
    (live : List Handle) :
    settleAll (handle :: live) (gone.map .released) =
      handle :: settleAll live (gone.map .released) := by
  rw [settleAll_released, settleAll_released, List.filter_cons_of_pos (by simpa using hnew)]

theorem settleAll_released_append {gone kept : List Handle} (hnodup : (gone ++ kept).Nodup) :
    settleAll (gone ++ kept) (gone.map .released) = kept := by
  have hgone : gone.filter (· ∉ gone) = [] := by
    rw [List.filter_eq_nil_iff]
    intro handle hhandle
    simp [hhandle]
  have hkept : kept.filter (· ∉ gone) = kept := by
    rw [List.filter_eq_self]
    intro handle hhandle
    have hnot : handle ∉ gone := fun hmem =>
      (List.nodup_append.mp hnodup).2.2 handle hmem handle hhandle rfl
    exact decide_eq_true hnot
  rw [settleAll_released, List.filter_append, hgone, hkept, List.nil_append]

theorem settleAll_added (live : List Handle) (handle : Handle) (amount : Int32) (count : Nat) :
    settleAll live (List.replicate count (.added handle amount)) = live := by
  induction count with
  | zero => rfl
  | succ count ih =>
      rw [List.replicate_succ, settleAll_cons]
      exact ih

/-- Handles that nothing is done to stay as they are beside the others. -/
theorem settleAll_append (kept live : List Handle) {history : List Happening}
    (hkept : ∀ handle ∈ kept, .released handle ∉ history) (hshut : .shutDown ∉ history) :
    (settleAll (kept ++ live) history).Perm (kept ++ settleAll live history) := by
  -- Only up to order: a new handle comes before the kept ones on the left.
  induction history generalizing live with
  | nil => exact .refl _
  | cons happening rest ih =>
      have hrest : ∀ handle ∈ kept, .released handle ∉ rest := fun handle hhandle hmem =>
        hkept handle hhandle (List.mem_cons_of_mem _ hmem)
      have hlater : .shutDown ∉ rest := fun hmem => hshut (List.mem_cons_of_mem _ hmem)
      have hfirst : (happening.settle (kept ++ live)).Perm (kept ++ happening.settle live) := by
        cases happening with
        | made handle | copied _ handle => exact List.perm_middle.symm
        | added => exact .refl _
        | released handle =>
            have hfilter : kept.filter (· ≠ handle) = kept := by
              rw [List.filter_eq_self]
              rintro other hother
              have hne : other ≠ handle := by
                rintro rfl
                exact hkept other hother (List.mem_cons_self ..)
              exact decide_eq_true hne
            rw [Happening.settle, List.filter_append, hfilter]
            exact .refl _
        | shutDown => exact absurd (List.mem_cons_self ..) hshut
      exact (settleAll_perm hfirst rest).trans (ih _ hrest hlater)

namespace Ledger

/-- The live handles of a ledger. -/
def handles (ledger : Ledger) : List Handle :=
  ledger.objects.keys.map .mk

theorem mem_handles {ledger : Ledger} {handle : Handle} :
    handle ∈ ledger.handles ↔ handle.raw ∈ ledger.objects.keys := by
  rw [handles, List.mem_map]
  constructor
  · rintro ⟨raw, hraw, rfl⟩
    exact hraw
  · intro hkey
    exact ⟨handle.raw, hkey, rfl⟩

variable {past history : List Happening} {ledger before after : Ledger}

theorem Tracks.nodup_handles (htracks : Tracks past ledger) : ledger.handles.Nodup :=
  htracks.nodup.map fun _ _ hequal => congrArg Handle.raw hequal

theorem Tracks.mem_handles_iff_find (htracks : Tracks past ledger)
    (hroom : ledger.allocated < UInt64.size) {handle : Handle} :
    handle ∈ ledger.handles ↔ ∃ object, ledger.objects.find handle = .ok object := by
  rw [mem_handles]
  constructor
  · intro hkey
    exact htracks.find_of_liveIn hroom ((htracks.keys handle).mp hkey)
  · rintro ⟨object, hfind⟩
    exact HandleTable.mem_keys_of_find hfind

/-- A turn does to the live handles what happened. -/
theorem Turn.handles_eq {happening : Happening} (htracks : Tracks past before)
    (hroom : before.allocated < UInt64.size) (hturn : Turn before happening after) :
    after.handles = happening.settle before.handles := by
  cases hturn with
  | made | copied => rfl
  | added amount hhandle => exact congrArg (List.map Handle.mk) (HandleTable.keys_revised ..)
  | @released handle object hhandle =>
      have hkeys : (before.release handle).objects.keys =
          before.objects.keys.filter (· ≠ handle.raw) := HandleTable.keys_without ..
      rw [handles, hkeys, handles, Happening.settle, List.filter_map]
      refine congrArg (List.map Handle.mk) (List.filter_congr fun raw _ => ?_)
      have hraw : raw = handle.raw ↔ ⟨raw⟩ = handle :=
        ⟨fun hequal => congrArg Handle.mk hequal, congrArg Handle.raw⟩
      exact decide_eq_decide.mpr (not_congr hraw)
  | @passed handle error hhandle =>
      have hdead : handle ∉ before.handles := by
        rw [htracks.mem_handles_iff_find hroom]
        rintro ⟨object, hobject⟩
        rw [hobject] at hhandle
        cases hhandle
      rw [Happening.settle, eq_comm, List.filter_eq_self]
      intro other hother
      have hne : other ≠ handle := fun hequal => hdead (hequal ▸ hother)
      exact decide_eq_true hne
  | shutDown => rfl

/-- What happened can be told from the live handles before and after. -/
theorem Turns.handles_eq (htracks : Tracks past before)
    (hroom : after.allocated < UInt64.size) (hturns : Turns before history after) :
    after.handles = settleAll before.handles history := by
  induction hturns generalizing past with
  | refl ledger => rfl
  | step hturn hrest ih =>
      have hbetween := Nat.lt_of_le_of_lt hrest.allocated_le hroom
      have hbefore := Nat.lt_of_le_of_lt hturn.allocated_le hbetween
      rw [ih (htracks.turn hbetween hturn) hroom, hturn.handles_eq htracks hbefore,
        settleAll_cons]

end Ledger

end InteropBridge
