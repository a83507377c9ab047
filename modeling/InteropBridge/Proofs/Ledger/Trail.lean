import InteropBridge.Proofs.Handle.Finding
import InteropBridge.Proofs.Ledger.History
import InteropBridge.Proofs.Log.Trail
import Mathlib.Algebra.GroupWithZero.Nat

/-!
# The trail that a ledger leaves

Every turn of the ledger makes its entry in the trail, unless nothing came of it or it only
added to an object.  The entry tells which handle was allocated or released and how many
objects are live since, or how many were left at the end.  A trail that came about in this way
audits the ledger: from the entries alone one can tell which handles there have been and how
many are live.
-/

namespace InteropBridge.Ledger

/-! ## Entries -/

/-- What comes into the trail if this happens to the ledger. -/
def entries (ledger : Ledger) : Happening → List Log.Event
  | .made handle | .copied _ handle =>
      [.allocated ledger.objects.kind handle (ledger.objects.live + 1)]
  | .added .. => []
  | .released handle =>
      if ledger.objects.contains handle then
        [.released ledger.objects.kind handle (ledger.objects.live - 1)]
      else []
  | .shutDown =>
      if ledger.objects.clear.1 > 0 then [.leaked ledger.objects.clear.1] else []

/-- A list of turns, what happened in each, and the entries that they made. -/
inductive Booked : Ledger → List Happening → List Log.Event → Ledger → Prop
  | refl (ledger : Ledger) : Booked ledger [] [] ledger
  | step {before between after : Ledger} {happening : Happening} {history : List Happening}
      {rest : List Log.Event} (hturn : Turn before happening between)
      (hrest : Booked between history rest after) :
      Booked before (happening :: history) (before.entries happening ++ rest) after

/-- What one turn adds to the trail, given the objects before and after it. -/
inductive Adds (before after : HandleTable Int32) : List Happening → List Log.Event → Prop
  | nothing : Adds before after [] []
  | allocated {happening : Happening} (hissued : happening.issued? = some ⟨before.next⟩) :
      Adds before after [happening] [.allocated className ⟨before.next⟩ after.live]
  | added (handle : Handle) (amount : Int32) : Adds before after [.added handle amount] []
  | released {handle : Handle} (hlive : before.contains handle = true) :
      Adds before after [.released handle] [.released className handle after.live]
  | ignored {handle : Handle} (hended : before.contains handle = false) :
      Adds before after [.released handle] []
  | leaked (hleft : 0 < before.live) : Adds before after [.shutDown] [.leaked before.live]
  | cleared (hnone : before.live = 0) : Adds before after [.shutDown] []

variable {before between after ledger : Ledger} {happening : Happening}
variable {history first second : List Happening} {trail rest : List Log.Event}

theorem Booked.trans (hfirst : Booked before first trail between)
    (hsecond : Booked between second rest after) :
    Booked before (first ++ second) (trail ++ rest) after := by
  induction hfirst with
  | refl ledger => exact hsecond
  | step hturn _ ih =>
      rw [List.append_assoc]
      exact .step hturn (ih hsecond)

theorem Booked.turns (hbooked : Booked before history rest after) :
    Turns before history after := by
  induction hbooked with
  | refl ledger => exact .refl ledger
  | step hturn _ ih => exact .step hturn ih

/-- Turns that one happening at most tells of are no turn or a single one. -/
theorem Turns.eq_or_turn (hturns : Turns before history after) (hone : history.length ≤ 1) :
    history = [] ∧ after = before ∨ ∃ happening, history = [happening] ∧
      Turn before happening after := by
  cases hturns with
  | refl => exact .inl ⟨rfl, rfl⟩
  | step hturn hrest =>
      obtain rfl := List.eq_nil_of_length_eq_zero (Nat.le_zero.mp (Nat.le_of_succ_le_succ hone))
      rw [hrest.eq_of_nil]
      exact .inr ⟨_, rfl, hturn⟩

theorem Turns.booked (hturns : Turns before history after) (hone : history.length ≤ 1) :
    Booked before history (history.flatMap before.entries) after := by
  obtain ⟨rfl, rfl⟩ | ⟨happening, rfl, hturn⟩ := hturns.eq_or_turn hone
  · exact .refl after
  · exact .step hturn (.refl after)

theorem Tracks.live_eq_clear (htracks : Tracks history ledger) :
    ledger.objects.live = ledger.objects.clear.1 := by
  rw [htracks.live, HandleTable.length_keys]
  rfl

theorem Turn.adds (htracks : Tracks history before) (hkind : before.objects.kind = className)
    (hturn : Turn before happening after) :
    Adds before.objects after.objects [happening] (before.entries happening) := by
  cases hturn with
  | made | copied =>
      rw [entries, hkind]
      exact .allocated rfl
  | added amount hhandle => exact .added _ _
  | released hhandle =>
      have hlive := HandleTable.contains_iff_find.mpr ⟨_, hhandle⟩
      rw [entries, hlive, if_pos rfl, hkind]
      exact .released hlive
  | passed hhandle =>
      have hended := HandleTable.contains_of_find_error hhandle
      rw [entries, hended]
      exact .ignored hended
  | shutDown =>
      have hlive := htracks.live_eq_clear
      rw [entries]
      split
      · rw [← hlive]
        exact .leaked (by omega)
      · exact .cleared (by omega)

theorem Turns.adds {past : List Happening} (hturns : Turns before history after)
    (htracks : Tracks past before) (hkind : before.objects.kind = className)
    (hone : history.length ≤ 1) :
    Adds before.objects after.objects history (history.flatMap before.entries) := by
  obtain ⟨rfl, rfl⟩ | ⟨happening, rfl, hturn⟩ := hturns.eq_or_turn hone
  · exact .nothing
  · rw [List.flatMap_singleton]
    exact hturn.adds htracks hkind

/-! ## Trails that audit a ledger -/

/-- The trail tells what became of the handles of the ledger. -/
structure Audited (ledger : Ledger) (trail : List Log.Event) : Prop where
  allocated : Log.allocatedIn trail = List.range' 1 ledger.allocated
  once : (Log.releasedIn trail).Nodup
  follow : Log.ReleasesFollow trail
  live : ∀ key ∈ ledger.objects.keys, key.toNat ∉ Log.releasedIn trail
  balance : (Log.allocatedIn trail).length =
    (Log.releasedIn trail).length + (Log.leakedIn trail).sum + ledger.objects.live

theorem audited_fresh : Audited {} [] where
  allocated := rfl
  once := List.nodup_nil
  follow := .nil
  live _ _ := List.not_mem_nil
  balance := rfl

/-- A released handle is one of those that came about. -/
theorem Audited.le_of_released (haudited : Audited ledger trail) {number : Nat}
    (hnumber : number ∈ Log.releasedIn trail) : number ≤ ledger.allocated := by
  have hallocated := haudited.follow.mem_allocatedIn hnumber
  rw [haudited.allocated, List.mem_range'_1] at hallocated
  omega

theorem Tracks.toNat_next (htracks : Tracks history ledger)
    (hroom : ledger.allocated + 1 < UInt64.size) :
    ledger.objects.next.toNat = ledger.allocated + 1 := by
  have hnext := congrArg (·.raw.toNat) htracks.next
  exact hnext.trans (toNat_numbered hroom)

theorem Audited.issue (htracks : Tracks history ledger) (haudited : Audited ledger trail)
    (hroom : ledger.allocated + 1 < UInt64.size) (object : Int32) (kind : String) (live : Nat) :
    Audited (ledger.issue object) (trail ++ [.allocated kind ⟨ledger.objects.next⟩ live]) := by
  have hnext := htracks.toNat_next hroom
  have hother : "handle allocated" ≠ "handle released" := by decide
  constructor
  case allocated =>
    rw [Log.allocatedIn_allocated, haudited.allocated, hnext, Ledger.issue, List.range'_1_concat,
      Nat.add_comm 1]
  case once =>
    rw [Log.releasedIn_allocated]
    exact haudited.once
  case follow => exact haudited.follow.concat fun hmessage => absurd hmessage hother
  case live =>
    intro key hkey
    rw [Log.releasedIn_allocated]
    obtain rfl | hkey := List.mem_cons.mp hkey
    · -- The new handle is greater than all that have been released.
      intro hnumber
      have hle := haudited.le_of_released hnumber
      change ledger.objects.next.toNat ≤ _ at hle
      omega
    · exact haudited.live key hkey
  case balance =>
    have hbalance := haudited.balance
    simp only [Log.allocatedIn_allocated, Log.releasedIn_allocated, Log.leakedIn_allocated,
      List.length_append, List.length_singleton, Ledger.issue, HandleTable.live_issued]
    omega

theorem Audited.release (htracks : Tracks history ledger) (haudited : Audited ledger trail)
    (hroom : ledger.allocated < UInt64.size) {handle : Handle} {object : Int32}
    (hfind : ledger.objects.find handle = .ok object) (kind : String) (live : Nat) :
    Audited (ledger.release handle) (trail ++ [.released kind handle live]) := by
  have hkey := HandleTable.mem_keys_of_find hfind
  constructor
  case allocated =>
    rw [Log.allocatedIn_released]
    exact haudited.allocated
  case once =>
    rw [Log.releasedIn_released, ← List.concat_eq_append, List.nodup_concat]
    exact ⟨haudited.live handle.raw hkey, haudited.once⟩
  case follow =>
    refine haudited.follow.concat fun _ => ?_
    obtain ⟨count, hcount, rfl⟩ :=
      htracks.mem_issuedIn.mp ((htracks.keys handle).mp hkey).mem_issuedIn
    have hnumber : (Log.Event.released kind (numbered count) live).count "handle" = count + 1 :=
      toNat_numbered (by omega)
    rw [hnumber, haudited.allocated, List.mem_range'_1]
    omega
  case live =>
    intro key hother
    rw [Ledger.release, HandleTable.keys_without, List.mem_filter, decide_eq_true_eq] at hother
    rw [Log.releasedIn_released, List.mem_append, List.mem_singleton, not_or]
    exact ⟨haudited.live key hother.1, fun hequal => hother.2 (UInt64.toNat_inj.mp hequal)⟩
  case balance =>
    have hbalance := haudited.balance
    have hsome : 0 < ledger.objects.live := by
      rw [htracks.live]
      exact List.length_pos_of_mem hkey
    simp only [Log.allocatedIn_released, Log.releasedIn_released, Log.leakedIn_released,
      List.length_append, List.length_singleton, Ledger.release, HandleTable.live_without]
    omega

/-- Objects that are left at the end are told of by their number. -/
theorem Audited.leave (htracks : Tracks history ledger) (haudited : Audited ledger trail) :
    Audited ledger.clear (trail ++ [.leaked ledger.objects.clear.1]) := by
  have hother : "objects still alive at shutdown" ≠ "handle released" := by decide
  constructor
  case allocated =>
    rw [Log.allocatedIn_leaked]
    exact haudited.allocated
  case once =>
    rw [Log.releasedIn_leaked]
    exact haudited.once
  case follow => exact haudited.follow.concat fun hmessage => absurd hmessage hother
  case live => exact fun _ hkey => absurd hkey List.not_mem_nil
  case balance =>
    have hbalance := haudited.balance
    have hcleared : ledger.clear.objects.live = 0 := htracks.clear.live
    rw [Log.allocatedIn_leaked, Log.releasedIn_leaked, Log.leakedIn_leaked, List.sum_append,
      List.sum_singleton, hcleared, ← htracks.live_eq_clear]
    omega

/-- A turn without an entry leaves the audit as it is. -/
theorem Audited.of_eq {left right : Ledger} (haudited : Audited left trail)
    (hallocated : right.allocated = left.allocated)
    (hkeys : right.objects.keys = left.objects.keys)
    (hlive : right.objects.live = left.objects.live) : Audited right trail where
  allocated := by rw [hallocated, haudited.allocated]
  once := haudited.once
  follow := haudited.follow
  live := by
    rw [hkeys]
    exact haudited.live
  balance := by rw [hlive, haudited.balance]

theorem Audited.turn (htracks : Tracks history before) (haudited : Audited before trail)
    (hroom : after.allocated < UInt64.size) (hturn : Turn before happening after) :
    Audited after (trail ++ before.entries happening) := by
  cases hturn with
  | made | copied => exact haudited.issue htracks hroom _ _ _
  | added amount hhandle =>
      rw [entries, List.append_nil]
      exact haudited.of_eq rfl (HandleTable.keys_revised ..) rfl
  | released hhandle =>
      rw [entries, HandleTable.contains_iff_find.mpr ⟨_, hhandle⟩, if_pos rfl]
      exact haudited.release htracks hroom hhandle _ _
  | passed hhandle =>
      rw [entries, HandleTable.contains_of_find_error hhandle, if_neg Bool.false_ne_true,
        List.append_nil]
      exact haudited
  | shutDown =>
      rw [entries]
      split
      · exact haudited.leave htracks
      · have hcleared : before.clear.objects.live = 0 := htracks.clear.live
        have hlive := htracks.live_eq_clear
        have hkeys : before.objects.keys = [] := by
          rw [← List.length_eq_zero_iff, ← htracks.live]
          omega
        rw [List.append_nil]
        exact haudited.of_eq rfl hkeys.symm (by omega)

/-- What was booked audits the ledger, from any point on. -/
theorem Booked.audited {past : List Happening} (hbooked : Booked before history rest after)
    (htracks : Tracks past before) (haudited : Audited before trail)
    (hroom : after.allocated < UInt64.size) : Audited after (trail ++ rest) := by
  -- Each turn is judged by the history before it, which tells what the table holds.
  induction hbooked generalizing past trail with
  | refl ledger => rwa [List.append_nil]
  | step hturn hrest ih =>
      have hbetween := Nat.lt_of_le_of_lt hrest.turns.allocated_le hroom
      rw [← List.append_assoc]
      exact ih (htracks.turn hbetween hturn) (haudited.turn htracks hbetween hturn) hroom

end InteropBridge.Ledger
