import InteropBridge.Proofs.Ledger.Liveness

/-!
# Ledgers and their histories

The table of objects holds exactly the live handles of its history, the handles
that came about are numbered from one, and the counts of handles hang together.
Every change of the ledger keeps it so.
-/

namespace InteropBridge

namespace Ledger

/-- What the history of a ledger says of it, and how its counts hang together. -/
structure Tracks (history : List Happening) (ledger : Ledger) : Prop where
  issued : issuedIn history = (List.range ledger.allocated).map numbered
  next : ⟨ledger.objects.next⟩ = numbered ledger.allocated
  keys : ∀ handle : Handle, handle.raw ∈ ledger.objects.keys ↔ LiveIn history handle
  nodup : ledger.objects.keys.Nodup
  live : ledger.objects.live = ledger.objects.keys.length
  balance : ledger.allocated = ledger.released + ledger.objects.keys.length

theorem tracks_fresh : Tracks [] {} where
  issued := rfl
  next := rfl
  keys handle := by
    constructor
    · intro hkey
      cases hkey
    · intro hlive
      exact absurd hlive (not_liveIn_nil handle)
  nodup := List.nodup_nil
  live := rfl
  balance := rfl

variable {history : List Happening} {ledger : Ledger}

theorem Tracks.mem_issuedIn (htracks : Tracks history ledger) {handle : Handle} :
    handle ∈ issuedIn history ↔ ∃ count < ledger.allocated, numbered count = handle := by
  rw [htracks.issued]
  simp

/-- The number of a handle tells how many came about before it. -/
theorem Tracks.toNat_of_issuedIn (htracks : Tracks history ledger)
    (hroom : ledger.allocated < UInt64.size) {count : Nat} {handle : Handle}
    (hissued : (issuedIn history)[count]? = some handle) : handle.raw.toNat = count + 1 := by
  rw [htracks.issued, List.getElem?_map, Option.map_eq_some_iff] at hissued
  obtain ⟨found, hfound, rfl⟩ := hissued
  obtain ⟨hcount, rfl⟩ := List.getElem?_eq_some_iff.mp hfound
  rw [List.length_range] at hcount
  rw [List.getElem_range]
  exact toNat_numbered (by omega)

theorem Tracks.ne_null_of_mem (htracks : Tracks history ledger)
    (hroom : ledger.allocated < UInt64.size) {handle : Handle}
    (hissued : handle ∈ issuedIn history) : handle ≠ .null := by
  obtain ⟨count, hcount, rfl⟩ := htracks.mem_issuedIn.mp hissued
  exact numbered_ne_null (by omega)

theorem Tracks.find_of_liveIn (htracks : Tracks history ledger)
    (hroom : ledger.allocated < UInt64.size) {handle : Handle} (hlive : LiveIn history handle) :
    ∃ object, ledger.objects.find handle = .ok object := by
  have hhandle := htracks.ne_null_of_mem hroom hlive.mem_issuedIn
  exact HandleTable.find_of_mem ledger.objects hhandle ((htracks.keys handle).mpr hlive)

theorem Tracks.find_of_not_liveIn (htracks : Tracks history ledger) {handle : Handle}
    (hhandle : handle ≠ .null) (hdead : ¬ LiveIn history handle) :
    ledger.objects.find handle = .error (.disposedHandle handle) :=
  HandleTable.find_of_not_mem ledger.objects hhandle
    fun hkey => hdead ((htracks.keys handle).mp hkey)

theorem Tracks.nodup_issuedIn (htracks : Tracks history ledger)
    (hroom : ledger.allocated < UInt64.size) : (issuedIn history).Nodup := by
  rw [htracks.issued]
  refine List.nodup_range.map_on fun left hleft right hright hequal => ?_
  rw [List.mem_range] at hleft hright
  exact numbered_injective (by omega) (by omega) hequal

/-- A handle that has ended never comes back. -/
theorem Tracks.not_liveIn_append {later : List Happening}
    (htracks : Tracks (history ++ later) ledger) (hroom : ledger.allocated < UInt64.size)
    {handle : Handle} (hissued : handle ∈ issuedIn history)
    (hdead : ¬ LiveIn history handle) : ¬ LiveIn (history ++ later) handle := by
  intro hlive
  have hagain := hlive.of_append.resolve_left hdead
  have hnodup := htracks.nodup_issuedIn hroom
  rw [issuedIn_append, List.nodup_append] at hnodup
  exact hnodup.2.2 handle hissued handle hagain rfl

/-- The next handle is none of those that came about. -/
theorem Tracks.next_not_mem (htracks : Tracks history ledger)
    (hroom : ledger.allocated + 1 < UInt64.size) :
    ledger.objects.next ∉ ledger.objects.keys := by
  intro hkey
  have hlive := (htracks.keys ⟨ledger.objects.next⟩).mp hkey
  obtain ⟨count, hcount, hnumbered⟩ := htracks.mem_issuedIn.mp hlive.mem_issuedIn
  rw [htracks.next] at hnumbered
  have := numbered_injective (by omega) hroom hnumbered
  omega

theorem Tracks.issue (htracks : Tracks history ledger)
    (hroom : ledger.allocated + 1 < UInt64.size) {happening : Happening}
    (hissued : happening.issued? = some ⟨ledger.objects.next⟩) (object : Int32) :
    Tracks (history ++ [happening]) (ledger.issue object) where
  issued := by
    have hlast : issuedIn [happening] = [numbered ledger.allocated] := by
      rw [← htracks.next]
      simp [issuedIn, hissued]
    rw [issuedIn_append, htracks.issued, hlast]
    simp [Ledger.issue, List.range_succ]
  next := by
    have hnext : ledger.objects.next = UInt64.ofNat (ledger.allocated + 1) :=
      congrArg Handle.raw htracks.next
    simp only [Ledger.issue, HandleTable.next_issued, hnext, numbered]
    rw [UInt64.ofNat_add (ledger.allocated + 1) 1]
    rfl
  keys handle := by
    rw [liveIn_append_singleton, hissued, ← htracks.keys handle]
    simp only [Ledger.issue, HandleTable.keys_issued, List.mem_cons]
    constructor
    · rintro (hraw | hkey)
      · exact .inl (congrArg some (congrArg Handle.mk hraw.symm))
      · refine .inr ⟨hkey, ?_, ?_⟩ <;>
          · rintro rfl
            cases hissued
    · rintro (hhandle | ⟨hkey, -⟩)
      · exact .inl (congrArg Handle.raw (Option.some.inj hhandle)).symm
      · exact .inr hkey
  nodup := by
    simp only [Ledger.issue, HandleTable.keys_issued]
    exact List.nodup_cons.mpr ⟨htracks.next_not_mem hroom, htracks.nodup⟩
  live := by
    simp [Ledger.issue, htracks.live]
  balance := by
    have hbalance := htracks.balance
    simp only [Ledger.issue, HandleTable.keys_issued, List.length_cons]
    omega

theorem Tracks.add (htracks : Tracks history ledger) (handle : Handle) (amount : Int32) :
    Tracks (history ++ [.added handle amount]) (ledger.add handle amount) where
  issued := by
    rw [issuedIn_append, htracks.issued]
    simp [issuedIn, Happening.issued?, Ledger.add]
  next := htracks.next
  keys other := by
    rw [liveIn_append_singleton, ← htracks.keys other]
    simp [Ledger.add, Happening.issued?]
  nodup := by simpa [Ledger.add] using htracks.nodup
  live := by simpa [Ledger.add] using htracks.live
  balance := by simpa [Ledger.add] using htracks.balance

theorem Tracks.release (htracks : Tracks history ledger) {handle : Handle} {object : Int32}
    (hfind : ledger.objects.find handle = .ok object) :
    Tracks (history ++ [.released handle]) (ledger.release handle) := by
  have hkey := HandleTable.mem_keys_of_find hfind
  have hlength := HandleTable.length_keys_without htracks.nodup hkey
  refine ⟨?_, htracks.next, ?_, ?_, ?_, ?_⟩
  · rw [issuedIn_append_none history rfl]
    exact htracks.issued
  · intro other
    rw [liveIn_append_released, ← htracks.keys other]
    simp only [Ledger.release, HandleTable.keys_without, List.mem_filter,
      decide_eq_true_eq, ne_eq, and_congr_right_iff, not_iff_not]
    intro _
    exact ⟨fun hraw => congrArg Handle.mk hraw, congrArg Handle.raw⟩
  · simp only [Ledger.release, HandleTable.keys_without]
    exact htracks.nodup.filter _
  · have hlive := htracks.live
    simp only [Ledger.release, HandleTable.live_without]
    omega
  · have hbalance := htracks.balance
    simp only [Ledger.release]
    omega

/-- The release of a handle that is not live changes nothing. -/
theorem Tracks.pass (htracks : Tracks history ledger) {handle : Handle}
    (hroom : ledger.allocated < UInt64.size) {error : BridgeError}
    (hfind : ledger.objects.find handle = .error error) :
    Tracks (history ++ [.released handle]) ledger := by
  have hdead : ¬ LiveIn history handle := by
    intro hlive
    obtain ⟨object, hobject⟩ := htracks.find_of_liveIn hroom hlive
    rw [hobject] at hfind
    cases hfind
  refine ⟨?_, htracks.next, ?_, htracks.nodup, htracks.live, htracks.balance⟩
  · rw [issuedIn_append_none history rfl]
    exact htracks.issued
  · intro other
    rw [liveIn_append_released, htracks.keys other]
    constructor
    · intro hlive
      exact ⟨hlive, fun hequal => hdead (hequal ▸ hlive)⟩
    · exact And.left

theorem Tracks.clear (htracks : Tracks history ledger) :
    Tracks (history ++ [.shutDown]) ledger.clear := by
  have hlive := htracks.live
  have hbalance := htracks.balance
  rw [HandleTable.length_keys] at hlive hbalance
  refine ⟨?_, htracks.next, ?_, List.nodup_nil, ?_, hbalance⟩
  · rw [issuedIn_append_none history rfl]
    exact htracks.issued
  · intro handle
    rw [liveIn_append_singleton]
    simp [Ledger.clear, HandleTable.clear, HandleTable.keys, Happening.issued?]
  · change ledger.objects.live - ledger.objects.entries.length = 0
    omega

theorem Turn.allocated_le {before after : Ledger} {happening : Happening}
    (hturn : Turn before happening after) : before.allocated ≤ after.allocated := by
  cases hturn with
  | made | copied => exact Nat.le_succ _
  | added | released | passed | shutDown => exact Nat.le_refl _

theorem Turn.kind_eq {before after : Ledger} {happening : Happening}
    (hturn : Turn before happening after) : after.objects.kind = before.objects.kind := by
  cases hturn <;> rfl

theorem Turns.kind_eq {before after : Ledger} (hturns : Turns before history after) :
    after.objects.kind = before.objects.kind := by
  induction hturns with
  | refl ledger => rfl
  | step hturn _ ih => rw [ih, hturn.kind_eq]

/-- Handles are counted as they come about. -/
theorem Turns.allocated_eq {before after : Ledger} (hturns : Turns before history after) :
    after.allocated = before.allocated + (issuedIn history).length := by
  induction hturns with
  | refl ledger => rfl
  | step hturn _ ih =>
      rw [ih]
      cases hturn with
      | made | copied =>
          simp only [issuedIn, Happening.issued?, List.filterMap_cons, List.length_cons,
            Ledger.issue]
          omega
      | added | released | passed | shutDown => rfl

/-- Every change of the ledger keeps to its history, as long as there are numbers
for handles. -/
theorem Tracks.turn {before after : Ledger} {happening : Happening}
    (htracks : Tracks history before) (hroom : after.allocated < UInt64.size)
    (hturn : Turn before happening after) :
    Tracks (history ++ [happening]) after := by
  cases hturn with
  | made => exact htracks.issue hroom rfl 0
  | copied hsource => exact htracks.issue hroom rfl _
  | added amount hhandle => exact htracks.add _ amount
  | released hhandle => exact htracks.release hhandle
  | passed hhandle => exact htracks.pass hroom hhandle
  | shutDown => exact htracks.clear

theorem Turns.allocated_le {before after : Ledger} (hturns : Turns before history after) :
    before.allocated ≤ after.allocated := by
  rw [hturns.allocated_eq]
  exact Nat.le_add_right _ _

/-- A ledger keeps to its history from any point on. -/
theorem Tracks.turns {past : List Happening} {before after : Ledger}
    (htracks : Tracks past before) (hroom : after.allocated < UInt64.size)
    (hturns : Turns before history after) : Tracks (past ++ history) after := by
  induction hturns generalizing past with
  | refl ledger =>
      rw [List.append_nil]
      exact htracks
  | step hturn hrest ih =>
      have hnext := htracks.turn (Nat.lt_of_le_of_lt hrest.allocated_le hroom) hturn
      have hwhole := ih hnext hroom
      rwa [List.append_assoc] at hwhole

/-- A live handle does not come about again, as long as there are numbers for handles. -/
theorem Tracks.not_mem_issuedIn {past : List Happening} {before after : Ledger}
    (htracks : Tracks past before) (hroom : after.allocated < UInt64.size)
    (hturns : Turns before history after) {handle : Handle}
    (hlive : before.objects.contains handle = true) : handle ∉ issuedIn history := by
  obtain ⟨object, hfind⟩ := HandleTable.contains_iff_find.mp hlive
  have hkey := (htracks.keys handle).mp (HandleTable.mem_keys_of_find hfind)
  have hnodup := (htracks.turns hroom hturns).nodup_issuedIn hroom
  rw [issuedIn_append, List.nodup_append] at hnodup
  intro hissued
  exact hnodup.2.2 handle hkey.mem_issuedIn handle hissued rfl

theorem Turns.tracks {after : Ledger} (hturns : Turns {} history after)
    (hroom : after.allocated < UInt64.size) : Tracks history after :=
  tracks_fresh.turns hroom hturns

end Ledger

end InteropBridge
