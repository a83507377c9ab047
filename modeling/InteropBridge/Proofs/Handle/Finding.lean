import InteropBridge.Proofs.Handle.Table

/-!
# What a handle table finds after a change

Issuing, changing and removing concern one handle.  The object of any other handle is
found as before.  Nothing here needs the handles in the table to be distinct.
-/

namespace InteropBridge.HandleTable

variable {α : Type}

/-! ## Looking up -/

theorem lookup_cons (entry : UInt64 × α) (rest : List (UInt64 × α)) (key : UInt64) :
    (entry :: rest).lookup key = if key = entry.1 then some entry.2 else rest.lookup key := by
  rw [List.lookup_cons]
  by_cases hkey : key = entry.1
  · rw [beq_iff_eq.mpr hkey, if_pos hkey]
  · rw [beq_eq_false_iff_ne.mpr hkey, if_neg hkey]

theorem lookup_revised (entries : List (UInt64 × α)) (key other : UInt64) (change : α → α) :
    (entries.map fun entry =>
        if entry.1 = key then (entry.1, change entry.2) else entry).lookup other =
      if other = key then (entries.lookup other).map change else entries.lookup other := by
  induction entries with
  | nil => simp
  | cons entry rest ih =>
      simp only [List.map_cons, lookup_cons, ih]
      by_cases hkey : entry.1 = key
      · by_cases hother : other = key <;> simp [hkey, hother]
      · by_cases hentry : other = entry.1 <;> simp [hkey, hentry]

theorem lookup_without (entries : List (UInt64 × α)) (key other : UInt64)
    (hother : other ≠ key) :
    (entries.filter (·.1 ≠ key)).lookup other = entries.lookup other := by
  induction entries with
  | nil => rfl
  | cons entry rest ih =>
      by_cases hkey : entry.1 = key
      · rw [List.filter_cons_of_neg (by simpa using hkey), ih, lookup_cons, hkey, if_neg hother]
      · rw [List.filter_cons_of_pos (by simpa using hkey), lookup_cons, lookup_cons, ih]

theorem lookup_without_self (entries : List (UInt64 × α)) (key : UInt64) :
    (entries.filter (·.1 ≠ key)).lookup key = none := by
  rw [List.lookup_eq_none_iff]
  intro entry hentry
  have hother : entry.1 ≠ key := of_decide_eq_true (List.mem_filter.mp hentry).2
  exact bne_iff_ne.mpr hother.symm

/-! ## Finding -/

variable (table : HandleTable α) {handle other : Handle}

theorem raw_ne (hother : other ≠ handle) : other.raw ≠ handle.raw :=
  fun hraw => hother (congrArg Handle.mk hraw)

theorem find_issued (value : α) (hother : other ≠ .null) :
    (table.issued value).find other =
      if other = ⟨table.next⟩ then .ok value else table.find other := by
  rw [find_eq_lookup _ hother, find_eq_lookup _ hother, issued, lookup_cons]
  by_cases hnext : other = ⟨table.next⟩
  · rw [if_pos hnext, if_pos (congrArg Handle.raw hnext)]
  · rw [if_neg hnext, if_neg (raw_ne hnext)]

theorem find_revised_self (change : α → α) :
    (table.revised handle change).find handle = (table.find handle).map change := by
  by_cases hhandle : handle = .null
  · subst hhandle
    rfl
  · rw [find_eq_lookup _ hhandle, find_eq_lookup _ hhandle, revised, lookup_revised, if_pos rfl]
    cases table.entries.lookup handle.raw <;> rfl

theorem find_revised_of_ne (change : α → α) (hother : other ≠ handle) :
    (table.revised handle change).find other = table.find other := by
  rw [find, find, revised, lookup_revised, if_neg (raw_ne hother)]

theorem find_without_self (hhandle : handle ≠ .null) :
    (table.without handle).find handle = .error (.disposedHandle handle) := by
  apply find_of_not_mem _ hhandle
  simp

theorem find_without_of_ne (hother : other ≠ handle) :
    (table.without handle).find other = table.find other := by
  rw [find, find, without, lookup_without _ _ _ (raw_ne hother)]

theorem find_clear (hhandle : handle ≠ .null) :
    table.clear.2.find handle = .error (.disposedHandle handle) :=
  find_of_not_mem _ hhandle List.not_mem_nil

/-! ## Handles that are not live -/

section Gone

variable {table : HandleTable α} {handle : Handle}

theorem contains_of_find_error {error : BridgeError} (hfind : table.find handle = .error error) :
    table.contains handle = false := by
  rw [Bool.eq_false_iff]
  intro hlive
  obtain ⟨object, hobject⟩ := contains_iff_find.mp hlive
  rw [hobject] at hfind
  cases hfind

theorem find_of_gone (hhandle : handle ≠ .null) (hgone : table.contains handle = false) :
    table.find handle = .error (.disposedHandle handle) := by
  cases hfind : table.find handle with
  | ok object =>
      rw [contains_iff_find.mpr ⟨object, hfind⟩] at hgone
      cases hgone
  | error error =>
      obtain ⟨rfl, -⟩ | ⟨-, rfl⟩ := find_error hfind
      · exact absurd rfl hhandle
      · rfl

end Gone

end InteropBridge.HandleTable
