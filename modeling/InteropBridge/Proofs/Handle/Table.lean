import InteropBridge.Handle.Table
import Mathlib.Data.List.Nodup

/-!
# What the operations of a handle table do

Finding decides everything: changing and removing fail exactly where finding
fails, with the same error, and else do one thing to the entries.  Seen through
its keys, a table only ever gains the handle it issues and loses the handle it
removes.
-/

namespace InteropBridge.HandleTable

variable {α : Type}

/-- The handles in the table, newest first. -/
def keys (table : HandleTable α) : List UInt64 :=
  table.entries.map (·.1)

theorem length_keys (table : HandleTable α) :
    table.keys.length = table.entries.length :=
  List.length_map ..

/-! ## Finding -/

@[simp]
theorem find_null (table : HandleTable α) :
    table.find .null = .error (.marshal .nullHandle) := rfl

theorem isNull_eq_false {handle : Handle} (hhandle : handle ≠ .null) :
    handle.isNull = false := by
  cases hnull : handle.isNull with
  | false => rfl
  | true =>
      have hraw : handle.raw = 0 := by simpa [Handle.isNull] using hnull
      exact absurd (congrArg Handle.mk hraw) hhandle

theorem find_eq_lookup (table : HandleTable α) {handle : Handle}
    (hhandle : handle ≠ .null) :
    table.find handle =
      match table.entries.lookup handle.raw with
      | some value => .ok value
      | none => .error (.disposedHandle handle) := by
  rw [find, isNull_eq_false hhandle]
  rfl

theorem find_of_not_mem (table : HandleTable α) {handle : Handle}
    (hhandle : handle ≠ .null) (hkeys : handle.raw ∉ table.keys) :
    table.find handle = .error (.disposedHandle handle) := by
  have hlookup : table.entries.lookup handle.raw = none := by
    rw [List.lookup_eq_none_iff]
    intro entry hentry
    rw [bne_iff_ne]
    intro hequal
    exact hkeys (hequal ▸ List.mem_map_of_mem hentry)
  rw [find_eq_lookup table hhandle, hlookup]

theorem find_of_mem (table : HandleTable α) {handle : Handle}
    (hhandle : handle ≠ .null) (hkeys : handle.raw ∈ table.keys) :
    ∃ value, table.find handle = .ok value := by
  have hsome : (table.entries.lookup handle.raw).isSome = true := by
    obtain ⟨entry, hentry, hraw⟩ := List.mem_map.mp hkeys
    rw [List.lookup_isSome_iff]
    exact ⟨entry, hentry, by simp [hraw]⟩
  obtain ⟨value, hvalue⟩ := Option.isSome_iff_exists.mp hsome
  exact ⟨value, by rw [find_eq_lookup table hhandle, hvalue]⟩

/-- Only the null handle and handles without an object are refused. -/
theorem find_error {table : HandleTable α} {handle : Handle} {error : BridgeError}
    (hfind : table.find handle = .error error) :
    handle = .null ∧ error = .marshal .nullHandle ∨
      handle ≠ .null ∧ error = .disposedHandle handle := by
  by_cases hhandle : handle = .null
  · subst hhandle
    rw [find_null] at hfind
    cases hfind
    exact .inl ⟨rfl, rfl⟩
  · refine .inr ⟨hhandle, ?_⟩
    by_cases hkeys : handle.raw ∈ table.keys
    · obtain ⟨value, hvalue⟩ := find_of_mem table hhandle hkeys
      rw [hvalue] at hfind
      cases hfind
    · rw [find_of_not_mem table hhandle hkeys] at hfind
      cases hfind
      rfl

theorem contains_iff_find {table : HandleTable α} {handle : Handle} :
    table.contains handle = true ↔ ∃ value, table.find handle = .ok value := by
  rw [contains, find]
  cases handle.isNull with
  | true => simp
  | false => cases table.entries.lookup handle.raw <;> simp

theorem ne_null_of_find {table : HandleTable α} {handle : Handle} {value : α}
    (hfind : table.find handle = .ok value) : handle ≠ .null := by
  rintro rfl
  rw [find_null] at hfind
  cases hfind

theorem mem_keys_of_find {table : HandleTable α} {handle : Handle} {value : α}
    (hfind : table.find handle = .ok value) : handle.raw ∈ table.keys := by
  by_contra hkeys
  rw [find_of_not_mem table (ne_null_of_find hfind) hkeys] at hfind
  cases hfind

/-! ## Issuing, changing and removing -/

/-- The table after it issued its next handle for an object. -/
def issued (table : HandleTable α) (value : α) : HandleTable α :=
  { table with
    next := table.next + 1
    live := table.live + 1
    entries := (table.next, value) :: table.entries }

/-- The table with the object of a handle changed. -/
def revised (table : HandleTable α) (handle : Handle) (change : α → α) : HandleTable α :=
  { table with
    entries := table.entries.map fun entry =>
      if entry.1 = handle.raw then (entry.1, change entry.2) else entry }

/-- The table without the object of a handle. -/
def without (table : HandleTable α) (handle : Handle) : HandleTable α :=
  { table with
    live := table.live - 1
    entries := table.entries.filter (·.1 ≠ handle.raw) }

theorem insert_eq (table : HandleTable α) (value : α) (limit : Nat) :
    table.insert value limit =
      if table.live < limit then .ok (⟨table.next⟩, table.issued value)
      else .error (.allocation table.kind (refusal table.live limit)) := rfl

theorem update_eq (table : HandleTable α) (handle : Handle) (change : α → α) :
    table.update handle change =
      (table.find handle).map fun _ => table.revised handle change := by
  rw [update]
  cases table.find handle <;> rfl

theorem remove_eq (table : HandleTable α) (handle : Handle) :
    table.remove handle =
      (table.find handle).map fun value => (value, table.without handle) := by
  rw [remove]
  cases table.find handle <;> rfl

section Fields

variable (table : HandleTable α) (value : α) (handle : Handle) (change : α → α)

@[simp]
theorem next_issued : (table.issued value).next = table.next + 1 := rfl

@[simp]
theorem live_issued : (table.issued value).live = table.live + 1 := rfl

@[simp]
theorem keys_issued : (table.issued value).keys = table.next :: table.keys := rfl

@[simp]
theorem next_revised : (table.revised handle change).next = table.next := rfl

@[simp]
theorem live_revised : (table.revised handle change).live = table.live := rfl

@[simp]
theorem live_without : (table.without handle).live = table.live - 1 := rfl

end Fields

@[simp]
theorem keys_revised (table : HandleTable α) (handle : Handle) (change : α → α) :
    (table.revised handle change).keys = table.keys := by
  simp only [keys, revised, List.map_map]
  apply List.map_congr_left
  intro entry _
  simp only [Function.comp_apply]
  split <;> rfl

@[simp]
theorem keys_without (table : HandleTable α) (handle : Handle) :
    (table.without handle).keys = table.keys.filter (· ≠ handle.raw) := by
  simp only [keys, without, List.filter_map]
  rfl

/-- Distinct numbers without one of them. -/
theorem filter_ne_eq_erase {keys : List UInt64} (hnodup : keys.Nodup) (key : UInt64) :
    keys.filter (· ≠ key) = keys.erase key := by
  rw [hnodup.erase_eq_filter]
  refine List.filter_congr fun raw _ => ?_
  rw [bne, beq_eq_decide, decide_not]

theorem length_keys_without {table : HandleTable α} (hnodup : table.keys.Nodup)
    {handle : Handle} (hkey : handle.raw ∈ table.keys) :
    (table.without handle).keys.length + 1 = table.keys.length := by
  rw [keys_without, filter_ne_eq_erase hnodup, List.length_erase_add_one hkey]

end InteropBridge.HandleTable
