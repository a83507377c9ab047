import InteropBridge.Proofs.Handle.Finding
import Mathlib.Data.List.Perm.Basic

/-!
# Handle tables that threads share

The count, the counter of numbers and the entries of a table are three things, and none of
the operations changes all it needs at once.  To insert an entry a thread counts it, draws a
number for it and stores it; to remove one it takes it out and counts it down; and to clear a
table it looks which entries there are and removes them one by one.  Threads that share a
table interleave these steps as they like.
-/

namespace InteropBridge

variable {α Name : Type}

namespace HandleTable

/-! ## Steps on a table -/

/-- One more entry is counted. -/
def counted (table : HandleTable α) : HandleTable α :=
  { table with live := table.live + 1 }

/-- The next number is drawn. -/
def numbered (table : HandleTable α) : HandleTable α :=
  { table with next := table.next + 1 }

/-- An entry is stored, in the place of any other of its number. -/
def stored (table : HandleTable α) (id : UInt64) (value : α) : HandleTable α :=
  { table with entries := (id, value) :: table.entries.filter (·.1 ≠ id) }

/-- An entry is taken out. -/
def taken (table : HandleTable α) (id : UInt64) : HandleTable α :=
  { table with entries := table.entries.filter (·.1 ≠ id) }

/-- One entry less is counted. -/
def countedDown (table : HandleTable α) : HandleTable α :=
  { table with live := table.live - 1 }

/-- With no entry of its number, an entry that is counted, numbered and stored is inserted. -/
theorem stored_numbered_counted {table : HandleTable α} (hfresh : table.next ∉ table.keys)
    (value : α) : table.counted.numbered.stored table.next value = table.issued value := by
  have hkept : table.entries.filter (·.1 ≠ table.next) = table.entries := by
    rw [List.filter_eq_self]
    intro entry hentry
    simpa using fun hsame : entry.1 = table.next =>
      hfresh (hsame ▸ List.mem_map_of_mem hentry)
  rw [stored, numbered, counted, issued]
  dsimp only
  rw [hkept]

/-- An entry that is taken out and counted down is removed. -/
theorem countedDown_taken (table : HandleTable α) (handle : Handle) :
    (table.taken handle.raw).countedDown = table.without handle := rfl

/-- A table without entries is clear. -/
theorem clear_of_keys {table : HandleTable α} (hkeys : table.keys = []) :
    table.clear.2 = table := by
  have hentries : table.entries = [] := List.map_eq_nil_iff.mp hkeys
  rw [clear, hentries]
  dsimp only [List.length_nil, Nat.sub_zero]
  rw [← hentries]

/-- An entry that is removed before is not missed when the table is cleared. -/
theorem clear_without {table : HandleTable α} {handle : Handle} (hnodup : table.keys.Nodup)
    (hkey : handle.raw ∈ table.keys) : (table.without handle).clear.2 = table.clear.2 := by
  have hlength : (table.without handle).entries.length + 1 = table.entries.length := by
    rw [← length_keys, ← length_keys]
    exact length_keys_without hnodup hkey
  have hlive : table.live - 1 - (table.without handle).entries.length =
      table.live - table.entries.length := by
    rw [← hlength, Nat.add_comm, Nat.sub_sub]
  rw [clear, clear]
  dsimp only
  rw [live_without, hlive]
  rfl

theorem keys_stored (table : HandleTable α) (id : UInt64) (value : α) :
    (table.stored id value).keys = id :: table.keys.filter (· ≠ id) := by
  simp only [keys, stored, List.map_cons, List.filter_map]
  rfl

theorem keys_taken (table : HandleTable α) (id : UInt64) :
    (table.taken id).keys = table.keys.filter (· ≠ id) := by
  simp only [keys, taken, List.filter_map]
  rfl

end HandleTable

/-! ## Threads at a table -/

/-- What a thread asks of a table.  A clear sweeps the entries in whatever order. -/
inductive Request (α : Type)
  | insert (value : α) (limit : Nat)
  | find (handle : Handle)
  | update (handle : Handle) (change : α → α)
  | remove (handle : Handle)
  | clear (order : List UInt64 → List UInt64) (horder : ∀ ids, (order ids).Perm ids)

/-- What it learns. -/
inductive Reply (α : Type)
  | inserted (handle : Handle)
  | found (value : α)
  | updated
  | removed (value : α)
  | cleared (count : Nat)
  | failed (error : BridgeError)

/-- What an entry is taken out for: its own removal, or a clear that has removed some entries
and has others left to sweep. -/
inductive Purpose
  | removal
  | clearing (count : Nat) (left : List UInt64)

/-- How far a thread has come with what it asked for. -/
inductive Stage (α : Type)
  | idle
  /-- An entry is counted that is to be inserted. -/
  | counted (value : α)
  /-- It has its number. -/
  | numbered (id : UInt64) (value : α)
  /-- An entry was taken out that is to be counted down. -/
  | taken (purpose : Purpose) (value : α)
  /-- A clear has removed some entries and has others left to sweep. -/
  | sweeping (count : Nat) (left : List UInt64)

/-- A table and the threads that share it. -/
structure Shared (Name α : Type) where
  table : HandleTable α
  stages : Name → Stage α := fun _ => .idle
  /-- What the threads have learnt, the last first. -/
  replies : List (Name × Reply α) := []
  /-- The numbers of the entries that were taken out, the last first. -/
  taken : List UInt64 := []

/-- One step of a thread: it begins what it is asked for, or goes on with it. -/
inductive Tick (Name α : Type)
  | begin (name : Name) (request : Request α)
  | goOn (name : Name)

namespace Shared

variable [DecidableEq Name]

/-- The thread leaves the table and is at another stage. -/
def leave (shared : Shared Name α) (name : Name) (table : HandleTable α) (stage : Stage α) :
    Shared Name α :=
  { shared with table, stages := Function.update shared.stages name stage }

/-- The thread leaves the table and has its answer. -/
def answer (shared : Shared Name α) (name : Name) (table : HandleTable α) (reply : Reply α) :
    Shared Name α :=
  { shared.leave name table .idle with replies := (name, reply) :: shared.replies }

/-- The thread has taken an entry out. -/
def withdraw (shared : Shared Name α) (name : Name) (id : UInt64) (purpose : Purpose)
    (value : α) : Shared Name α :=
  { shared.leave name (shared.table.taken id) (.taken purpose value) with
    taken := id :: shared.taken }

/-- The thread takes an entry out if it is there. -/
def takeOut (shared : Shared Name α) (name : Name) (handle : Handle) (purpose : Purpose)
    (absent : BridgeError → Shared Name α) : Shared Name α :=
  match shared.table.find handle with
  | .ok value => shared.withdraw name handle.raw purpose value
  | .error error => absent error

/-- The first step of what a thread asks for. -/
def first (shared : Shared Name α) (name : Name) : Request α → Shared Name α
  | .insert value limit =>
      if shared.table.live < limit then shared.leave name shared.table.counted (.counted value)
      else shared.answer name shared.table (.failed (.allocation shared.table.kind
        (HandleTable.refusal shared.table.live limit)))
  | .find handle =>
      match shared.table.find handle with
      | .ok value => shared.answer name shared.table (.found value)
      | .error error => shared.answer name shared.table (.failed error)
  | .update handle change =>
      match shared.table.update handle change with
      | .ok table => shared.answer name table .updated
      | .error error => shared.answer name shared.table (.failed error)
  | .remove handle => shared.takeOut name handle .removal fun error =>
      shared.answer name shared.table (.failed error)
  | .clear order _ => shared.leave name shared.table (.sweeping 0 (order shared.table.keys))

/-- The step that comes next at a stage. -/
def next (shared : Shared Name α) (name : Name) : Stage α → Shared Name α
  | .idle => shared
  | .counted value =>
      shared.leave name shared.table.numbered (.numbered shared.table.next value)
  | .numbered id value =>
      shared.answer name (shared.table.stored id value) (.inserted ⟨id⟩)
  | .taken .removal value => shared.answer name shared.table.countedDown (.removed value)
  | .taken (.clearing count left) _ =>
      shared.leave name shared.table.countedDown (.sweeping (count + 1) left)
  | .sweeping count [] => shared.answer name shared.table (.cleared count)
  | .sweeping count (id :: left) => shared.takeOut name ⟨id⟩ (.clearing count left) fun _ =>
      shared.leave name shared.table (.sweeping count left)

/-- A thread that is not done goes on before it begins anything else. -/
def step (shared : Shared Name α) : Tick Name α → Shared Name α
  | .begin name request =>
      match shared.stages name with
      | .idle => shared.first name request
      | _ => shared
  | .goOn name => shared.next name (shared.stages name)

/-- The table and its threads after some steps. -/
def after (shared : Shared Name α) (ticks : List (Tick Name α)) : Shared Name α :=
  ticks.foldl step shared

end Shared

/-! ## Threads that are alone at a table -/

namespace Shared

variable [DecidableEq Name] {shared : Shared Name α} {name : Name}

@[simp]
theorem stages_leave_self (table : HandleTable α) (stage : Stage α) :
    (shared.leave name table stage).stages name = stage :=
  Function.update_self ..

@[simp]
theorem stages_answer_self (table : HandleTable α) (reply : Reply α) :
    (shared.answer name table reply).stages name = .idle :=
  Function.update_self ..

@[simp]
theorem stages_withdraw_self (id : UInt64) (purpose : Purpose) (value : α) :
    (shared.withdraw name id purpose value).stages name = .taken purpose value :=
  Function.update_self ..

theorem step_begin (hidle : shared.stages name = .idle) (request : Request α) :
    shared.step (.begin name request) = shared.first name request := by
  rw [step, hidle]

theorem step_goOn {stage : Stage α} (hstage : shared.stages name = stage) :
    shared.step (.goOn name) = shared.next name stage := by
  rw [step, hstage]

/-- Alone at a table, an insertion comes to what it comes to at once. -/
theorem after_insert (hidle : shared.stages name = .idle)
    (hfresh : shared.table.next ∉ shared.table.keys) (value : α) (limit : Nat) :
    let ended := shared.after [.begin name (.insert value limit), .goOn name, .goOn name]
    match shared.table.insert value limit with
    | .ok (handle, table) => ended.table = table ∧
        ended.replies = (name, .inserted handle) :: shared.replies
    | .error error => ended.table = shared.table ∧
        ended.replies = (name, .failed error) :: shared.replies := by
  intro ended
  have hended : ended = (((shared.step (.begin name (.insert value limit))).step
      (.goOn name)).step (.goOn name)) := rfl
  rw [step_begin hidle, first] at hended
  by_cases hroom : shared.table.live < limit
  · rw [if_pos hroom, step_goOn (stages_leave_self _ _), next,
      step_goOn (stages_leave_self _ _), next] at hended
    rw [HandleTable.insert_eq, if_pos hroom, hended]
    exact ⟨HandleTable.stored_numbered_counted hfresh value, rfl⟩
  · rw [if_neg hroom, step_goOn (stages_answer_self _ _), next,
      step_goOn (stages_answer_self _ _), next] at hended
    rw [HandleTable.insert_eq, if_neg hroom, hended]
    exact ⟨rfl, rfl⟩

theorem takeOut_of_find {handle : Handle} {value : α}
    (hfind : shared.table.find handle = .ok value) (purpose : Purpose)
    (absent : BridgeError → Shared Name α) :
    shared.takeOut name handle purpose absent =
      shared.withdraw name handle.raw purpose value := by
  rw [takeOut, hfind]

/-- So does a removal. -/
theorem after_remove (hidle : shared.stages name = .idle) (handle : Handle) :
    let ended := shared.after [.begin name (.remove handle), .goOn name]
    match shared.table.remove handle with
    | .ok (value, table) => ended.table = table ∧
        ended.replies = (name, .removed value) :: shared.replies
    | .error error => ended.table = shared.table ∧
        ended.replies = (name, .failed error) :: shared.replies := by
  intro ended
  have hended : ended = ((shared.step (.begin name (.remove handle))).step (.goOn name)) := rfl
  rw [step_begin hidle, first] at hended
  rw [HandleTable.remove_eq]
  cases hfind : shared.table.find handle with
  | ok value =>
      rw [takeOut_of_find hfind, step_goOn (stages_withdraw_self _ _ _), next] at hended
      rw [hended]
      exact ⟨HandleTable.countedDown_taken shared.table handle, rfl⟩
  | error error =>
      rw [takeOut, hfind] at hended
      dsimp only at hended
      rw [step_goOn (stages_answer_self _ _), next] at hended
      rw [hended]
      exact ⟨rfl, rfl⟩

theorem after_append (shared : Shared Name α) (ticks more : List (Tick Name α)) :
    shared.after (ticks ++ more) = (shared.after ticks).after more :=
  List.foldl_append ..

/-- A sweep removes the entries one after another, each in two steps. -/
theorem after_sweep {count : Nat} {left : List UInt64}
    (hstage : shared.stages name = .sweeping count left) (hleft : left.Perm shared.table.keys)
    (hnodup : shared.table.keys.Nodup) (hnonNull : 0 ∉ shared.table.keys) :
    let ended := shared.after (List.replicate (2 * left.length) (.goOn name))
    ended.table = shared.table.clear.2 ∧ ended.replies = shared.replies ∧
      ended.stages name = .sweeping (count + left.length) [] := by
  induction left generalizing shared count with
  | nil => exact ⟨(HandleTable.clear_of_keys hleft.symm.eq_nil).symm, rfl, hstage⟩
  | cons id left ih =>
      have hkey : id ∈ shared.table.keys := hleft.subset (List.mem_cons_self ..)
      have hid : id ≠ 0 := fun hzero => hnonNull (hzero ▸ hkey)
      have hhandle : Handle.mk id ≠ .null := fun hnull => hid (congrArg Handle.raw hnull)
      obtain ⟨value, hfind⟩ := shared.table.find_of_mem hhandle hkey
      let rest : Shared Name α := (shared.withdraw name id (.clearing count left) value).leave name
        (shared.table.without ⟨id⟩) (.sweeping (count + 1) left)
      have hrest : (shared.step (.goOn name)).step (.goOn name) = rest := by
        rw [step_goOn hstage, next, takeOut_of_find hfind, step_goOn (stages_withdraw_self ..)]
        rfl
      have hkeys : rest.table.keys = shared.table.keys.erase id := by
        rw [← HandleTable.filter_ne_eq_erase hnodup]
        exact HandleTable.keys_without ..
      have hperm : left.Perm rest.table.keys := by
        have herased := hleft.erase id
        rwa [List.erase_cons_head, ← hkeys] at herased
      have hstageRest : rest.stages name = .sweeping (count + 1) left := stages_leave_self ..
      obtain ⟨htable, hreplies, hended⟩ := ih hstageRest hperm (hkeys ▸ hnodup.erase id)
        fun hzero => hnonNull (List.mem_of_mem_erase (hkeys ▸ hzero))
      intro ended
      have hafter : ended = rest.after (List.replicate (2 * left.length) (.goOn name)) := by
        rw [← hrest]
        rfl
      rw [hafter, htable, hreplies, hended, List.length_cons, Nat.add_right_comm, ← Nat.add_assoc]
      exact ⟨HandleTable.clear_without hnodup hkey, rfl, rfl⟩

/-- So does clearing the table, which is the only operation that many steps belong to. -/
theorem after_clear (hidle : shared.stages name = .idle) (hnodup : shared.table.keys.Nodup)
    (hnonNull : 0 ∉ shared.table.keys) (order : List UInt64 → List UInt64)
    (horder : ∀ ids, (order ids).Perm ids) :
    let ended := shared.after (.begin name (.clear order horder) ::
      (List.replicate (2 * shared.table.entries.length) (.goOn name) ++ [.goOn name]))
    ended.table = shared.table.clear.2 ∧
      ended.replies = (name, .cleared shared.table.clear.1) :: shared.replies := by
  intro ended
  let begun : Shared Name α :=
    shared.leave name shared.table (.sweeping 0 (order shared.table.keys))
  have hlength : (order shared.table.keys).length = shared.table.entries.length := by
    rw [(horder _).length_eq, HandleTable.length_keys]
  have hstage : begun.stages name = .sweeping 0 (order shared.table.keys) := stages_leave_self ..
  obtain ⟨htable, hreplies, hswept⟩ :=
    after_sweep hstage (horder shared.table.keys) hnodup hnonNull
  have hended : ended = (begun.after (List.replicate
      (2 * (order shared.table.keys).length) (.goOn name))).step (.goOn name) := by
    change (shared.step _).after _ = _
    rw [step_begin hidle, first, hlength, after_append]
    rfl
  rw [step_goOn hswept, next, Nat.zero_add, hlength] at hended
  rw [hlength] at htable hreplies
  rw [hended]
  exact ⟨htable, congrArg _ hreplies⟩

end Shared

end InteropBridge
