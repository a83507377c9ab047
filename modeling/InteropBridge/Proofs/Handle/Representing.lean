import InteropBridge.Proofs.Handle.Finding
import InteropBridge.Proofs.Handle.Registry
import InteropBridge.Proofs.Handle.Sharing

/-!
# Handle tables stand for registries

A table stores its objects in a list and counts them beside it.  It stands for a registry if
the list has one entry for each number of the registry, and the count is right.  Every
operation answers as the registry does and leaves a table that stands for the registry after
it, as long as there are numbers to issue.  So a table is a finite map with a counter to
whoever asks it.
-/

namespace InteropBridge.HandleTable

variable {α β : Type}

/-! ## Asking a table -/

section Asking

variable (table : HandleTable α)

/-- What an operation comes to, if it does not fail. -/
def attempt : TableOperation α β → Except BridgeError (TableAnswer α β × HandleTable α)
  | .insert value limit => do
      let (handle, grown) ← table.insert value limit
      return (.inserted handle.raw.toNat, grown)
  | .look handle tell => do
      let value ← table.find handle
      return (.told (tell value), table)
  | .change handle change => do
      let value ← table.find handle
      let changed ← table.update handle fun value => (change value).2
      return (.told (change value).1, changed)
  | .remove handle => do
      let (value, shrunk) ← table.remove handle
      return (.removed value, shrunk)
  | .contains handle => return (.holds (table.contains handle), table)
  | .count => return (.counted table.live, table)
  | .isEmpty => return (.holds table.isEmpty, table)
  | .clear => return (.counted table.clear.1, table.clear.2)

/-- The answer to an operation, and the table after it. -/
def perform (operation : TableOperation α β) : TableAnswer α β × HandleTable α :=
  TableOperation.settle table (table.attempt operation)

/-- The answers to operations one after another, and the table after them. -/
def run (operations : List (TableOperation α β)) : List (TableAnswer α β) × HandleTable α :=
  TableOperation.inTurn perform table operations

end Asking

/-- Removes the objects of some numbers one after another, and counts the removals that
succeed. -/
def sweep (table : HandleTable α) : List UInt64 → Nat × HandleTable α
  | [] => (0, table)
  | number :: left =>
      match table.remove ⟨number⟩ with
      | .ok (_, shrunk) => ((shrunk.sweep left).1 + 1, (shrunk.sweep left).2)
      | .error _ => table.sweep left

/-- A sweep over all numbers of a table, in whatever order, is what clears it. -/
theorem sweep_eq_clear {table : HandleTable α} {numbers : List UInt64}
    (hnodup : table.keys.Nodup) (hzero : 0 ∉ table.keys) (hnumbers : numbers.Perm table.keys) :
    table.sweep numbers = table.clear := by
  induction numbers generalizing table with
  | nil =>
      have hkeys : table.keys = [] := hnumbers.symm.eq_nil
      have hcount : table.clear.1 = 0 := by
        rw [clear, ← length_keys, hkeys]
        rfl
      exact Prod.ext hcount.symm (clear_of_keys hkeys).symm
  | cons number left ih =>
      have hkey : number ∈ table.keys := hnumbers.subset (List.mem_cons_self ..)
      have hhandle : Handle.mk number ≠ .null := by
        intro hnull
        apply hzero
        rwa [← show number = 0 from congrArg Handle.raw hnull]
      obtain ⟨value, hfind⟩ := table.find_of_mem hhandle hkey
      have hkeys : (table.without ⟨number⟩).keys = table.keys.erase number := by
        rw [keys_without, filter_ne_eq_erase hnodup]
      have hleft : left.Perm (table.without ⟨number⟩).keys := by
        have herased := hnumbers.erase number
        rwa [List.erase_cons_head, ← hkeys] at herased
      have hrest : (table.without ⟨number⟩).sweep left = (table.without ⟨number⟩).clear := by
        apply ih _ _ hleft
        · rw [hkeys]
          exact hnodup.erase number
        · rw [hkeys]
          exact fun hmem => hzero (List.mem_of_mem_erase hmem)
      have hcount : (table.without ⟨number⟩).clear.1 + 1 = table.clear.1 := by
        rw [clear, clear, ← length_keys, ← length_keys]
        exact length_keys_without hnodup hkey
      rw [sweep, remove_eq, hfind]
      dsimp only [Except.map]
      rw [hrest, hcount, clear_without hnodup hkey]

/-! ## What a table stands for -/

/-- A table whose entries and whose count are those of a registry. -/
structure Represents (table : HandleTable α) (kind : String) (registry : Registry α) : Prop where
  kind : table.kind = kind
  next : table.next.toNat = registry.next
  live : table.live = registry.size
  nodup : table.keys.Nodup
  length : table.entries.length = registry.size
  lookup : ∀ number : UInt64,
    table.entries.lookup number = registry.objects.lookup number.toNat

/-- Two attempts that come to the same, at a table and at the registry it stands for. -/
inductive Agree (kind : String) :
    Except BridgeError (TableAnswer α β × HandleTable α) →
      Except BridgeError (TableAnswer α β × Registry α) → Prop
  | failed (error : BridgeError) : Agree kind (.error error) (.error error)
  | done (answer : TableAnswer α β) {table : HandleTable α} {registry : Registry α}
      (hrepresents : table.Represents kind registry) :
      Agree kind (.ok (answer, table)) (.ok (answer, registry))

/-- Attempts that agree have the same answer, and leave a table and its registry. -/
theorem Agree.settle {table : HandleTable α} {kind : String} {registry : Registry α}
    {attempt : Except BridgeError (TableAnswer α β × HandleTable α)}
    {attempt' : Except BridgeError (TableAnswer α β × Registry α)}
    (hagree : Agree kind attempt attempt') (hrepresents : table.Represents kind registry) :
    (TableOperation.settle table attempt).1 = (TableOperation.settle registry attempt').1 ∧
      (TableOperation.settle table attempt).2.Represents kind
        (TableOperation.settle registry attempt').2 := by
  cases hagree with
  | failed error => exact ⟨rfl, hrepresents⟩
  | done answer hafter => exact ⟨rfl, hafter⟩

theorem lookup_of_find {table : HandleTable α} {handle : Handle} {value : α}
    (hfind : table.find handle = .ok value) : table.entries.lookup handle.raw = some value := by
  rw [find_eq_lookup table (ne_null_of_find hfind)] at hfind
  cases hlookup : table.entries.lookup handle.raw with
  | none =>
      rw [hlookup] at hfind
      cases hfind
  | some found =>
      rw [hlookup] at hfind
      cases hfind
      rfl

namespace Represents

theorem opening (kind : String) : (empty kind : HandleTable α).Represents kind .opening where
  kind := rfl
  next := rfl
  live := rfl
  nodup := List.nodup_nil
  length := rfl
  lookup _ := rfl

section Changes

variable {table : HandleTable α} {kind : String} {registry : Registry α} {handle : Handle}
  {value : α} (hrepresents : table.Represents kind registry)

include hrepresents

theorem mem_keys_iff (number : UInt64) :
    number ∈ table.keys ↔ number.toNat ∈ registry.objects := by
  rw [← Finmap.lookup_isSome, ← hrepresents.lookup, List.lookup_isSome_iff, HandleTable.keys,
    List.mem_map]
  constructor
  · rintro ⟨entry, hentry, rfl⟩
    exact ⟨entry, hentry, beq_self_eq_true _⟩
  · rintro ⟨entry, hentry, hnumber⟩
    exact ⟨entry, hentry, (beq_iff_eq.mp hnumber).symm⟩

theorem zero_not_mem_keys : 0 ∉ table.keys := by
  rw [hrepresents.mem_keys_iff]
  exact registry.zero_not_mem

theorem find_eq_get (handle : Handle) : table.find handle = registry.get handle := by
  by_cases hhandle : handle = .null
  · rw [hhandle, find_null, Registry.get, if_pos rfl]
  · rw [find_eq_lookup table hhandle, Registry.get, if_neg hhandle]
    have hlookup := hrepresents.lookup handle.raw
    cases hfound : registry.objects.lookup handle.raw.toNat with
    | none => simp only [hlookup.trans hfound]
    | some value => simp only [hlookup.trans hfound]

theorem contains_iff (handle : Handle) :
    table.contains handle = true ↔ handle.raw.toNat ∈ registry.objects := by
  rw [← Finmap.lookup_isSome, ← hrepresents.lookup, contains]
  by_cases hhandle : handle = .null
  · have hzero : table.entries.lookup 0 = none := by
      rw [hrepresents.lookup]
      exact Finmap.lookup_eq_none.mpr registry.zero_not_mem
    simp [hhandle, Handle.null, hzero]
  · simp [isNull_eq_false hhandle]

/-- A table that issues its next number stands for the registry that adds it. -/
theorem issued (hroom : table.next.toNat + 1 < UInt64.size) (value : α) :
    (table.issued value).Represents kind (registry.add value) where
  kind := hrepresents.kind
  next := by
    rw [next_issued, UInt64.toNat_add, Registry.next_add, ← hrepresents.next]
    exact Nat.mod_eq_of_lt hroom
  live := by rw [live_issued, hrepresents.live, Registry.size_add]
  nodup := by
    rw [keys_issued, List.nodup_cons, hrepresents.mem_keys_iff, hrepresents.next]
    exact ⟨registry.next_not_mem, hrepresents.nodup⟩
  length := by
    rw [HandleTable.issued, List.length_cons, hrepresents.length, Registry.size_add]
  lookup number := by
    rw [HandleTable.issued, lookup_cons]
    by_cases hnumber : number = table.next
    · rw [hnumber, if_pos rfl, hrepresents.next, Registry.add, Finmap.lookup_insert]
    · have hother : number.toNat ≠ registry.next := by
        rw [← hrepresents.next]
        exact fun hsame => hnumber (UInt64.toNat_inj.mp hsame)
      rw [if_neg hnumber, hrepresents.lookup, Registry.add, Finmap.lookup_insert_of_ne _ hother]

theorem revised (hvalue : table.entries.lookup handle.raw = some value) (change : α → α) :
    (table.revised handle change).Represents kind
      (registry.replace handle.raw.toNat (change value)) where
  kind := hrepresents.kind
  next := hrepresents.next
  live := by rw [live_revised, hrepresents.live, Registry.size_replace]
  nodup := by
    rw [keys_revised]
    exact hrepresents.nodup
  length := by
    rw [← length_keys, keys_revised, length_keys, hrepresents.length, Registry.size_replace]
  lookup number := by
    rw [HandleTable.revised, lookup_revised, Registry.replace, Registry.lookup_replace,
      ← hrepresents.lookup]
    by_cases hnumber : number = handle.raw
    · rw [hnumber, if_pos rfl, if_pos rfl, hvalue]
      rfl
    · rw [if_neg hnumber, if_neg fun hsame => hnumber (UInt64.toNat_inj.mp hsame)]

theorem without (hvalue : table.entries.lookup handle.raw = some value) :
    (table.without handle).Represents kind (registry.erase handle.raw.toNat) := by
  have hobject : handle.raw.toNat ∈ registry.objects := by
    rw [← Finmap.lookup_isSome, ← hrepresents.lookup, hvalue]
    rfl
  have hkey : handle.raw ∈ table.keys := (hrepresents.mem_keys_iff _).mpr hobject
  have hsize := registry.size_erase hobject
  have hlength := length_keys_without hrepresents.nodup hkey
  rw [length_keys, length_keys, hrepresents.length] at hlength
  have hlive := hrepresents.live
  constructor
  · exact hrepresents.kind
  · exact hrepresents.next
  · rw [live_without]
    omega
  · rw [keys_without]
    exact hrepresents.nodup.filter _
  · omega
  · intro number
    by_cases hnumber : number = handle.raw
    · rw [hnumber, HandleTable.without, lookup_without_self, Registry.erase,
        Finmap.lookup_erase]
    · have hother : number.toNat ≠ handle.raw.toNat :=
        fun hsame => hnumber (UInt64.toNat_inj.mp hsame)
      rw [HandleTable.without, lookup_without _ _ _ hnumber, hrepresents.lookup, Registry.erase,
        Finmap.lookup_erase_ne hother]

theorem cleared : table.clear.2.Represents kind registry.clear where
  kind := hrepresents.kind
  next := hrepresents.next
  live := by
    rw [clear, hrepresents.length, hrepresents.live, Nat.sub_self]
    rfl
  nodup := List.nodup_nil
  length := rfl
  lookup _ := rfl

end Changes

/-! ## Operations -/

section Operations

variable {table : HandleTable α} {kind : String} {registry : Registry α}
  (hrepresents : table.Represents kind registry)

include hrepresents

theorem agree_attempt (operation : TableOperation α β)
    (hroom : (table.perform operation).1.isInserted = true →
      table.next.toNat + 1 < UInt64.size) :
    Agree kind (table.attempt operation) (registry.attempt kind operation) := by
  cases operation with
  | insert value limit =>
      have hlive := hrepresents.live
      by_cases hfits : table.live < limit
      · have hattempt : (table.attempt (.insert value limit) : Except BridgeError _) =
            .ok ((.inserted table.next.toNat : TableAnswer α β), table.issued value) := by
          rw [attempt, insert_eq, if_pos hfits]
          rfl
        rw [perform, hattempt] at hroom
        rw [hattempt, Registry.attempt, if_pos (hlive ▸ hfits), hrepresents.next]
        exact .done _ (hrepresents.issued (hroom rfl) value)
      · rw [attempt, insert_eq, if_neg hfits, Registry.attempt, if_neg (hlive ▸ hfits),
          hrepresents.kind, hlive]
        exact .failed _
  | look handle tell =>
      rw [attempt, Registry.attempt, ← hrepresents.find_eq_get]
      cases table.find handle with
      | error error => exact .failed error
      | ok value => exact .done _ hrepresents
  | change handle change =>
      rw [attempt, Registry.attempt, ← hrepresents.find_eq_get, update_eq]
      cases hfind : table.find handle with
      | error error => exact .failed error
      | ok value => exact .done _ (hrepresents.revised (lookup_of_find hfind) _)
  | remove handle =>
      rw [attempt, Registry.attempt, ← hrepresents.find_eq_get, remove_eq]
      cases hfind : table.find handle with
      | error error => exact .failed error
      | ok value => exact .done _ (hrepresents.without (lookup_of_find hfind))
  | contains handle =>
      have hcontains : table.contains handle = decide (handle.raw.toNat ∈ registry.objects) := by
        rw [Bool.eq_iff_iff, decide_eq_true_iff]
        exact hrepresents.contains_iff handle
      rw [attempt, Registry.attempt, hcontains]
      exact .done _ hrepresents
  | count =>
      rw [attempt, Registry.attempt, hrepresents.live]
      exact .done _ hrepresents
  | isEmpty =>
      rw [attempt, Registry.attempt, isEmpty, hrepresents.live]
      exact .done _ hrepresents
  | clear =>
      have hcount : table.clear.1 = registry.size := hrepresents.length
      rw [attempt, Registry.attempt, hcount]
      exact .done _ hrepresents.cleared

/-- An operation answers as the registry does, and leaves a table that stands for the registry
after it. -/
theorem perform (operation : TableOperation α β)
    (hroom : (table.perform operation).1.isInserted = true →
      table.next.toNat + 1 < UInt64.size) :
    (table.perform operation).1 = (registry.perform kind operation).1 ∧
      (table.perform operation).2.Represents kind (registry.perform kind operation).2 := by
  exact (hrepresents.agree_attempt operation hroom).settle hrepresents

/-- So do operations one after another. -/
theorem run (operations : List (TableOperation α β))
    (hfew : table.next.toNat + (table.run operations).1.countP (·.isInserted) < UInt64.size) :
    (table.run operations).1 = (registry.run kind operations).1 ∧
      (table.run operations).2.Represents kind (registry.run kind operations).2 := by
  induction operations generalizing table registry with
  | nil => exact ⟨rfl, hrepresents⟩
  | cons operation operations ih =>
      have hran : table.run (operation :: operations) =
          ((table.perform operation).1 :: ((table.perform operation).2.run operations).1,
            ((table.perform operation).2.run operations).2) := rfl
      have hregistry : registry.run kind (operation :: operations) =
          ((registry.perform kind operation).1 ::
              ((registry.perform kind operation).2.run kind operations).1,
            ((registry.perform kind operation).2.run kind operations).2) := rfl
      rw [hran, List.countP_cons] at hfew
      obtain ⟨hanswer, hafter⟩ := hrepresents.perform operation fun hinserted => by
        rw [if_pos hinserted] at hfew
        omega
      have hnext : (table.perform operation).2.next.toNat =
          table.next.toNat + (table.perform operation).1.isInserted.toNat := by
        rw [hafter.next, Registry.next_perform, hanswer, hrepresents.next]
      have hrest : (table.perform operation).2.next.toNat +
          ((table.perform operation).2.run operations).1.countP (·.isInserted) <
            UInt64.size := by
        rw [hnext]
        cases hinserted : (table.perform operation).1.isInserted with
        | true =>
            rw [hinserted, if_pos rfl] at hfew
            rw [Bool.toNat_true]
            omega
        | false =>
            rw [hinserted, if_neg Bool.false_ne_true] at hfew
            rw [Bool.toNat_false]
            omega
      obtain ⟨hanswers, hlast⟩ := ih hafter hrest
      rw [hran, hregistry, hanswer, hanswers]
      exact ⟨rfl, hlast⟩

end Operations

end Represents

/-- Whatever is asked of a fresh table, it answers as a finite map with a counter does, as long
as there are numbers to issue.  In every table that it comes to, removing the objects one by
one is clearing it. -/
theorem answers_as_registry (kind : String) (operations : List (TableOperation α β))
    (hfew : ((empty kind : HandleTable α).run operations).1.countP (·.isInserted) + 1 <
      UInt64.size) :
    let ran := (empty kind : HandleTable α).run operations
    let registry := (Registry.opening : Registry α).run kind operations
    ran.1 = registry.1 ∧ ran.2.Represents kind registry.2 ∧
      ∀ numbers : List UInt64, numbers.Perm ran.2.keys → ran.2.sweep numbers = ran.2.clear := by
  intro ran registry
  have hfirst : (empty kind : HandleTable α).next.toNat = 1 := rfl
  obtain ⟨hanswers, hrepresents⟩ :=
    (Represents.opening kind).run operations (by rw [hfirst, Nat.add_comm]; exact hfew)
  refine ⟨hanswers, hrepresents, fun numbers hnumbers => ?_⟩
  exact sweep_eq_clear hrepresents.nodup hrepresents.zero_not_mem_keys hnumbers

/-- Operations on a table for two objects: the third is refused, one is changed, one is removed
and asked for again; after a clear the numbers go on. -/
def errands : List (TableOperation Nat Nat) :=
  [.insert 10 2, .insert 20 2, .insert 30 2, .change ⟨1⟩ fun value => (value, value + 5),
    .look ⟨1⟩ id, .remove ⟨2⟩, .look ⟨2⟩ id, .contains .null, .look .null id, .insert 40 2,
    .count, .clear, .isEmpty, .insert 50 2, .insert 60 2]

theorem answers_as_registry_errands :
    let ran := (empty "Counter").run errands
    let registry := Registry.opening.run "Counter" errands
    ran.1 = [.inserted 1, .inserted 2,
      .failed (.allocation "Counter" "2 live handles, limit is 2"), .told 10, .told 15,
      .removed 20, .failed (.disposedHandle ⟨2⟩), .holds false, .failed (.marshal .nullHandle),
      .inserted 3, .counted 2, .counted 2, .holds true, .inserted 4, .inserted 5] ∧
    ran.1 = registry.1 ∧ ran.2.Represents "Counter" registry.2 ∧
      ran.2.sweep [4, 5] = ran.2.clear := by
  intro ran registry
  obtain ⟨hanswers, hrepresents, hsweep⟩ := answers_as_registry "Counter" errands (by decide)
  exact ⟨rfl, hanswers, hrepresents, hsweep [4, 5] (List.Perm.swap 5 4 [])⟩

end InteropBridge.HandleTable
