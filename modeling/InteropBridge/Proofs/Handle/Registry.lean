import InteropBridge.Handle.Table
import Mathlib.Data.Finmap

/-!
# Registries

A registry is what a table of objects comes to when nothing is said of how it is stored: a
finite map from numbers to objects, and the number to be issued next.  It answers what can be
asked of a table, one operation after another.
-/

namespace InteropBridge

/-- What can be asked of a table of objects. -/
inductive TableOperation (α β : Type)
  | insert (value : α) (limit : Nat)
  /-- Looks at an object and tells something of it. -/
  | look (handle : Handle) (tell : α → β)
  /-- Puts another object in the place of one, and tells something of it. -/
  | change (handle : Handle) (change : α → β × α)
  | remove (handle : Handle)
  | contains (handle : Handle)
  | count
  | isEmpty
  | clear

/-- What a table answers. -/
inductive TableAnswer (α β : Type)
  /-- An object is stored under a number. -/
  | inserted (number : Nat)
  | told (value : β)
  | removed (value : α)
  | holds (found : Bool)
  | counted (count : Nat)
  | failed (error : BridgeError)

namespace TableOperation

variable {α β σ : Type}

/-- The answer of an attempt and what it leaves.  One that fails leaves everything as it was. -/
def settle (state : σ) : Except BridgeError (TableAnswer α β × σ) → TableAnswer α β × σ
  | .ok done => done
  | .error error => (.failed error, state)

/-- The answers to operations one after another, and what the last one leaves. -/
def inTurn (step : σ → TableOperation α β → TableAnswer α β × σ) (state : σ) :
    List (TableOperation α β) → List (TableAnswer α β) × σ
  | [] => ([], state)
  | operation :: operations =>
      let stepped := step state operation
      let rest := inTurn step stepped.2 operations
      (stepped.1 :: rest.1, rest.2)

end TableOperation

/-- Whether an object was stored. -/
def TableAnswer.isInserted {α β : Type} : TableAnswer α β → Bool
  | inserted _ => true
  | told _ | removed _ | holds _ | counted _ | failed _ => false

/-- A finite map from numbers to objects, and the number to be issued next. -/
structure Registry (α : Type) where
  next : Nat
  objects : Finmap fun _ : Nat => α
  next_pos : 0 < next
  /-- Only numbers that were issued have objects. -/
  issued : ∀ number ∈ objects, 0 < number ∧ number < next

namespace Registry

variable {α β : Type}

/-! ## Replacing in a finite map -/

theorem dlookup_kreplace (number other : Nat) (value : α) (entries : List (Σ _ : Nat, α)) :
    (entries.kreplace number value).dlookup other =
      if other = number then (entries.dlookup other).map fun _ => value
      else entries.dlookup other := by
  induction entries with
  | nil => simp [List.kreplace]
  | cons entry entries ih =>
      obtain ⟨key, object⟩ := entry
      rw [List.kreplace] at ih ⊢
      by_cases hkey : number = key
      · subst hkey
        rw [List.lookmap_cons_some (b := ⟨number, value⟩) _ _ (by simp)]
        by_cases hother : other = number
        · subst hother
          simp
        · simp [hother]
      · rw [List.lookmap_cons_none _ _ (by simp [hkey])]
        by_cases hother : other = key
        · subst hother
          simp [Ne.symm hkey]
        · rw [List.dlookup_cons_ne _ _ hother, List.dlookup_cons_ne _ _ hother, ih]

/-- Replacing an object concerns its own number. -/
theorem lookup_replace (objects : Finmap fun _ : Nat => α) (number other : Nat) (value : α) :
    (objects.replace number value).lookup other =
      if other = number then (objects.lookup other).map fun _ => value
      else objects.lookup other := by
  induction objects using Finmap.induction_on with
  | H entries =>
      rw [Finmap.replace_toFinmap, Finmap.lookup_toFinmap, Finmap.lookup_toFinmap]
      exact dlookup_kreplace number other value entries.entries

/-! ## Operations -/

/-- The registry without objects, which issues 1 next. -/
def opening : Registry α where
  next := 1
  objects := ∅
  next_pos := Nat.one_pos
  issued _ hnumber := absurd hnumber Finmap.notMem_empty

section Operations

variable (registry : Registry α)

/-- The number of objects. -/
def size : Nat :=
  registry.objects.keys.card

/-- The object of a handle.  No object has the null handle. -/
def get (handle : Handle) : Except BridgeError α :=
  if handle = .null then .error (.marshal .nullHandle)
  else match registry.objects.lookup handle.raw.toNat with
    | some value => .ok value
    | none => .error (.disposedHandle handle)

/-- Adds an object under the next number. -/
def add (value : α) : Registry α where
  next := registry.next + 1
  objects := registry.objects.insert registry.next value
  next_pos := Nat.succ_pos _
  issued number hnumber := by
    rcases Finmap.mem_insert.mp hnumber with rfl | hold
    · exact ⟨registry.next_pos, Nat.lt_succ_self _⟩
    · obtain ⟨hpos, hlt⟩ := registry.issued number hold
      exact ⟨hpos, Nat.lt_succ_of_lt hlt⟩

/-- Puts an object in the place of the one that a number has. -/
def replace (number : Nat) (value : α) : Registry α :=
  { registry with
    objects := registry.objects.replace number value
    issued := fun other hother => registry.issued other (Finmap.mem_replace.mp hother) }

/-- Deletes the object of a number. -/
def erase (number : Nat) : Registry α :=
  { registry with
    objects := registry.objects.erase number
    issued := fun other hother => registry.issued other (Finmap.mem_erase.mp hother).2 }

/-- Deletes every object. -/
def clear : Registry α :=
  { registry with
    objects := ∅
    issued := fun _ hnumber => absurd hnumber Finmap.notMem_empty }

/-- What an operation comes to, if it does not fail. -/
def attempt (kind : String) : TableOperation α β →
    Except BridgeError (TableAnswer α β × Registry α)
  | .insert value limit =>
      if registry.size < limit then .ok (.inserted registry.next, registry.add value)
      else .error (.allocation kind
        (toString registry.size ++ " live handles, limit is " ++ toString limit))
  | .look handle tell =>
      (registry.get handle).map fun value => (.told (tell value), registry)
  | .change handle change =>
      (registry.get handle).map fun value =>
        (.told (change value).1, registry.replace handle.raw.toNat (change value).2)
  | .remove handle =>
      (registry.get handle).map fun value =>
        (.removed value, registry.erase handle.raw.toNat)
  | .contains handle => .ok (.holds (handle.raw.toNat ∈ registry.objects), registry)
  | .count => .ok (.counted registry.size, registry)
  | .isEmpty => .ok (.holds (registry.size = 0), registry)
  | .clear => .ok (.counted registry.size, registry.clear)

/-- The answer to an operation, and the registry after it. -/
def perform (kind : String) (operation : TableOperation α β) : TableAnswer α β × Registry α :=
  TableOperation.settle registry (registry.attempt kind operation)

/-- The answers to operations one after another, and the registry after them. -/
def run (kind : String) (operations : List (TableOperation α β)) :
    List (TableAnswer α β) × Registry α :=
  TableOperation.inTurn (fun state => state.perform kind) registry operations

end Operations

/-! ## What operations do -/

section Effects

variable (registry : Registry α)

theorem next_not_mem : registry.next ∉ registry.objects :=
  fun hnext => Nat.lt_irrefl _ (registry.issued _ hnext).2

theorem zero_not_mem : 0 ∉ registry.objects :=
  fun hzero => Nat.lt_irrefl 0 (registry.issued 0 hzero).1

@[simp]
theorem next_add (value : α) : (registry.add value).next = registry.next + 1 := rfl

theorem size_add (value : α) : (registry.add value).size = registry.size + 1 := by
  have hkeys : (registry.add value).objects.keys =
      insert registry.next registry.objects.keys := by
    ext number
    simp [add, Finmap.mem_keys, Finmap.mem_insert]
  have hfresh : registry.next ∉ registry.objects.keys :=
    fun hkey => registry.next_not_mem (Finmap.mem_keys.mp hkey)
  rw [size, hkeys, Finset.card_insert_of_notMem hfresh, size]

theorem size_replace (number : Nat) (value : α) :
    (registry.replace number value).size = registry.size := by
  rw [size, replace, Finmap.keys_replace, size]

theorem size_erase {number : Nat} (hnumber : number ∈ registry.objects) :
    (registry.erase number).size + 1 = registry.size := by
  rw [size, erase, Finmap.keys_erase, size]
  exact Finset.card_erase_add_one (Finmap.mem_keys.mpr hnumber)

/-- The next number moves on when an object is stored, and only then. -/
theorem next_perform (kind : String) (operation : TableOperation α β) :
    (registry.perform kind operation).2.next =
      registry.next + (registry.perform kind operation).1.isInserted.toNat := by
  rw [perform]
  cases operation with
  | insert value limit =>
      rw [attempt]
      split <;> rfl
  | look handle | change handle | remove handle =>
      rw [attempt]
      cases registry.get handle <;> rfl
  | contains handle | count | isEmpty | clear => rfl

end Effects

end Registry

end InteropBridge
