import Mathlib.Data.Fintype.Card
import InteropBridge.Proofs.Handle.Table

/-!
# The books of a shared handle table

Threads that share a handle table change it in small steps, so that between two steps of one
thread others take theirs.  The count of live entries then runs ahead of the entries: a thread
counts an entry up before it stores it, and down after it has taken it out.  The books of a
table say what each thread has begun and not finished.  They balance after every step, whoever
takes it.
-/

namespace InteropBridge

/-- What a thread has begun with a shared table and not finished. -/
inductive Claim
  | nothing
  /-- An entry is counted that has no number yet. -/
  | place
  /-- An entry is counted and has its number, but is not stored. -/
  | number (id : UInt64)
  /-- An entry was taken out that is still counted. -/
  | leaving
  deriving DecidableEq

namespace Claim

/-- The thread has counted an entry that it is still to store. -/
@[simp]
def isInserting : Claim → Bool
  | place | number _ => true
  | nothing | leaving => false

/-- The thread has taken an entry out that it is still to count down. -/
@[simp]
def isRemoving : Claim → Bool
  | leaving => true
  | nothing | place | number _ => false

/-- The thread is still to draw a number. -/
@[simp]
def isWaiting : Claim → Bool
  | place => true
  | nothing | number _ | leaving => false

end Claim

/-- What there is to know of a shared table and of the threads that share it. -/
structure Books (Name : Type) where
  live : Nat := 0
  /-- The number to be drawn next. -/
  next : UInt64 := 1
  /-- The numbers of the entries. -/
  keys : List UInt64 := []
  claims : Name → Claim := fun _ => .nothing
  /-- The numbers that were returned, newest first. -/
  returned : List UInt64 := []
  /-- The numbers of the entries that were taken out, newest first. -/
  taken : List UInt64 := []

namespace Books

variable {Name : Type}

/-! ## Counting threads -/

section Counting

variable [Fintype Name]

/-- How many threads have a claim of some sort. -/
def number (claims : Name → Claim) (sort : Claim → Bool) : Nat :=
  (Finset.univ.filter fun name => sort (claims name) = true).card

variable {claims : Name → Claim} {sort : Claim → Bool} {name : Name}

theorem number_pos (hclaim : sort (claims name) = true) : 0 < number claims sort :=
  Finset.card_pos.mpr ⟨name, Finset.mem_filter.mpr ⟨Finset.mem_univ name, hclaim⟩⟩

theorem number_eq_zero (hclaims : ∀ name, sort (claims name) = false) :
    number claims sort = 0 := by
  simp [number, hclaims]

/-- The threads with a claim of some sort are the others that have one, and perhaps this one. -/
theorem number_eq_add [DecidableEq Name] (claims : Name → Claim) (sort : Claim → Bool)
    (name : Name) :
    number claims sort =
      ((Finset.univ.erase name).filter fun other => sort (claims other) = true).card +
        (sort (claims name)).toNat := by
  have hother : name ∉ (Finset.univ.erase name).filter fun other => sort (claims other) = true :=
    fun hmem => Finset.notMem_erase name _ (Finset.mem_of_mem_filter name hmem)
  rw [number]
  conv_lhs => rw [← Finset.insert_erase (Finset.mem_univ name), Finset.filter_insert]
  cases hclaim : sort (claims name) with
  | true =>
      rw [if_pos rfl, Finset.card_insert_of_notMem hother]
      rfl
  | false =>
      rw [if_neg Bool.false_ne_true]
      rfl

/-- A thread that changes its claim changes the count of its old sort and of its new one. -/
theorem number_update [DecidableEq Name] {old : Claim} (hold : claims name = old) (new : Claim)
    (sort : Claim → Bool) :
    number (Function.update claims name new) sort + (sort old).toNat =
      number claims sort + (sort new).toNat := by
  have hothers : (Finset.univ.erase name).filter
        (fun other => sort (Function.update claims name new other) = true) =
      (Finset.univ.erase name).filter fun other => sort (claims other) = true := by
    apply Finset.filter_congr
    intro other hother
    rw [Function.update_of_ne (Finset.ne_of_mem_erase hother)]
  rw [number_eq_add _ sort name, number_eq_add claims sort name, hothers, Function.update_self,
    hold, Nat.add_right_comm]

end Counting

/-! ## Turns -/

variable [DecidableEq Name]

section Changes

variable (books : Books Name) (name : Name)

/-- The thread counts an entry that it is to store. -/
def reserve : Books Name :=
  { books with
    live := books.live + 1
    claims := Function.update books.claims name .place }

/-- The thread draws the next number. -/
def draw : Books Name :=
  { books with
    next := books.next + 1
    claims := Function.update books.claims name (.number books.next) }

/-- The thread stores the entry of its number, and returns the number. -/
def store (id : UInt64) : Books Name :=
  { books with
    keys := id :: books.keys.filter (· ≠ id)
    claims := Function.update books.claims name .nothing
    returned := id :: books.returned }

/-- The thread takes an entry out. -/
def takeOut (id : UInt64) : Books Name :=
  { books with
    keys := books.keys.filter (· ≠ id)
    claims := Function.update books.claims name .leaving
    taken := id :: books.taken }

/-- The thread counts down the entry that it took out. -/
def countDown : Books Name :=
  { books with
    live := books.live - 1
    claims := Function.update books.claims name .nothing }

end Changes

/-- What one step of a thread does to the books.  A limit is given if the step begins to insert
an entry. -/
inductive Turn (name : Name) : Option Nat → Books Name → Books Name → Prop
  | looked (limit? : Option Nat) (books : Books Name) : Turn name limit? books books
  | reserved {books : Books Name} {limit : Nat} (hfree : books.claims name = .nothing)
      (hroom : books.live < limit) : Turn name (some limit) books (books.reserve name)
  | numbered {books : Books Name} (hplace : books.claims name = .place) :
      Turn name none books (books.draw name)
  | stored {books : Books Name} {id : UInt64} (hnumber : books.claims name = .number id) :
      Turn name none books (books.store name id)
  | taken {books : Books Name} {id : UInt64} (hfree : books.claims name = .nothing)
      (hkey : id ∈ books.keys) : Turn name none books (books.takeOut name id)
  | counted {books : Books Name} (hleaving : books.claims name = .leaving) :
      Turn name none books (books.countDown name)

/-! ## Numbers -/

/-- Every number is drawn once, and at any time it belongs to one thread or one entry or to none
any more. -/
structure Distinct (books : Books Name) : Prop where
  keys : books.keys.Nodup
  returned : books.returned.Nodup
  taken : books.taken.Nodup
  /-- No entry is back that was taken out. -/
  gone : ∀ id ∈ books.taken, id ∉ books.keys
  /-- What was returned is the number of an entry, or of one that was taken out. -/
  known : ∀ id ∈ books.returned, id ∈ books.keys ∨ id ∈ books.taken
  drawn : ∀ id, id ∈ books.keys ∨ id ∈ books.taken → id.toNat < books.next.toNat
  /-- A number that a thread has drawn was not used before. -/
  claimed : ∀ {name id}, books.claims name = .number id →
    id.toNat < books.next.toNat ∧ id ∉ books.keys ∧ id ∉ books.taken
  unshared : ∀ {name other id}, books.claims name = .number id →
    books.claims other = .number id → name = other

omit [DecidableEq Name] in
theorem Distinct.opening : Distinct ({} : Books Name) where
  keys := List.nodup_nil
  returned := List.nodup_nil
  taken := List.nodup_nil
  gone := by simp
  known := by simp
  drawn := by simp
  claimed := by simp
  unshared := by simp

/-- A thread that gives up its claim leaves the numbers that others have drawn. -/
theorem number_of_update {claims : Name → Claim} {name other : Name} {claim : Claim} {id : UInt64}
    (hclaim : claim ≠ .number id) (hnumber : Function.update claims name claim other = .number id) :
    other ≠ name ∧ claims other = .number id := by
  by_cases hother : other = name
  · subst hother
    rw [Function.update_self] at hnumber
    exact absurd hnumber hclaim
  · rw [Function.update_of_ne hother] at hnumber
    exact ⟨hother, hnumber⟩

theorem filter_ne_of_not_mem {keys : List UInt64} {id : UInt64} (hkey : id ∉ keys) :
    keys.filter (· ≠ id) = keys := by
  rw [List.filter_eq_self]
  intro other hother
  simpa using fun hsame : other = id => hkey (hsame ▸ hother)

omit [DecidableEq Name] in
theorem toNat_next {books : Books Name} (hroom : books.next.toNat + 1 < UInt64.size) :
    (books.next + 1).toNat = books.next.toNat + 1 := by
  rw [UInt64.toNat_add]
  exact Nat.mod_eq_of_lt hroom

section Distinct

variable {books after : Books Name} {name : Name} {limit? : Option Nat} {id : UInt64}
  (hdistinct : books.Distinct)

include hdistinct

theorem Distinct.unshared_update {claim : Claim} {first second : Name} (hclaim : claim ≠ .number id)
    (hfirst : Function.update books.claims name claim first = .number id)
    (hsecond : Function.update books.claims name claim second = .number id) : first = second :=
  hdistinct.unshared (number_of_update hclaim hfirst).2 (number_of_update hclaim hsecond).2

/-- A number that is drawn is a new one, as long as there is one. -/
theorem Distinct.draw (hroom : books.next.toNat + 1 < UInt64.size) :
    (books.draw name).Distinct := by
  have hnext := toNat_next hroom
  have hunused : books.next ∉ books.keys ∧ books.next ∉ books.taken :=
    ⟨fun hkey => Nat.lt_irrefl _ (hdistinct.drawn _ (.inl hkey)),
      fun htaken => Nat.lt_irrefl _ (hdistinct.drawn _ (.inr htaken))⟩
  have hfresh : ∀ other, books.claims other ≠ .number books.next :=
    fun other hnumber => Nat.lt_irrefl _ (hdistinct.claimed hnumber).1
  refine { hdistinct with drawn := ?_, claimed := ?_, unshared := ?_ }
  · intro id hid
    exact Nat.lt_trans (hdistinct.drawn id hid) (hnext ▸ Nat.lt_succ_self _)
  · intro other id hnumber
    dsimp only [Books.draw] at hnumber ⊢
    rw [hnext]
    by_cases hother : other = name
    · rw [hother, Function.update_self] at hnumber
      cases hnumber
      exact ⟨Nat.lt_succ_self _, hunused⟩
    · rw [Function.update_of_ne hother] at hnumber
      obtain ⟨hdrawn, hid⟩ := hdistinct.claimed hnumber
      exact ⟨Nat.lt_succ_of_lt hdrawn, hid⟩
  · intro first second id hfirst hsecond
    dsimp only [Books.draw] at hfirst hsecond
    by_cases hname : first = name <;> by_cases hother : second = name
    · rw [hname, hother]
    · rw [hname, Function.update_self] at hfirst
      rw [Function.update_of_ne hother] at hsecond
      cases hfirst
      exact absurd hsecond (hfresh second)
    · rw [hother, Function.update_self] at hsecond
      rw [Function.update_of_ne hname] at hfirst
      cases hsecond
      exact absurd hfirst (hfresh first)
    · rw [Function.update_of_ne hname] at hfirst
      rw [Function.update_of_ne hother] at hsecond
      exact hdistinct.unshared hfirst hsecond

/-- The number of a thread becomes the number of an entry, and is no longer the thread's. -/
theorem Distinct.store (hnumber : books.claims name = .number id) :
    (books.store name id).Distinct := by
  obtain ⟨hdrawn, hkey, htaken⟩ := hdistinct.claimed hnumber
  have hreturned : id ∉ books.returned := fun hid => (hdistinct.known id hid).elim hkey htaken
  have hmem : ∀ other, other ∈ (books.store name id).keys ↔ other = id ∨ other ∈ books.keys := by
    intro other
    rw [Books.store, filter_ne_of_not_mem hkey]
    exact List.mem_cons
  constructor
  · rw [Books.store, filter_ne_of_not_mem hkey]
    exact List.nodup_cons.mpr ⟨hkey, hdistinct.keys⟩
  · exact List.nodup_cons.mpr ⟨hreturned, hdistinct.returned⟩
  · exact hdistinct.taken
  · intro other hother hstored
    obtain rfl | hkept := (hmem other).mp hstored
    · exact htaken hother
    · exact hdistinct.gone other hother hkept
  · intro other hother
    obtain rfl | hother := List.mem_cons.mp hother
    · exact .inl ((hmem other).mpr (.inl rfl))
    · exact (hdistinct.known other hother).imp_left fun hkept => (hmem other).mpr (.inr hkept)
  · rintro other (hstored | hother)
    · obtain rfl | hkept := (hmem other).mp hstored
      · exact hdrawn
      · exact hdistinct.drawn other (.inl hkept)
    · exact hdistinct.drawn other (.inr hother)
  · intro thread other hother
    obtain ⟨hthread, hclaim⟩ := number_of_update Claim.noConfusion hother
    obtain ⟨hbelow, hunkept, huntaken⟩ := hdistinct.claimed hclaim
    refine ⟨hbelow, fun hstored => ?_, huntaken⟩
    obtain rfl | hkept := (hmem other).mp hstored
    · exact hthread (hdistinct.unshared hclaim hnumber)
    · exact hunkept hkept
  · intro first second other hfirst hsecond
    exact hdistinct.unshared_update Claim.noConfusion hfirst hsecond

/-- An entry that is taken out was not taken out before. -/
theorem Distinct.takeOut (hkey : id ∈ books.keys) : (books.takeOut name id).Distinct := by
  have hmem : ∀ other, other ∈ (books.takeOut name id).keys ↔
      other ∈ books.keys ∧ other ≠ id := by simp [Books.takeOut]
  constructor
  · exact hdistinct.keys.filter _
  · exact hdistinct.returned
  · exact List.nodup_cons.mpr ⟨fun htaken => hdistinct.gone id htaken hkey, hdistinct.taken⟩
  · intro other hother hleft
    obtain ⟨hkept, hne⟩ := (hmem other).mp hleft
    obtain rfl | hother := List.mem_cons.mp hother
    · exact hne rfl
    · exact hdistinct.gone other hother hkept
  · intro other hother
    by_cases hsame : other = id
    · exact .inr (hsame ▸ List.mem_cons_self ..)
    · exact (hdistinct.known other hother).imp (fun hkept => (hmem other).mpr ⟨hkept, hsame⟩)
        (List.mem_cons_of_mem _)
  · rintro other (hleft | hother)
    · exact hdistinct.drawn other (.inl ((hmem other).mp hleft).1)
    · obtain rfl | hother := List.mem_cons.mp hother
      · exact hdistinct.drawn other (.inl hkey)
      · exact hdistinct.drawn other (.inr hother)
  · intro thread other hother
    obtain ⟨-, hclaim⟩ := number_of_update Claim.noConfusion hother
    obtain ⟨hbelow, hunkept, huntaken⟩ := hdistinct.claimed hclaim
    refine ⟨hbelow, fun hleft => hunkept ((hmem other).mp hleft).1, fun hnow => ?_⟩
    obtain rfl | hnow := List.mem_cons.mp hnow
    · exact hunkept hkey
    · exact huntaken hnow
  · intro first second other hfirst hsecond
    exact hdistinct.unshared_update Claim.noConfusion hfirst hsecond

/-- Numbers stay distinct as long as there is one to draw. -/
theorem Distinct.turn (hturn : Turn name limit? books after)
    (hroom : books.claims name = .place → books.next.toNat + 1 < UInt64.size) :
    after.Distinct := by
  cases hturn with
  | looked => exact hdistinct
  | reserved | counted =>
      exact { hdistinct with
        claimed := fun hnumber =>
          hdistinct.claimed (number_of_update Claim.noConfusion hnumber).2
        unshared := hdistinct.unshared_update Claim.noConfusion }
  | numbered hplace => exact hdistinct.draw (hroom hplace)
  | stored hnumber => exact hdistinct.store hnumber
  | taken hfree hkey => exact hdistinct.takeOut hkey

end Distinct

/-! ## Counts -/

/-- What is counted is stored, or claimed by a thread that is to store it or to count it down.
No more numbers are drawn than entries were begun. -/
structure Balanced [Fintype Name] (books : Books Name) (begun : Nat) : Prop where
  live : books.live = books.keys.length + number books.claims Claim.isInserting +
    number books.claims Claim.isRemoving
  begun : books.next.toNat + number books.claims Claim.isWaiting ≤ 1 + begun

omit [DecidableEq Name] in
theorem Balanced.opening [Fintype Name] : Balanced ({} : Books Name) 0 where
  live := by simp [number]
  begun := by simp [number]

section Balance

variable [Fintype Name] {books after : Books Name} {name : Name} {limit? : Option Nat}
  {begun : Nat} (hbalanced : books.Balanced begun)

include hbalanced

omit [DecidableEq Name] in
/-- A thread that has an entry to store can draw a number for it. -/
theorem Balanced.room (hroom : begun + 1 < UInt64.size) (hplace : books.claims name = .place) :
    books.next.toNat + 1 < UInt64.size := by
  have hwaiting : 0 < number books.claims Claim.isWaiting :=
    number_pos (congrArg Claim.isWaiting hplace)
  have hbegun := hbalanced.begun
  omega

/-- A thread that exchanges its claim keeps the balance if the count of live entries and the
entries make up for the exchange. -/
theorem Balanced.exchange {old new : Claim} {more : Nat} (hold : books.claims name = old)
    (hclaims : after.claims = Function.update books.claims name new)
    (hlive : after.live + books.keys.length + old.isInserting.toNat + old.isRemoving.toNat =
      books.live + after.keys.length + new.isInserting.toNat + new.isRemoving.toNat)
    (hbegun : after.next.toNat + new.isWaiting.toNat + begun ≤
      books.next.toNat + old.isWaiting.toNat + more) :
    after.Balanced more := by
  have hinserting := number_update hold new Claim.isInserting
  have hremoving := number_update hold new Claim.isRemoving
  have hwaiting := number_update hold new Claim.isWaiting
  have hbefore := hbalanced.live
  have hdrawn := hbalanced.begun
  constructor <;> rw [hclaims] <;> omega

/-- Books whose numbers are distinct stay balanced. -/
theorem Balanced.turn (hdistinct : books.Distinct) (hturn : Turn name limit? books after)
    (hroom : begun + 1 < UInt64.size) :
    after.Balanced (begun + if limit?.isSome then 1 else 0) := by
  cases hturn with
  | looked => exact ⟨hbalanced.live, Nat.le_trans hbalanced.begun (by omega)⟩
  | reserved hfree =>
      have hlive : books.live + 1 + books.keys.length = books.live + books.keys.length + 1 :=
        Nat.add_right_comm ..
      exact hbalanced.exchange hfree rfl (by simpa [reserve] using hlive)
        (by simp [reserve, Nat.add_assoc, Nat.add_comm])
  | numbered hplace =>
      have hnext := toNat_next (hbalanced.room hroom hplace)
      exact hbalanced.exchange hplace rfl rfl (by simp [draw, hnext])
  | @stored _ id hdrawn =>
      have hkeys := filter_ne_of_not_mem (hdistinct.claimed hdrawn).2.1
      refine hbalanced.exchange hdrawn rfl ?_ (by simp [store])
      rw [store, hkeys]
      simp [Nat.add_assoc]
  | @taken _ id hfree hkey =>
      have hkeys := HandleTable.filter_ne_eq_erase hdistinct.keys id
      refine hbalanced.exchange hfree rfl ?_ (by simp [takeOut])
      rw [takeOut, hkeys, ← List.length_erase_add_one hkey]
      simp [Nat.add_assoc]
  | counted hleaving =>
      have hremoving : 0 < number books.claims Claim.isRemoving :=
        number_pos (congrArg Claim.isRemoving hleaving)
      have hbefore := hbalanced.live
      have hlive : books.live - 1 + books.keys.length + 1 = books.live + books.keys.length := by
        omega
      exact hbalanced.exchange hleaving rfl (by simpa [countDown] using hlive)
        (by simp [countDown])

end Balance

/-- A limit that all entries are begun under is never exceeded. -/
theorem Turn.live_le {books after : Books Name} {name : Name} {limit? : Option Nat} {limit : Nat}
    (hturn : Turn name limit? books after) (hlimit : ∀ found ∈ limit?, found ≤ limit)
    (hlive : books.live ≤ limit) : after.live ≤ limit := by
  cases hturn with
  | reserved hfree hroom => exact Nat.le_trans hroom (hlimit _ rfl)
  | counted hleaving => exact Nat.le_trans (Nat.sub_le ..) hlive
  | looked | numbered | stored | taken => exact hlive

end Books

end InteropBridge
