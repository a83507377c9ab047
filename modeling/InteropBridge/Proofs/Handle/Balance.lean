import InteropBridge.Proofs.Handle.Books
import InteropBridge.Proofs.Handle.Sharing

/-!
# The balance of a shared table

Every step of a thread at a shared table is one turn of the books of the table, whatever the
thread does and however far it has come.  So the books balance at every point of any run.
-/

namespace InteropBridge

variable {α Name : Type}

/-! ## The books of a table -/

/-- What a thread that is at this stage has begun and not finished. -/
def Stage.claim : Stage α → Claim
  | idle | sweeping .. => .nothing
  | counted _ => .place
  | numbered id _ => .number id
  | taken .. => .leaving

/-- The number that was returned, if one was. -/
def Reply.number? : Reply α → Option UInt64
  | inserted handle => some handle.raw
  | found _ | updated | removed _ | cleared _ | failed _ => none

/-- The thread that takes the step. -/
def Tick.thread : Tick Name α → Name
  | begin name _ | goOn name => name

/-- The limit of an entry that the step may begin to insert. -/
def Tick.limit? : Tick Name α → Option Nat
  | begin _ (.insert _ limit) => some limit
  | begin _ (.find _) | begin _ (.update ..) | begin _ (.remove _) | begin _ (.clear ..)
  | goOn _ => none

namespace Shared

/-- The numbers that were returned, the last first. -/
def returned (shared : Shared Name α) : List UInt64 :=
  shared.replies.filterMap (·.2.number?)

def books (shared : Shared Name α) : Books Name where
  live := shared.table.live
  next := shared.table.next
  keys := shared.table.keys
  claims name := (shared.stages name).claim
  returned := shared.returned
  taken := shared.taken

variable [DecidableEq Name] {shared : Shared Name α} {name : Name}

theorem books_leave (shared : Shared Name α) (name : Name) (table : HandleTable α)
    (stage : Stage α) :
    (shared.leave name table stage).books = { shared.books with
      live := table.live
      next := table.next
      keys := table.keys
      claims := Function.update shared.books.claims name stage.claim } := by
  have hclaims : (fun other => (Function.update shared.stages name stage other).claim) =
      Function.update shared.books.claims name stage.claim := by
    funext other
    exact Function.apply_update (fun _ => Stage.claim) shared.stages name stage other
  rw [books, leave]
  dsimp only
  rw [hclaims]
  rfl

theorem books_answer (shared : Shared Name α) (name : Name) (table : HandleTable α)
    (reply : Reply α) :
    (shared.answer name table reply).books = { (shared.leave name table .idle).books with
      returned := reply.number?.toList ++ shared.returned } := by
  cases reply <;> rfl

/-- What only looks, or changes values, leaves the books alone. -/
theorem books_leave_of_free (hfree : shared.books.claims name = .nothing) {table : HandleTable α}
    {stage : Stage α} (hstage : stage.claim = .nothing) (hlive : table.live = shared.table.live)
    (hnext : table.next = shared.table.next) (hkeys : table.keys = shared.table.keys) :
    (shared.leave name table stage).books = shared.books := by
  rw [books_leave, hstage, hlive, hnext, hkeys, ← hfree, Function.update_eq_self]
  rfl

theorem books_answer_of_free (hfree : shared.books.claims name = .nothing)
    {table : HandleTable α} {reply : Reply α} (hreply : reply.number? = none)
    (hlive : table.live = shared.table.live) (hnext : table.next = shared.table.next)
    (hkeys : table.keys = shared.table.keys) :
    (shared.answer name table reply).books = shared.books := by
  rw [books_answer, books_leave_of_free hfree rfl hlive hnext hkeys, hreply]
  rfl

theorem turn_answer {limit? : Option Nat} (hfree : shared.books.claims name = .nothing)
    {reply : Reply α} (hreply : reply.number? = none) :
    Books.Turn name limit? shared.books (shared.answer name shared.table reply).books := by
  rw [books_answer_of_free hfree hreply rfl rfl rfl]
  exact .looked limit? shared.books

theorem turn_takeOut (hfree : shared.books.claims name = .nothing) (handle : Handle)
    (purpose : Purpose) {absent : BridgeError → Shared Name α}
    (habsent : ∀ error, Books.Turn name none shared.books (absent error).books) :
    Books.Turn name none shared.books (shared.takeOut name handle purpose absent).books := by
  rw [takeOut]
  cases hfind : shared.table.find handle with
  | error error => exact habsent error
  | ok value =>
      have hbooks : (shared.withdraw name handle.raw purpose value).books =
          { (shared.leave name (shared.table.taken handle.raw) (.taken purpose value)).books with
            taken := handle.raw :: shared.taken } := rfl
      dsimp only
      rw [hbooks, books_leave, HandleTable.keys_taken]
      exact .taken hfree (HandleTable.mem_keys_of_find hfind)

/-- The first step of what a thread asks for is one turn of the books. -/
theorem turn_first (hfree : shared.books.claims name = .nothing) (request : Request α) :
    Books.Turn name (Tick.begin name request).limit? shared.books
      (shared.first name request).books := by
  cases request with
  | insert value limit =>
      rw [first]
      split
      · rename_i hroom
        rw [books_leave]
        exact .reserved hfree hroom
      · exact turn_answer hfree rfl
  | find handle =>
      rw [first]
      cases shared.table.find handle <;> exact turn_answer hfree rfl
  | update handle change =>
      rw [first, HandleTable.update_eq]
      cases shared.table.find handle with
      | error error => exact turn_answer hfree rfl
      | ok value =>
          have hbooks : (shared.answer name (shared.table.revised handle change) .updated).books =
              shared.books :=
            books_answer_of_free hfree rfl (shared.table.live_revised handle change)
              (shared.table.next_revised handle change) (shared.table.keys_revised handle change)
          rw [Except.map, hbooks]
          exact .looked _ _
  | remove handle => exact turn_takeOut hfree handle .removal fun _ => turn_answer hfree rfl
  | clear order horder =>
      rw [first, books_leave_of_free hfree rfl rfl rfl rfl]
      exact .looked _ _

/-- So is every later one. -/
theorem turn_next (shared : Shared Name α) (name : Name) :
    Books.Turn name none shared.books (shared.next name (shared.stages name)).books := by
  have hclaim : ∀ {stage}, shared.stages name = stage →
      shared.books.claims name = stage.claim := fun hstage => congrArg Stage.claim hstage
  cases hstage : shared.stages name with
  | idle => exact .looked _ _
  | counted value =>
      rw [next, books_leave]
      exact .numbered (hclaim hstage)
  | numbered id value =>
      rw [next, books_answer, books_leave, HandleTable.keys_stored]
      exact .stored (hclaim hstage)
  | taken purpose value =>
      cases purpose with
      | removal =>
          rw [next, books_answer, books_leave]
          exact .counted (hclaim hstage)
      | clearing count left =>
          rw [next, books_leave]
          exact .counted (hclaim hstage)
  | sweeping count left =>
      cases left with
      | nil => exact turn_answer (hclaim hstage) rfl
      | cons id left =>
          refine turn_takeOut (hclaim hstage) ⟨id⟩ _ fun _ => ?_
          rw [books_leave_of_free (hclaim hstage) rfl rfl rfl rfl]
          exact .looked _ _

theorem turn_step (shared : Shared Name α) (tick : Tick Name α) :
    Books.Turn tick.thread tick.limit? shared.books (shared.step tick).books := by
  cases tick with
  | begin name request =>
      rw [step]
      cases hstage : shared.stages name with
      | idle => exact turn_first (congrArg Stage.claim hstage) request
      | counted | numbered | taken | sweeping => exact .looked _ _
  | goOn name => exact shared.turn_next name

/-! ## Runs -/

variable [Fintype Name] {begun : Nat} {ticks : List (Tick Name α)}

/-- The books are in order after any run that begins to insert no more entries than there are
numbers. -/
theorem inOrder_after (hdistinct : shared.books.Distinct) (hbalanced : shared.books.Balanced begun)
    (hroom : begun + ticks.countP (·.limit?.isSome) + 1 < UInt64.size) :
    (shared.after ticks).books.Distinct ∧
      (shared.after ticks).books.Balanced (begun + ticks.countP (·.limit?.isSome)) := by
  induction ticks generalizing shared begun with
  | nil => exact ⟨hdistinct, hbalanced⟩
  | cons tick ticks ih =>
      rw [List.countP_cons, Nat.add_comm (ticks.countP _), ← Nat.add_assoc] at hroom ⊢
      have hturn := shared.turn_step tick
      have hnow : begun + 1 < UInt64.size := by omega
      exact ih (hdistinct.turn hturn (hbalanced.room hnow))
        (hbalanced.turn hdistinct hturn hnow) hroom

omit [Fintype Name] in
theorem live_after_le {limit : Nat} (hlimit : ∀ tick ∈ ticks, ∀ found ∈ tick.limit?, found ≤ limit)
    (hlive : shared.table.live ≤ limit) : (shared.after ticks).table.live ≤ limit := by
  induction ticks generalizing shared with
  | nil => exact hlive
  | cons tick ticks ih =>
      obtain ⟨htick, hticks⟩ := List.forall_mem_cons.mp hlimit
      exact ih hticks ((shared.turn_step tick).live_le htick hlive)

end Shared

/-- The thread has counted an entry that it is still to store. -/
def Stage.isInserting : Stage α → Bool
  | counted _ | numbered .. => true
  | idle | taken .. | sweeping .. => false

/-- The thread has taken an entry out that it is still to count down. -/
def Stage.isRemoving : Stage α → Bool
  | taken .. => true
  | idle | counted _ | numbered .. | sweeping .. => false

theorem Stage.isInserting_claim (stage : Stage α) :
    stage.claim.isInserting = stage.isInserting := by
  cases stage <;> rfl

theorem Stage.isRemoving_claim (stage : Stage α) :
    stage.claim.isRemoving = stage.isRemoving := by
  cases stage <;> rfl

namespace Shared

/-- A table without entries, and threads that are yet to begin. -/
def opened (kind : String) : Shared Name α where
  table := .empty kind

section Threads

variable [Fintype Name] (shared : Shared Name α)

/-- How many entries are counted and not stored yet. -/
def inserting : Nat :=
  (Finset.univ.filter fun name => (shared.stages name).isInserting = true).card

/-- How many entries are taken out and still counted. -/
def removing : Nat :=
  (Finset.univ.filter fun name => (shared.stages name).isRemoving = true).card

theorem number_isInserting :
    Books.number shared.books.claims Claim.isInserting = shared.inserting := by
  simp only [Books.number, inserting, ← Stage.isInserting_claim]
  rfl

theorem number_isRemoving :
    Books.number shared.books.claims Claim.isRemoving = shared.removing := by
  simp only [Books.number, removing, ← Stage.isRemoving_claim]
  rfl

/-- What threads can rely on that share a table. -/
structure InOrder : Prop where
  live : shared.table.live = shared.table.entries.length + shared.inserting + shared.removing
  covered : shared.table.entries.length ≤ shared.table.live
  /-- The count is not zero when a thread is about to count down. -/
  positive : ∀ {name purpose value},
    shared.stages name = .taken purpose value → 0 < shared.table.live
  /-- No two insertions return the same number. -/
  returned : shared.returned.Nodup
  /-- No entry is taken out twice. -/
  taken : shared.taken.Nodup
  idle : (∀ name, shared.stages name = .idle) →
    shared.table.live = shared.table.entries.length

variable {shared} {begun : Nat}

/-- Books that are in order say so of the table. -/
theorem InOrder.of_books (hdistinct : shared.books.Distinct)
    (hbalanced : shared.books.Balanced begun) : shared.InOrder := by
  have hlive : shared.table.live =
      shared.table.entries.length + shared.inserting + shared.removing := by
    rw [← number_isInserting, ← number_isRemoving, ← HandleTable.length_keys]
    exact hbalanced.live
  refine ⟨hlive, by omega, ?_, hdistinct.returned, hdistinct.taken, ?_⟩
  · intro name purpose value hstage
    have hremoving : 0 < shared.removing := by
      rw [← number_isRemoving]
      exact Books.number_pos (congrArg (Claim.isRemoving ∘ Stage.claim) hstage)
    omega
  · intro hidle
    have hinserting : shared.inserting = 0 := by
      rw [← number_isInserting]
      exact Books.number_eq_zero fun name => congrArg (Claim.isInserting ∘ Stage.claim) (hidle name)
    have hremoving : shared.removing = 0 := by
      rw [← number_isRemoving]
      exact Books.number_eq_zero fun name => congrArg (Claim.isRemoving ∘ Stage.claim) (hidle name)
    omega

end Threads

section Count

variable [Fintype Name] [DecidableEq Name]

/-- However threads interleave their steps at a table, the count of live entries accounts for
each entry and for each thread between two steps. -/
theorem count_balances (kind : String) (ticks : List (Tick Name α))
    (hfew : ticks.countP (·.limit?.isSome) + 1 < UInt64.size) :
    ((opened kind).after ticks).InOrder ∧
      ∀ limit, (∀ tick ∈ ticks, ∀ found ∈ tick.limit?, found = limit) →
        ((opened kind).after ticks).table.entries.length ≤ limit := by
  have hopened : (opened kind : Shared Name α).books = {} := rfl
  obtain ⟨hdistinct, hbalanced⟩ := inOrder_after (hopened ▸ Books.Distinct.opening)
    (hopened ▸ Books.Balanced.opening) (by rwa [Nat.zero_add])
  have horder := InOrder.of_books hdistinct hbalanced
  refine ⟨horder, fun limit hlimit => ?_⟩
  calc ((opened kind).after ticks).table.entries.length
      ≤ ((opened kind).after ticks).table.live := horder.covered
    _ ≤ limit := live_after_le
        (fun tick htick found hfound => Nat.le_of_eq (hlimit tick htick found hfound))
        (Nat.zero_le limit)

end Count

/-- Two threads at a table for one entry.  The second is refused while the first inserts, and
clears the table while the first removes what it inserted. -/
def race : List (Tick Bool Nat) :=
  [.begin true (.insert 5 1), .begin false (.insert 6 1), .goOn true, .goOn true,
    .begin false (.clear id List.Perm.refl), .begin true (.remove ⟨1⟩), .goOn false]

/-- The clear finds the entry gone, which the first thread is still to count down. -/
theorem count_balances_race :
    let raced := (opened "Counter").after race
    (raced.stages true).isRemoving = true ∧ raced.table.live = 1 ∧ raced.InOrder ∧
      raced.table.entries.length ≤ 1 := by
  intro raced
  obtain ⟨horder, hlimit⟩ := count_balances "Counter" race (by decide)
  exact ⟨rfl, rfl, horder, hlimit 1 (by simp [race, Tick.limit?])⟩

end Shared

end InteropBridge
