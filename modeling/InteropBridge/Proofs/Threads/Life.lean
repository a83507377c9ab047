import InteropBridge.Proofs.Managed.Releasing
import InteropBridge.Proofs.Threads.Counting
import InteropBridge.Proofs.Threads.History

/-!
# The life of a proxy

A proxy comes about for a live handle.  Its owner uses it, on one thread or another, while the
threads take whatever other turns they like: they may free the handle of the proxy behind its
back, or end everything.  In the end the proxy is dropped or gives its handle up.

Whatever happens in between, the proxy calls the export that frees handles once at most, as the
log tells.
-/

namespace InteropBridge

/-- What the owner of a proxy does with it, by the type of what is learned. -/
inductive Proxy.Use : Type → Type
  | handle : Use Handle
  | print : Use Unit
  | increment : Use Unit
  | addTo (amount : Int32) : Use Unit
  | get : Use Int32
  | printCopy : Use Unit
  | duplicate : Use Proxy
  | dispose : Use Unit

namespace Proxy.Use

variable {α : Type}

/-- The managed call that the owner makes. -/
def call (proxy : Proxy) : {α : Type} → Use α → ManagedCall α
  | _, handle => .handle proxy
  | _, print => .print proxy
  | _, increment => .increment proxy
  | _, addTo amount => .addTo proxy amount
  | _, get => .get proxy
  | _, printCopy => .printCopy proxy
  | _, duplicate => .duplicate proxy
  | _, dispose => .dispose proxy

/-- The proxy afterwards, which has given its handle up if it was disposed of. -/
def leaves (proxy : Proxy) : {α : Type} → Use α → Proxy
  | _, dispose => proxy.disposed
  | _, handle | _, print | _, increment | _, addTo _ | _, get | _, printCopy
  | _, duplicate => proxy

@[simp]
theorem raw_leaves (proxy : Proxy) (use : Use α) : (use.leaves proxy).raw = proxy.raw := by
  cases use <;> rfl

/-- Whether it disposes of the proxy. -/
def isDisposal : {α : Type} → Use α → Bool
  | _, dispose => true
  | _, handle | _, print | _, increment | _, addTo _ | _, get | _, printCopy
  | _, duplicate => false

theorem isDisposed_leaves (proxy : Proxy) (use : Use α) :
    (use.leaves proxy).isDisposed = (proxy.isDisposed || use.isDisposal) := by
  cases use with
  | dispose => exact (Bool.or_true _).symm
  | handle | print | increment | addTo | get | printCopy | duplicate =>
      exact (Bool.or_false _).symm

/-- A use calls the export that frees handles just when it takes the handle from the proxy. -/
theorem target?_eq_free_iff (proxy : Proxy) (use : Use α) :
    (Operation.manage (use.call proxy)).target? = some .free ↔
      proxy.isDisposed = false ∧ use.isDisposal = true := by
  rcases proxy with ⟨raw, _ | _⟩ <;> cases use <;>
    simp [call, isDisposal, Operation.target?, ManagedCall.crossing?, Proxy.crossing?,
      Crossing.target]

end Proxy.Use

/-- One turn in the life of a proxy. -/
inductive Deed (Name : Type) : Type 1
  /-- The owner uses the proxy on some thread. -/
  | own (thread : Name) {Answer : Type} (use : Proxy.Use Answer)
  /-- A thread does something else. -/
  | other (move : Move Name)

namespace Deed

variable {Name : Type}

/-- The turn that it comes to. -/
def move (proxy : Proxy) : Deed Name → Move Name
  | own thread use => ⟨thread, .manage (use.call proxy)⟩
  | other move => move

/-- The proxy afterwards. -/
def leaves (proxy : Proxy) : Deed Name → Proxy
  | own _ use => use.leaves proxy
  | other _ => proxy

/-- Whether it is the owner's. -/
def isOwn : Deed Name → Bool
  | own .. => true
  | other _ => false

/-- Whether the owner disposes of the proxy. -/
def isDisposal : Deed Name → Bool
  | own _ use => use.isDisposal
  | other _ => false

@[simp]
theorem raw_leaves (proxy : Proxy) (deed : Deed Name) :
    (deed.leaves proxy).raw = proxy.raw := by
  cases deed with
  | own thread use => exact use.raw_leaves proxy
  | other move => rfl

theorem isDisposed_leaves (proxy : Proxy) (deed : Deed Name) :
    (deed.leaves proxy).isDisposed = (proxy.isDisposed || deed.isDisposal) := by
  cases deed with
  | own thread use => exact use.isDisposed_leaves proxy
  | other move => exact (Bool.or_false _).symm

end Deed

namespace Proxy

variable {Name : Type}

/-- The proxy after some deeds. -/
def after (proxy : Proxy) (deeds : List (Deed Name)) : Proxy :=
  deeds.foldl Deed.leaves proxy

/-- The turns that the deeds come to. -/
def moves : Proxy → List (Deed Name) → List (Move Name)
  | _, [] => []
  | proxy, deed :: rest => deed.move proxy :: moves (deed.leaves proxy) rest

@[simp]
theorem raw_after (proxy : Proxy) (deeds : List (Deed Name)) :
    (proxy.after deeds).raw = proxy.raw := by
  induction deeds generalizing proxy with
  | nil => rfl
  | cons deed rest ih => exact (ih (deed.leaves proxy)).trans (deed.raw_leaves proxy)

/-- A proxy that has given its handle up never gets it back. -/
theorem isDisposed_after (proxy : Proxy) (deeds : List (Deed Name)) :
    (proxy.after deeds).isDisposed = (proxy.isDisposed || deeds.any (·.isDisposal)) := by
  induction deeds generalizing proxy with
  | nil => exact (Bool.or_false _).symm
  | cons deed rest ih =>
      rw [List.any_cons, ← Bool.or_assoc, ← deed.isDisposed_leaves]
      exact ih (deed.leaves proxy)

end Proxy

namespace Machine

variable {Name : Type} [DecidableEq Name]

/-- How many calls of the export that frees handles a turn adds to the log. -/
def frees (machine : Machine Name) (move : Move Name) : Nat :=
  let event := Log.Event.called Export.free.symbol Export.free.signature.arity
  (machine.step move).process.journal.emitted.count event -
    machine.process.journal.emitted.count event

/-- How many such calls the owner of a proxy makes with it in its life. -/
def freesIn : Machine Name → Proxy → List (Deed Name) → Nat
  | _, _, [] => 0
  | machine, proxy, deed :: rest =>
      (if deed.isOwn then machine.frees (deed.move proxy) else 0) +
        freesIn (machine.step (deed.move proxy)) (deed.leaves proxy) rest

/-- What the log tells agrees with what the turn is. -/
theorem frees_eq (machine : Machine Name) (move : Move Name) :
    machine.frees move = if move.operation.target? = some .free then 1 else 0 := by
  let event := Log.Event.called Export.free.symbol Export.free.signature.arity
  have hcalls (context : Context) :
      context.process.journal.emitted.count event = context.entries.2.count event :=
    (List.count_filter rfl).symm
  have hlogged := (move.operation.counts_exactly (machine.seenBy move.thread)).2.2.1
  change (move.operation.run.run (machine.seenBy move.thread)).2.process.journal.emitted.count
    event - (machine.seenBy move.thread).process.journal.emitted.count event = _
  rw [hcalls, hcalls, hlogged, List.count_append, Nat.add_sub_cancel]
  cases move.operation.target? with
  | none => rfl
  | some target =>
      rw [Option.toList_some, List.map_singleton, List.count_singleton]
      simp only [event, Option.some.injEq, beq_iff_eq]
      exact if_congr Export.called_injective.eq_iff rfl rfl

/-- Only the deed that takes the handle from the proxy counts, and there is one at most. -/
theorem freesIn_eq (machine : Machine Name) (proxy : Proxy) (deeds : List (Deed Name)) :
    machine.freesIn proxy deeds =
      if proxy.isDisposed = false ∧ deeds.any (·.isDisposal) = true then 1 else 0 := by
  induction deeds generalizing machine proxy with
  | nil => simp [freesIn]
  | cons deed rest ih =>
      rw [freesIn, ih, deed.isDisposed_leaves, List.any_cons]
      cases deed with
      | other move => simp [Deed.isOwn, Deed.isDisposal]
      | own thread use =>
          have hfrees : machine.frees ((Deed.own thread use).move proxy) =
              if proxy.isDisposed = false ∧ use.isDisposal = true then 1 else 0 := by
            rw [frees_eq]
            exact if_congr (use.target?_eq_free_iff proxy) rfl rfl
          rw [hfrees]
          cases proxy.isDisposed <;> cases hdisposal : use.isDisposal <;>
            simp [Deed.isOwn, Deed.isDisposal, hdisposal]

end Machine

end InteropBridge
