import InteropBridge.Proofs.Ledger
import Mathlib.Data.List.Induction
import Mathlib.Data.List.Nodup

/-!
# What a history says about handles

A handle is live in a history if it came about and has not ended since.  What
happened last decides, or leaves the matter as it was, so that liveness can be
computed.  Handles are numbered from one in the order in which they come about,
as long as there are numbers.
-/

namespace InteropBridge

/-- The handles that came about, oldest first. -/
def issuedIn (history : List Happening) : List Handle :=
  history.filterMap Happening.issued?

/-- The handle came about and has not been released since, by itself or with
all. -/
def LiveIn (history : List Happening) (handle : Handle) : Prop :=
  ∃ before issue after, history = before ++ issue :: after ∧
    issue.issued? = some handle ∧
    Happening.released handle ∉ after ∧ Happening.shutDown ∉ after

theorem issuedIn_append (first second : List Happening) :
    issuedIn (first ++ second) = issuedIn first ++ issuedIn second :=
  List.filterMap_append

theorem not_liveIn_nil (handle : Handle) : ¬ LiveIn [] handle := by
  rintro ⟨before, issue, after, hhistory, -⟩
  simp at hhistory

theorem LiveIn.mem_issuedIn {history : List Happening} {handle : Handle}
    (hlive : LiveIn history handle) : handle ∈ issuedIn history := by
  obtain ⟨before, issue, after, rfl, hissue, -⟩ := hlive
  exact List.mem_filterMap.mpr ⟨issue, by simp, hissue⟩

/-- The last of a history is a given happening of it or comes after that. -/
theorem append_singleton_eq {history before after : List Happening} {last issue : Happening}
    (hhistory : history ++ [last] = before ++ issue :: after) :
    after = [] ∧ history = before ∧ last = issue ∨
      ∃ rest, after = rest ++ [last] ∧ history = before ++ issue :: rest := by
  rcases List.eq_nil_or_concat after with rfl | ⟨rest, final, rfl⟩
  · obtain ⟨rfl, hlast⟩ := List.append_inj' hhistory rfl
    exact .inl ⟨rfl, rfl, (List.cons.inj hlast).1⟩
  · rw [List.concat_eq_append, ← List.cons_append, ← List.append_assoc] at hhistory
    obtain ⟨rfl, hlast⟩ := List.append_inj' hhistory rfl
    obtain rfl := (List.cons.inj hlast).1
    exact .inr ⟨rest, List.concat_eq_append .., rfl⟩

theorem liveIn_append_singleton (history : List Happening) (last : Happening)
    (handle : Handle) :
    LiveIn (history ++ [last]) handle ↔
      last.issued? = some handle ∨
        LiveIn history handle ∧ last ≠ .released handle ∧ last ≠ .shutDown := by
  constructor
  · rintro ⟨before, issue, after, hhistory, hissue, hreleased, hshut⟩
    obtain ⟨rfl, rfl, rfl⟩ | ⟨rest, rfl, rfl⟩ := append_singleton_eq hhistory
    · exact .inl hissue
    · simp only [List.mem_append, List.mem_singleton, not_or] at hreleased hshut
      exact .inr ⟨⟨before, issue, rest, rfl, hissue, hreleased.1, hshut.1⟩,
        fun hequal => hreleased.2 hequal.symm, fun hequal => hshut.2 hequal.symm⟩
  · rintro (hissue | ⟨⟨before, issue, after, rfl, hissue, hreleased, hshut⟩, hlast, hlast'⟩)
    · exact ⟨history, last, [], rfl, hissue, by simp, by simp⟩
    · refine ⟨before, issue, after ++ [last], by simp, hissue, ?_, ?_⟩
      · simp only [List.mem_append, List.mem_singleton, not_or]
        exact ⟨hreleased, fun hequal => hlast hequal.symm⟩
      · simp only [List.mem_append, List.mem_singleton, not_or]
        exact ⟨hshut, fun hequal => hlast' hequal.symm⟩

/-- Liveness can be computed by going through the history once. -/
def isLiveIn (history : List Happening) (handle : Handle) : Bool :=
  history.foldl
    (fun live happening =>
      happening.issued? = some handle ||
        (live && happening ≠ .released handle && happening ≠ .shutDown))
    false

theorem isLiveIn_iff (history : List Happening) (handle : Handle) :
    isLiveIn history handle = true ↔ LiveIn history handle := by
  induction history using List.reverseRecOn with
  | nil => simp [isLiveIn, not_liveIn_nil]
  | append_singleton rest last ih =>
      rw [liveIn_append_singleton, ← ih, isLiveIn, List.foldl_append]
      simp [isLiveIn, and_assoc]

instance (history : List Happening) (handle : Handle) : Decidable (LiveIn history handle) :=
  decidable_of_iff _ (isLiveIn_iff history handle)

/-- A live handle came about in the later part of the history or was live after the
earlier one. -/
theorem LiveIn.of_append {first second : List Happening} {handle : Handle}
    (hlive : LiveIn (first ++ second) handle) :
    LiveIn first handle ∨ handle ∈ issuedIn second := by
  induction second using List.reverseRecOn with
  | nil =>
      rw [List.append_nil] at hlive
      exact .inl hlive
  | append_singleton rest last ih =>
      rw [← List.append_assoc, liveIn_append_singleton] at hlive
      rcases hlive with hissue | ⟨hrest, -⟩
      · exact .inr (List.mem_filterMap.mpr ⟨last, by simp, hissue⟩)
      · refine (ih hrest).imp_right fun hissued => ?_
        rw [issuedIn_append]
        exact List.mem_append_left _ hissued

/-- A history that goes on without a new handle. -/
theorem issuedIn_append_none (history : List Happening) {happening : Happening}
    (hissued : happening.issued? = none) :
    issuedIn (history ++ [happening]) = issuedIn history := by
  have hlast : issuedIn [happening] = [] := by
    simp [issuedIn, hissued]
  rw [issuedIn_append, hlast, List.append_nil]

theorem liveIn_append_released (history : List Happening) (handle other : Handle) :
    LiveIn (history ++ [.released handle]) other ↔
      LiveIn history other ∧ other ≠ handle := by
  rw [liveIn_append_singleton]
  simp [Happening.issued?, eq_comm]

/-! ## Numbers of handles -/

/-- The handle that comes about after `count` others. -/
def numbered (count : Nat) : Handle :=
  ⟨UInt64.ofNat (count + 1)⟩

theorem toNat_numbered {count : Nat} (hcount : count + 1 < UInt64.size) :
    (numbered count).raw.toNat = count + 1 :=
  UInt64.toNat_ofNat_of_lt' hcount

theorem numbered_ne_null {count : Nat} (hcount : count + 1 < UInt64.size) :
    numbered count ≠ .null := by
  intro hnull
  have hraw := congrArg (·.raw.toNat) hnull
  simp only [toNat_numbered hcount] at hraw
  exact Nat.succ_ne_zero count hraw

theorem numbered_injective {left right : Nat} (hleft : left + 1 < UInt64.size)
    (hright : right + 1 < UInt64.size) (hequal : numbered left = numbered right) :
    left = right := by
  have hraw := congrArg (·.raw.toNat) hequal
  simp only [toNat_numbered hleft, toNat_numbered hright] at hraw
  omega

end InteropBridge
