import InteropBridge.Proofs.Handle.Finding
import InteropBridge.Proofs.Ledger.Liveness
import Mathlib.Algebra.Ring.Int.Defs

/-!
# What a history says about values

The value of an object is what it started with and what was added to it since, wrapped
to thirty-two bits.  A new object starts with zero and a copy with the value that its
source had when it was made; from then on the two have nothing to do with each other.
The table of a ledger holds exactly these values, whatever numbers its handles have.
-/

namespace InteropBridge

namespace Happening

/-- How much was added to the object of the handle. -/
def amountFor (handle : Handle) : Happening → Int
  | added other amount => if other = handle then amount.toInt else 0
  | made _ | copied .. | released _ | shutDown => 0

/-- What happened brought an object under the handle or ended the one there. -/
def Replaces (happening : Happening) (handle : Handle) : Prop :=
  happening.issued? = some handle ∨ happening = released handle ∨ happening = shutDown

section Replaces

variable (handle other : Handle)

@[simp]
theorem replaces_made : (made other).Replaces handle ↔ other = handle := by
  simp [Replaces, issued?]

@[simp]
theorem replaces_copied (source : Handle) :
    (copied source other).Replaces handle ↔ other = handle := by
  simp [Replaces, issued?]

@[simp]
theorem not_replaces_added (amount : Int32) : ¬ (added other amount).Replaces handle := by
  simp [Replaces, issued?]

@[simp]
theorem replaces_released : (released other).Replaces handle ↔ other = handle := by
  simp [Replaces, issued?]

@[simp]
theorem replaces_shutDown : shutDown.Replaces handle :=
  .inr (.inr rfl)

end Replaces

/-- What happened leaves the object of the handle as it is. -/
structure Spares (happening : Happening) (handle : Handle) : Prop where
  stays : ¬ happening.Replaces handle
  keeps : ∀ amount, happening ≠ added handle amount

end Happening

/-- How much was added to the object of the handle in all. -/
def totalFor (handle : Handle) (history : List Happening) : Int :=
  (history.map (·.amountFor handle)).sum

theorem totalFor_append_singleton (handle : Handle) (history : List Happening)
    (last : Happening) :
    totalFor handle (history ++ [last]) = totalFor handle history + last.amountFor handle := by
  simp [totalFor]

/-- After the history there is an object of this value under the handle. -/
inductive ValueIn : List Happening → Handle → Int32 → Prop
  | made {handle : Handle} (before : List Happening) {after : List Happening}
      (hstays : ∀ happening ∈ after, ¬ happening.Replaces handle) :
      ValueIn (before ++ .made handle :: after) handle (.ofInt (totalFor handle after))
  | copied {source handle : Handle} {before after : List Happening} {start : Int32}
      (hsource : ValueIn before source start)
      (hstays : ∀ happening ∈ after, ¬ happening.Replaces handle) :
      ValueIn (before ++ .copied source handle :: after) handle
        (.ofInt (start.toInt + totalFor handle after))

namespace ValueIn

variable {history : List Happening} {last : Happening} {handle : Handle} {value : Int32}

theorem not_nil : ¬ ValueIn [] handle value := by
  intro hvalue
  generalize hhistory : ([] : List Happening) = history at hvalue
  cases hvalue <;> simp at hhistory

theorem append (hvalue : ValueIn history handle value) (hstays : ¬ last.Replaces handle) :
    ValueIn (history ++ [last]) handle (value + .ofInt (last.amountFor handle)) := by
  have hafter : ∀ {after : List Happening}, (∀ happening ∈ after, ¬ happening.Replaces handle) →
      ∀ happening ∈ after ++ [last], ¬ happening.Replaces handle := by
    intro after hafter happening hmem
    rcases List.mem_append.mp hmem with hmem | hmem
    · exact hafter happening hmem
    · rw [List.mem_singleton.mp hmem]
      exact hstays
  cases hvalue with
  | made before hbefore =>
      rw [← Int32.ofInt_add, ← totalFor_append_singleton, List.append_assoc, List.cons_append]
      exact .made before (hafter hbefore)
  | copied hsource hbefore =>
      rw [← Int32.ofInt_add, Int.add_assoc, ← totalFor_append_singleton, List.append_assoc,
        List.cons_append]
      exact .copied hsource (hafter hbefore)

/-- What an object is worth once something more has happened. -/
theorem append_singleton_iff :
    ValueIn (history ++ [last]) handle value ↔
      last = .made handle ∧ value = 0 ∨
      (∃ source, last = .copied source handle ∧ ValueIn history source value) ∨
      ¬ last.Replaces handle ∧ ∃ start, ValueIn history handle start ∧
        value = start + .ofInt (last.amountFor handle) := by
  constructor
  · intro hvalue
    generalize hhistory : history ++ [last] = whole at hvalue
    cases hvalue with
    | made before hstays =>
        obtain ⟨rfl, -, rfl⟩ | ⟨rest, rfl, rfl⟩ := append_singleton_eq hhistory
        · exact .inl ⟨rfl, rfl⟩
        · refine .inr (.inr ⟨hstays last (by simp), _, .made before ?_, ?_⟩)
          · exact fun happening hmem => hstays happening (List.mem_append_left _ hmem)
          · rw [totalFor_append_singleton, Int32.ofInt_add]
    | @copied source _ before after start hsource hstays =>
        obtain ⟨rfl, rfl, rfl⟩ | ⟨rest, rfl, rfl⟩ := append_singleton_eq hhistory
        · refine .inr (.inl ⟨source, rfl, ?_⟩)
          simpa [totalFor] using hsource
        · refine .inr (.inr ⟨hstays last (by simp), _, .copied hsource ?_, ?_⟩)
          · exact fun happening hmem => hstays happening (List.mem_append_left _ hmem)
          · rw [totalFor_append_singleton, ← Int.add_assoc, Int32.ofInt_add]
  · rintro (⟨rfl, rfl⟩ | ⟨source, rfl, hsource⟩ | ⟨hstays, start, hstart, rfl⟩)
    · exact .made history (List.forall_mem_nil _)
    · have hcopied := @ValueIn.copied _ handle _ _ _ hsource (List.forall_mem_nil _)
      simpa [totalFor] using hcopied
    · exact hstart.append hstays

end ValueIn

/-! ## The values in a ledger -/

namespace Ledger

/-- The table finds the objects that the history tells of, with the values that it tells.
It never finds anything under the null handle. -/
def Values (history : List Happening) (ledger : Ledger) : Prop :=
  ∀ handle value, ledger.objects.find handle = .ok value ↔
    handle ≠ .null ∧ ValueIn history handle value

theorem values_fresh : Values [] {} := by
  intro handle value
  constructor
  · intro hfind
    cases HandleTable.mem_keys_of_find hfind
  · rintro ⟨-, hvalue⟩
    exact absurd hvalue ValueIn.not_nil

variable {history : List Happening} {before after : Ledger} {happening : Happening}

/-- A copy is made of an object that is there. -/
theorem Turn.ne_null_of_copied {source handle : Handle}
    (hturn : Turn before (.copied source handle) after) : source ≠ .null := by
  cases hturn with
  | copied hsource => exact HandleTable.ne_null_of_find hsource

/-- The object under a handle after one change of the ledger. -/
theorem Turn.find_eq_ok_iff (hturn : Turn before happening after) {handle : Handle}
    {value : Int32} (hhandle : handle ≠ .null) :
    after.objects.find handle = .ok value ↔
      happening = .made handle ∧ value = 0 ∨
      (∃ source, happening = .copied source handle ∧ before.objects.find source = .ok value) ∨
      ¬ happening.Replaces handle ∧ ∃ start, before.objects.find handle = .ok start ∧
        value = start + .ofInt (happening.amountFor handle) := by
  cases hturn with
  | made =>
      rw [issue, HandleTable.find_issued _ _ hhandle]
      by_cases hnext : handle = ⟨before.objects.next⟩
      · simp [hnext, eq_comm]
      · simp [Happening.amountFor, hnext, Ne.symm hnext]
  | copied hsource =>
      rw [issue, HandleTable.find_issued _ _ hhandle]
      by_cases hnext : handle = ⟨before.objects.next⟩
      · simp [hnext, hsource]
      · simp [Happening.amountFor, hnext, Ne.symm hnext]
  | @added other _ amount hfind =>
      by_cases hother : handle = other
      · subst hother
        rw [add, HandleTable.find_revised_self, hfind]
        simp [Happening.amountFor, Except.map, eq_comm]
      · rw [add, HandleTable.find_revised_of_ne _ _ hother]
        simp [Happening.amountFor, Ne.symm hother]
  | @released other _ hfind =>
      by_cases hother : handle = other
      · subst hother
        rw [release, HandleTable.find_without_self _ hhandle]
        simp
      · rw [release, HandleTable.find_without_of_ne _ hother]
        simp [Happening.amountFor, Ne.symm hother]
  | @passed other _ hfind =>
      by_cases hother : handle = other
      · subst hother
        rw [hfind]
        simp
      · simp [Happening.amountFor, Ne.symm hother]
  | shutDown =>
      rw [clear, HandleTable.find_clear _ hhandle]
      simp

/-- Every change of the ledger keeps to the values of its history. -/
theorem Values.turn (hvalues : Values history before) (hturn : Turn before happening after) :
    Values (history ++ [happening]) after := by
  intro handle value
  by_cases hhandle : handle = .null
  · subst hhandle
    simp
  · rw [hturn.find_eq_ok_iff hhandle, ValueIn.append_singleton_iff]
    have hcopied : (∃ source, happening = .copied source handle ∧
        before.objects.find source = .ok value) ↔
        ∃ source, happening = .copied source handle ∧ ValueIn history source value := by
      apply exists_congr
      intro source
      apply and_congr_right
      rintro rfl
      rw [hvalues source value]
      exact and_iff_right hturn.ne_null_of_copied
    simp only [hcopied, hvalues handle, and_iff_right hhandle]

theorem Values.turns {past : List Happening} (hvalues : Values past before)
    (hturns : Turns before history after) : Values (past ++ history) after := by
  induction hturns generalizing past with
  | refl ledger =>
      rw [List.append_nil]
      exact hvalues
  | step hturn _ ih =>
      have hwhole := ih (hvalues.turn hturn)
      rwa [List.append_assoc] at hwhole

theorem Turns.values (hturns : Turns {} history after) : Values history after :=
  values_fresh.turns hturns

/-- Changes that spare an object leave it under its handle. -/
theorem Turn.find_of_spares (hturn : Turn before happening after) {handle : Handle}
    (hspares : happening.Spares handle) :
    after.objects.find handle = before.objects.find handle := by
  have hstays := hspares.stays
  by_cases hhandle : handle = .null
  · rw [hhandle, HandleTable.find_null, HandleTable.find_null]
  · cases hturn with
    | made =>
        rw [Happening.replaces_made] at hstays
        rw [issue, HandleTable.find_issued _ _ hhandle, if_neg (Ne.symm hstays)]
    | copied =>
        rw [Happening.replaces_copied] at hstays
        rw [issue, HandleTable.find_issued _ _ hhandle, if_neg (Ne.symm hstays)]
    | added amount =>
        apply HandleTable.find_revised_of_ne
        rintro rfl
        exact hspares.keeps amount rfl
    | released =>
        apply HandleTable.find_without_of_ne
        rintro rfl
        simp at hstays
    | passed => rfl
    | shutDown => simp at hstays

theorem Turns.find_of_spares (hturns : Turns before history after) {handle : Handle}
    (hspares : ∀ happening ∈ history, happening.Spares handle) :
    after.objects.find handle = before.objects.find handle := by
  induction hturns with
  | refl ledger => rfl
  | step hturn _ ih =>
      obtain ⟨hfirst, hrest⟩ := List.forall_mem_cons.mp hspares
      rw [ih hrest, hturn.find_of_spares hfirst]

end Ledger

end InteropBridge
