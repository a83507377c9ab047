import InteropBridge.Proofs.Crossing.Entering
import InteropBridge.Proofs.Managed.Asking
import InteropBridge.Proofs.Managed.Calling
import InteropBridge.Proofs.Managed.Text

/-!
# Lending text

Text that is lent for a call either has a native form, and then only the log knows
that it was converted, or it is rejected on the managed side.  A rejected computation
ends in a marshal error before any export is entered.
-/

namespace InteropBridge

/-- One more marshal error was counted.  No export was entered, and but for the log
nothing else happened. -/
def Context.Rejected (before after : Context) : Prop :=
  after.muted =
    { before.muted with
      process.tally.marshalErrors := before.muted.process.tally.marshalErrors + 1 }

theorem Context.Rejected.of_muted_eq {before first last after : Context}
    (hbefore : first.muted = before.muted) (hrejected : Rejected first last)
    (hafter : after.muted = last.muted) : Rejected before after := by
  rw [Rejected, hafter, hrejected, hbefore]

namespace Attempt

variable {α β : Type}

/-- Wherever it runs, the computation ends in a marshal error before any export is
entered. -/
def Rejects (body : Attempt α) : Prop :=
  ∀ context, ∃ fault after,
    body.run.run context = (.error (.marshal fault), after) ∧ context.Rejected after

theorem Rejects.bind {body : Attempt α} (hbody : Rejects body) (next : α → Attempt β) :
    Rejects (body >>= next) := by
  intro context
  obtain ⟨fault, after, hrun, hrejected⟩ := hbody context
  exact ⟨fault, after, run_bind_error hrun next, hrejected⟩

/-- Wherever it runs, the computation gives the value and only adds to the log. -/
def Gives (value : α) (body : Attempt α) : Prop :=
  ∀ context, (body.run.run context).1 = .ok value ∧
    (body.run.run context).2.muted = context.muted

theorem gives_pure (value : α) : Gives value (pure value) := fun _ => ⟨rfl, rfl⟩

theorem Gives.run {value : α} {body : Attempt α} (hbody : Gives value body)
    (context : Context) :
    ∃ after, body.run.run context = (.ok value, after) ∧ after.muted = context.muted := by
  obtain ⟨hvalue, hafter⟩ := hbody context
  exact ⟨_, Prod.ext hvalue rfl, hafter⟩

theorem Gives.bind {first : α} {second : β} {body : Attempt α} {next : α → Attempt β}
    (hbody : Gives first body) (hnext : Gives second (next first)) :
    Gives second (body >>= next) := by
  intro context
  obtain ⟨between, hrun, hbetween⟩ := hbody.run context
  rw [run_bind_ok hrun, ← hbetween]
  exact hnext between

/-- What only adds to the log may come before. -/
theorem Rejects.of_gives {first : Attempt α} {value : α} {next : α → Attempt β}
    (hfirst : Gives value first) (hnext : Rejects (next value)) : Rejects (first >>= next) := by
  intro context
  obtain ⟨between, hrun, hbefore⟩ := hfirst.run context
  obtain ⟨fault, after, hfails, hrejected⟩ := hnext between
  refine ⟨fault, after, ?_, .of_muted_eq hbefore hrejected rfl⟩
  rw [run_bind_ok hrun, hfails]

end Attempt

open Attempt

namespace Managed

/-- The context after a conversion to native text. -/
abbrev converted (context : Context) : Context :=
  Dynamic.noted (.converted "utf16" "utf8") context

theorem run_lend (text : ManagedText) (context : Context) :
    (lend text).run.run context =
      match text.toNative with
      | .ok native => (.ok native, converted context)
      | .error fault =>
          (.error (.marshal fault), (Native.countMarshalError.run (converted context)).2) := by
  rw [lend, run_bind_ok (run_lift _ context)]
  cases text.toNative <;> rfl

theorem run_lend_ofNative (native : NativeText) (context : Context) :
    (lend (.ofNative native)).run.run context = (.ok native, converted context) := by
  rw [run_lend, ManagedText.toNative_ofNative]

theorem gives_lend (native : NativeText) : Gives native (lend (.ofNative native)) := by
  intro context
  rw [run_lend_ofNative]
  exact ⟨rfl, Context.muted_emit rfl context⟩

theorem gives_lendName (name : Option NativeText) :
    Gives name ((name.map ManagedText.ofNative).mapM lend) := by
  cases name with
  | none => exact gives_pure none
  | some native =>
      rw [Option.map_some, Option.mapM_some, map_eq_pure_bind]
      exact (gives_lend native).bind (gives_pure _)

theorem rejects_lend {text : ManagedText} (hunpaired : ¬ Utf16.WellFormed text.units) :
    Rejects (lend text) := by
  intro context
  rw [run_lend]
  cases hnative : text.toNative with
  | ok native =>
      rw [ManagedText.toNative_eq_ok_iff] at hnative
      exact absurd ((ManagedText.wellFormed_iff_exists_ofNative text).mpr ⟨native, hnative⟩)
        hunpaired
  | error fault => exact ⟨fault, _, rfl, rfl⟩

theorem rejects_lendName {text : ManagedText} (hunpaired : ¬ Utf16.WellFormed text.units) :
    Rejects ((some text).mapM lend) := by
  rw [Option.mapM_some, map_eq_pure_bind]
  exact (rejects_lend hunpaired).bind _

end Managed

end InteropBridge
