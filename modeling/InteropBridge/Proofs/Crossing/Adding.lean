import InteropBridge.Proofs.Crossing.Allocation
import InteropBridge.Proofs.Handle.Finding
import InteropBridge.Proofs.Threads.Bare
import InteropBridge.Proofs.Threads.Accounts

/-!
# Calls that add to an object

An object is added to if its handle is live, and else nothing is changed.  Either way the same
handles are live afterwards, so what one such call comes to does not depend on others before
it.  Two of them do the same to the objects in either order, also where the sums wrap around.
-/

namespace InteropBridge

namespace Objects

/-- The objects with an amount added to the one of a handle, if the handle is live. -/
def added (objects : HandleTable Int32) (handle : Handle) (amount : Int32) : HandleTable Int32 :=
  if objects.contains handle then objects.revised handle (· + amount) else objects

variable (objects : HandleTable Int32) (handle other : Handle) (amount : Int32)

theorem adding_eq :
    adding objects handle amount =
      ((objects.find handle).map fun _ => (), { objects := added objects handle amount }) := by
  rw [adding, added]
  cases hfind : objects.find handle with
  | ok object =>
      rw [HandleTable.contains_iff_find.mpr ⟨object, hfind⟩]
      rfl
  | error error =>
      rw [HandleTable.contains_of_find_error hfind]
      rfl

theorem find_added :
    (added objects handle amount).find other =
      if other = handle then (objects.find other).map (· + amount) else objects.find other := by
  rw [added]
  by_cases hother : other = handle
  · subst hother
    rw [if_pos rfl]
    cases hfind : objects.find other with
    | ok object =>
        rw [if_pos (HandleTable.contains_iff_find.mpr ⟨object, hfind⟩),
          HandleTable.find_revised_self, hfind]
    | error error =>
        rw [HandleTable.contains_of_find_error hfind, if_neg Bool.false_ne_true, hfind]
        rfl
  · rw [if_neg hother]
    split
    · exact objects.find_revised_of_ne _ hother
    · rfl

@[simp]
theorem errorIn?_find_added :
    errorIn? ((added objects handle amount).find other) = errorIn? (objects.find other) := by
  rw [find_added]
  split
  · cases objects.find other <;> rfl
  · rfl

/-- Adding leaves the same handles live. -/
@[simp]
theorem contains_added :
    (added objects handle amount).contains other = objects.contains other := by
  rw [Bool.eq_iff_iff, HandleTable.contains_iff_find, HandleTable.contains_iff_find, find_added]
  split
  · cases objects.find other <;> simp [Except.map]
  · rfl

/-- Two additions to one table can be swapped, be it to one object or to two. -/
theorem revised_comm (first second : Handle) (left right : Int32) :
    (objects.revised first (· + left)).revised second (· + right) =
      (objects.revised second (· + right)).revised first (· + left) := by
  simp only [HandleTable.revised, List.map_map]
  congr 1
  apply List.map_congr_left
  rintro ⟨key, object⟩ -
  simp only [Function.comp_apply]
  have hswap : object + left + right = object + right + left := by
    rw [Int32.add_assoc, Int32.add_comm left right, ← Int32.add_assoc]
  by_cases hfirst : key = first.raw
  · rw [if_pos hfirst]
    by_cases hsecond : key = second.raw
    · rw [if_pos hsecond, if_pos hsecond, if_pos hfirst, hswap]
    · rw [if_neg hsecond, if_neg hsecond, if_pos hfirst]
  · rw [if_neg hfirst]
    by_cases hsecond : key = second.raw
    · rw [if_pos hsecond, if_neg hfirst]
    · rw [if_neg hsecond, if_neg hfirst]

theorem added_comm (first second : Handle) (left right : Int32) :
    added (added objects first left) second right =
      added (added objects second right) first left := by
  rw [added, contains_added, added.eq_def (added objects second right), contains_added]
  by_cases hfirst : objects.contains first <;> by_cases hsecond : objects.contains second
  · simp only [added, hfirst, hsecond, if_true]
    exact revised_comm objects first second left right
  all_goals simp [added, hfirst, hsecond]

end Objects

/-- The call adds to the object of a handle. -/
inductive AnyCrossing.Adds : AnyCrossing → Handle → Int32 → Prop
  | increment (handle : Handle) : Adds ⟨_, .increment handle⟩ handle 1
  | addTo (handle : Handle) (amount : Int32) : Adds ⟨_, .addTo handle amount⟩ handle amount

/-- The context once a call has added to an object: what is on record of it is left out, but
for the marshal error that the null handle is. -/
def Context.added (context : Context) (handle : Handle) (amount : Int32) : Context :=
  { context with process := { context.process with
    objects := Objects.added context.process.objects handle amount
    tally.marshalErrors :=
      context.process.tally.marshalErrors + if handle = .null then 1 else 0 } }

theorem Crossing.alike_invoke_of_adding {crossing : Crossing .nothing} {handle : Handle}
    {amount : Int32}
    (heffect : ∀ hasPlace objects settings,
      crossing.effectAt hasPlace objects settings = Objects.adding objects handle amount)
    (place : Option Unit) (context : Context) :
    Context.Alike ((crossing.invoke place).run context).2 (context.added handle amount) := by
  have hentered : (crossing.entered context).process.objects = context.process.objects := rfl
  rw [run_invoke, run_attempt, heffect, Objects.adding_eq, hentered]
  cases hfind : context.process.objects.find handle with
  | ok object =>
      have hhandle := HandleTable.ne_null_of_find hfind
      simp [Context.Alike, Context.bare, Process.bare, Thread.bare, Context.added, Effect.on,
        returned, entered, Except.map, hhandle]
  | error error =>
      obtain ⟨rfl, rfl⟩ | ⟨hhandle, rfl⟩ := HandleTable.find_error hfind
      · simp [Context.Alike, Context.bare, Process.bare, Thread.bare, Context.added, Effect.on,
          refused, entered, Except.map, BridgeError.isMarshal, BridgeError.cause?]
      · simp [Context.Alike, Context.bare, Process.bare, Thread.bare, Context.added, Effect.on,
          refused, entered, Except.map, BridgeError.isMarshal, BridgeError.cause?, hhandle]

namespace AnyCrossing.Adds

variable {made : AnyCrossing} {handle : Handle} {amount : Int32} (hadds : made.Adds handle amount)

include hadds

theorem errorIn?_effect (objects : HandleTable Int32) (settings : Settings) :
    errorIn? (made.2.effect objects settings).1 = errorIn? (objects.find handle) := by
  have heffect : errorIn? (Objects.adding objects handle amount).1 =
      errorIn? (objects.find handle) := by
    rw [Objects.adding_eq]
    cases objects.find handle <;> rfl
  cases hadds <;> exact heffect

/-- A place for the result is given if the call asks for one, which it does not. -/
theorem hasPlace (place : Option made.1.Result) : made.2.HasPlace place := by
  cases hadds <;> exact fun hplace => absurd hplace Bool.false_ne_true

/-- But for records, the call adds to the object and does nothing else. -/
theorem alike_invoke (place : Option made.1.Result) (context : Context) :
    Context.Alike ((made.2.invoke place).run context).2 (context.added handle amount) := by
  cases hadds <;> exact Crossing.alike_invoke_of_adding (fun _ _ _ => rfl) place context

end AnyCrossing.Adds

end InteropBridge
