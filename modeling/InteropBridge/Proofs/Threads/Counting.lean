import InteropBridge.Proofs.Threads.Booking

/-!
# Calls and marshal errors are counted exactly

Marshal errors are counted where they are found: when a call by name is checked, when a
text is converted, and inside an export.  An error passes through all of these on its way
out, but it is counted in one of them only.
-/

namespace InteropBridge

variable {α : Type}

namespace Operation

/-- An operation counts one marshal error if it fails with one, and none otherwise.  It
counts one call if it enters an export, and none otherwise, and the log tells of the same
call and no other. -/
theorem counts_exactly (operation : Operation α) (context : Context) :
    let ran := operation.run.run context
    ran.2.process.tally.marshalErrors =
      context.process.tally.marshalErrors +
        (if operation.failsToMarshal ran.1 then 1 else 0) ∧
    ran.2.process.tally.callsMade =
      context.process.tally.callsMade + (if operation.target?.isSome then 1 else 0) ∧
    ran.2.entries.2 =
      operation.target?.toList.map (fun target =>
        .called target.symbol target.signature.arity) ++ context.entries.2 ∧
    ∀ target, context.Entered target ran.2 ↔ operation.target? = some target := by
  intro ran
  have haccounts := operation.accounts_run context
  have hentries := congrArg Accounts.entries haccounts
  have hmarshal := congrArg Accounts.marshalErrors haccounts
  exact ⟨hmarshal, congrArg Prod.fst hentries, congrArg Prod.snd hentries,
    fun target => operation.entered_iff target context⟩

end Operation

namespace Machine

variable {Name : Type} [DecidableEq Name]

/-- A run counts the turns that enter an export, on whatever threads they are taken. -/
theorem callsMade_after (machine : Machine Name) (moves : List (Move Name)) :
    (machine.after moves).process.tally.callsMade =
      machine.process.tally.callsMade +
        moves.countP (fun move => move.operation.target?.isSome) := by
  induction moves generalizing machine with
  | nil => rfl
  | cons move rest ih =>
      have hstep : (machine.step move).process.tally.callsMade =
          machine.process.tally.callsMade + if move.operation.target?.isSome then 1 else 0 :=
        congrArg (fun accounts => accounts.entries.1)
          (move.operation.accounts_run (machine.seenBy move.thread))
      calc
        ((machine.step move).after rest).process.tally.callsMade =
            (machine.step move).process.tally.callsMade +
              rest.countP (fun move => move.operation.target?.isSome) := ih (machine.step move)
        _ = machine.process.tally.callsMade +
              (move :: rest).countP (fun move => move.operation.target?.isSome) := by
          rw [hstep, List.countP_cons]
          omega

/-- How many turns of a run fail with a marshal error. -/
def marshalFailures : Machine Name → List (Move Name) → Nat
  | _, [] => 0
  | machine, move :: rest =>
      (if move.operation.failsToMarshal (machine.perform move.thread move.operation).1
        then 1 else 0) + marshalFailures (machine.step move) rest

/-- It counts each marshal error once. -/
theorem marshalErrors_after (machine : Machine Name) (moves : List (Move Name)) :
    (machine.after moves).process.tally.marshalErrors =
      machine.process.tally.marshalErrors + marshalFailures machine moves := by
  induction moves generalizing machine with
  | nil => rfl
  | cons move rest ih =>
      have hstep : (machine.step move).process.tally.marshalErrors = _ :=
        congrArg Accounts.marshalErrors
          (move.operation.accounts_run (machine.seenBy move.thread))
      calc
        ((machine.step move).after rest).process.tally.marshalErrors =
            (machine.step move).process.tally.marshalErrors +
              marshalFailures (machine.step move) rest := ih (machine.step move)
        _ = machine.process.tally.marshalErrors +
              marshalFailures machine (move :: rest) := by
          rw [hstep]
          exact Nat.add_assoc ..

end Machine

end InteropBridge
