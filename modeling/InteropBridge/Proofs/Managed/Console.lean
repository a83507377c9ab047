import InteropBridge.Proofs.Crossing.Effect
import InteropBridge.Proofs.Managed.ManagedCall
import InteropBridge.Proofs.Startup

/-!
# The console of a thread

A thread writes its lines to the innermost capture if there is one, and to standard output
otherwise.  Lines come from calls: a call of an export writes at most one, which follows from
the objects and the settings that it finds, and a managed call writes the line of the direct
call that it makes.  Nothing that happens on the way to the boundary and back is written there.
-/

namespace InteropBridge

/-- Where a thread writes its lines, with what stands there. -/
structure Console where
  stdout : String := ""
  /-- What the innermost capture has collected, if there is one. -/
  capture : Option String := none
  deriving DecidableEq

/-- Lines as they stand in a text: each is followed by a newline. -/
def textOf (lines : List String) : String :=
  String.join (lines.map (· ++ "\n"))

theorem textOf_append (first second : List String) :
    textOf (first ++ second) = textOf first ++ textOf second := by
  rw [textOf, List.map_append, String.join_append]
  rfl

theorem textOf_singleton (line : String) : textOf [line] = line ++ "\n" := by
  rw [textOf, List.map_singleton, String.join_cons, String.join_nil, String.append_empty]

namespace Console

/-- The console once it has taken some lines. -/
def receive (console : Console) (lines : List String) : Console :=
  match console.capture with
  | some collected => { console with capture := some (collected ++ textOf lines) }
  | none => { console with stdout := console.stdout ++ textOf lines }

@[simp]
theorem receive_nil (console : Console) : console.receive [] = console := by
  have htext : textOf [] = "" := String.join_nil
  rcases console with ⟨stdout, _ | collected⟩ <;>
    simp only [receive, htext, String.append_empty]

theorem receive_append (console : Console) (first second : List String) :
    console.receive (first ++ second) = (console.receive first).receive second := by
  rcases console with ⟨stdout, _ | collected⟩ <;>
    simp only [receive, textOf_append, String.append_assoc]

end Console

/-- The console that the thread writes to. -/
def Context.console (context : Context) : Console where
  stdout := context.process.stdout
  capture := context.thread.capture

theorem Context.aloof_console : Aloof console where
  relogged _ _ _ := rfl
  installed _ _ := rfl
  handedOver _ _ := rfl

theorem Native.console_writeLine (line : String) (context : Context) :
    ((writeLine line).run context).2.console = context.console.receive [line] := by
  have hline (before : String) : before ++ textOf [line] = before ++ line ++ "\n" := by
    rw [textOf_singleton, String.append_assoc]
  rcases context with ⟨process, lastError, _ | collected⟩
  · exact congrArg (Console.mk · none) (hline _).symm
  · exact congrArg (Console.mk process.stdout <| some ·) (hline _).symm

/-- The only trace of an effect on the console is its line. -/
theorem Effect.console_on (effect : Effect) (context : Context) :
    (effect.on context).console = context.console.receive effect.line.toList := by
  rcases effect with ⟨objects, allocated, released, _ | line, event⟩
  · exact (Console.receive_nil _).symm
  · exact Native.console_writeLine line _

/-! ## Calls -/

section Calls

open Attempt

variable {kind : ResultKind} {α : Type}

namespace Crossing

/-- The line that the call writes in a process, if it writes one. -/
def line? (crossing : Crossing kind) (hasPlace : Bool) (process : Process) : Option String :=
  (crossing.effectAt hasPlace process.objects process.settings).2.line

theorem console_invoke (crossing : Crossing kind) (place : Option kind.Result)
    (context : Context) :
    ((crossing.invoke place).run context).2.console =
      context.console.receive (crossing.line? place.isSome context.process).toList := by
  have hentered : crossing.effectAt place.isSome (crossing.entered context).process.objects
      (crossing.entered context).process.settings =
      crossing.effectAt place.isSome context.process.objects context.process.settings := rfl
  rw [run_invoke, run_attempt, hentered, line?]
  rcases crossing.effectAt place.isSome context.process.objects context.process.settings with
    ⟨error | result, effect⟩ <;> exact effect.console_on (crossing.entered context)

theorem line?_storing (objects : HandleTable Int32) (object : Int32) (limit : Nat) :
    (Objects.storing objects object limit).2.line = none := by
  rw [Objects.storing]
  split <;> rfl

theorem line?_ending (objects : HandleTable Int32) (handle : Handle) (policy : ReleasePolicy) :
    (Objects.ending objects handle policy).2.line = none := by
  rw [Objects.ending]
  split
  · rfl
  · cases policy <;> rfl
  · rfl

end Crossing

theorem Attempt.Mirrors.console {crossing : Crossing kind} {decode : kind.Result → α}
    {body : Attempt α} (hbody : Mirrors crossing decode body) (context : Context) :
    (body.run.run context).2.console =
      context.console.receive (crossing.line? true context.process).toList := by
  -- Neither the log nor the last error is part of the console.
  have hafter := congrArg Context.console (hbody context kind.blank).after
  exact hafter.trans (crossing.console_invoke (some kind.blank) context)

namespace ManagedCall

/-- The line that a managed call writes: that of the direct call it makes, if it makes one. -/
def line? (call : ManagedCall α) (process : Process) : Option String :=
  call.crossing?.bind fun made => made.2.line? true process

theorem console_perform (call : ManagedCall α) (context : Context) :
    (call.perform.run.run context).2.console =
      context.console.receive (call.line? context.process).toList := by
  rw [line?]
  cases hmade : call.crossing? with
  | some made =>
      obtain ⟨decode, hmirrors⟩ := exists_mirrors_perform hmade
      exact hmirrors.console context
  | none =>
      have hafter := congrArg Context.console (staysOutside_perform hmade context)
      exact hafter.trans (Console.receive_nil _).symm

/-- A new object writes no line. -/
theorem line?_make (process : Process) : make.line? process = none :=
  Crossing.line?_storing _ _ _

/-- The release of an object writes no line. -/
theorem line?_dispose (proxy : Proxy) (process : Process) :
    (dispose proxy).line? process = none := by
  rw [line?, crossing?, Proxy.crossing?]
  split
  · rfl
  · rw [Option.bind_some, Crossing.line?, Crossing.effectAt_true, Crossing.effect]
    split
    · rfl
    · exact Crossing.line?_ending _ _ _

end ManagedCall

namespace Proxy

theorem keepsConsole_dispose (proxy : Proxy) : Keeps Context.console proxy.dispose := by
  intro context
  have hwritten := (ManagedCall.dispose proxy).console_perform context
  rw [ManagedCall.line?_dispose] at hwritten
  exact hwritten.trans (Console.receive_nil _)

/-- Letting go of a proxy writes no line. -/
theorem keepsConsole_drop (proxy : Proxy) : proxy.drop.Keeps Context.console := by
  refine Native.Keeps.bind proxy.keepsConsole_dispose fun result => ?_
  cases result with
  | ok released => exact fun _ => rfl
  | error error => exact fun _ => rfl

end Proxy

end Calls

end InteropBridge
