import InteropBridge.Proofs.Crossing.Running

/-!
# What exports do

Of all that surrounds it, the function of an export reads the table of objects and the
settings and nothing else.  From these follow its result and its effect: the table
afterwards, the handles that it issued and ended, at most one line for the console and at
most one event for the log.  Whatever else is said of exports can be read off their effects.
-/

namespace InteropBridge

/-- What the function of an export does around it. -/
structure Effect where
  objects : HandleTable Int32
  allocated : Nat := 0
  released : Nat := 0
  line : Option String := none
  event : Option Log.Event := none

/-- The context after an effect.  The line goes where the thread writes its lines. -/
def Effect.on (effect : Effect) (context : Context) : Context :=
  let changed := { context with process := { context.process with
    objects := effect.objects
    tally := { context.process.tally with
      handlesAllocated := context.process.tally.handlesAllocated + effect.allocated
      handlesReleased := context.process.tally.handlesReleased + effect.released }
    journal := effect.event.elim context.process.journal context.process.journal.emit } }
  effect.line.elim changed fun line => ((Native.writeLine line).run changed).2

namespace Objects

variable (objects : HandleTable Int32)

/-- What comes of storing an object, which needs room under the limit. -/
def storing (object : Int32) (limit : Nat) : Except BridgeError Handle × Effect :=
  if objects.live < limit then
    (.ok ⟨objects.next⟩, {
      objects := objects.issued object
      allocated := 1
      event := some (.allocated objects.kind ⟨objects.next⟩ (objects.live + 1)) })
  else
    (.error (.allocation objects.kind (HandleTable.refusal objects.live limit)), { objects })

/-- What comes of ending a handle under a policy. -/
def ending (handle : Handle) (policy : ReleasePolicy) : Except BridgeError Unit × Effect :=
  match objects.find handle with
  | .ok _ => (.ok (), {
      objects := objects.without handle
      released := 1
      event := some (.released objects.kind handle (objects.live - 1)) })
  | .error (.disposedHandle stale) =>
      match policy with
      | .ignore => (.ok (), { objects, event := some (.releaseIgnored stale) })
      | .report => (.error (.disposedHandle stale), { objects })
  | .error error => (.error error, { objects })

/-- What comes of adding to an object. -/
def adding (handle : Handle) (amount : Int32) : Except BridgeError Unit × Effect :=
  match objects.find handle with
  | .ok _ => (.ok (), { objects := objects.revised handle (· + amount) })
  | .error error => (.error error, { objects })

/-- What comes of writing a line about an object. -/
def showing (handle : Handle) (line : Int32 → String) : Except BridgeError Unit × Effect :=
  match objects.find handle with
  | .ok object => (.ok (), { objects, line := some (line object) })
  | .error error => (.error error, { objects })

theorem run_register_eq (object : Int32) (context : Context) :
    (register object).run.run context =
      let outcome := storing context.process.objects object
        context.process.settings.handles.maxLive
      (outcome.1, outcome.2.on context) := by
  rw [run_register, storing]
  split <;> rfl

theorem run_release_eq (handle : Handle) (context : Context) :
    (release handle).run.run context =
      let outcome := ending context.process.objects handle
        context.process.settings.handles.doubleRelease
      (outcome.1, outcome.2.on context) := by
  rw [run_release, ending]
  cases hfind : context.process.objects.find handle with
  | ok object => rfl
  | error error =>
      obtain ⟨-, rfl⟩ | ⟨-, rfl⟩ := HandleTable.find_error hfind
      · rfl
      · cases context.process.settings.handles.doubleRelease <;> rfl

theorem run_change_eq (handle : Handle) (amount : Int32) (context : Context) :
    (change handle (· + amount)).run.run context =
      let outcome := adding context.process.objects handle amount
      (outcome.1, outcome.2.on context) := by
  rw [run_change, adding]
  cases context.process.objects.find handle <;> rfl

theorem run_show_eq (handle : Handle) (line : Int32 → String) (context : Context) :
    (do
      let object ← read handle
      Native.writeLine (line object) : Attempt Unit).run.run context =
      let outcome := showing context.process.objects handle line
      (outcome.1, outcome.2.on context) := by
  rw [Attempt.run_bind, run_read, showing]
  cases context.process.objects.find handle <;> rfl

end Objects

namespace Crossing

variable {kind : ResultKind}

/-- Two texts read and joined. -/
def joined (left right : TextView) (limit : Nat) : Except BridgeError (Buffer NativeText) := do
  let left ← BridgeError.ofMarshal (left.read limit)
  let right ← BridgeError.ofMarshal (right.read limit)
  return .made (left ++ right)

/-- What comes of an export, given the objects and the settings that it finds. -/
def effect (objects : HandleTable Int32) (settings : Settings) :
    {kind : ResultKind} → Crossing kind → Except BridgeError kind.Result × Effect
  | _, hello => (.ok (), { objects, line := some "Hello from Rust!" })
  | _, printNumber number =>
      (.ok (), { objects, line := some ("Number: " ++ toString number.toInt) })
  | _, add left right => (.ok (left + right), { objects })
  | _, concat left right | _, concatLent left right =>
      (joined left right settings.marshal.maxTextBytes, { objects })
  | _, printCopy handle => Objects.showing objects handle fun object =>
      className ++ " by value: i = " ++ toString object.toInt
  | _, printLength items =>
      match BridgeError.ofMarshal (items.read settings.marshal.maxSequenceLength) with
      | .ok items =>
          (.ok (), { objects, line := some ("Vec length: " ++ toString items.length) })
      | .error error => (.error error, { objects })
  | _, getNumbers => (.ok (.made [1, 2, 3]), { objects })
  | _, maybeMake name =>
      match name.toOption.map fun view =>
        BridgeError.ofMarshal (view.read settings.marshal.maxTextBytes) with
      | none => (.ok (.ofOption none), { objects })
      | some (.ok _) =>
          let stored := Objects.storing objects 0 settings.handles.maxLive
          (stored.1.map fun handle => .ofOption (some handle), stored.2)
      | some (.error error) => (.error error, { objects })
  | _, maybeAddOne value => (.ok (.ofOption (value.toOption.map (· + 1))), { objects })
  | _, make => Objects.storing objects 0 settings.handles.maxLive
  | _, free handle =>
      if handle.isNull then (.ok (), { objects })
      else Objects.ending objects handle settings.handles.doubleRelease
  | _, duplicate handle =>
      match objects.find handle with
      | .ok object => Objects.storing objects object settings.handles.maxLive
      | .error error => (.error error, { objects })
  | _, print handle => Objects.showing objects handle fun object =>
      className ++ ": i = " ++ toString object.toInt
  | _, increment handle => Objects.adding objects handle 1
  | _, addTo handle amount => Objects.adding objects handle amount
  | _, get handle => (objects.find handle, { objects })

theorem run_bind_settings {α : Type} (next : Settings → Attempt α) (context : Context) :
    ((liftM Native.settings : Attempt Settings) >>= next).run.run context =
      (next context.process.settings).run.run context := rfl

theorem run_readText (view : TextView) (context : Context) :
    (readText view).run.run context =
      (BridgeError.ofMarshal (view.read context.process.settings.marshal.maxTextBytes),
        context) :=
  Attempt.run_ofExcept _ _

theorem run_joinTexts (left right : TextView) (context : Context) :
    (joinTexts left right).run.run context =
      (joined left right context.process.settings.marshal.maxTextBytes, context) := by
  rw [joinTexts, joined, Attempt.run_bind, run_readText]
  cases BridgeError.ofMarshal (left.read context.process.settings.marshal.maxTextBytes) with
  | error error => rfl
  | ok left =>
      dsimp only
      rw [Attempt.run_bind, run_readText]
      cases BridgeError.ofMarshal (right.read context.process.settings.marshal.maxTextBytes) <;>
        rfl

/-- The function of an export comes to this, and has this effect. -/
theorem run_run (crossing : Crossing kind) (context : Context) :
    crossing.run.run.run context =
      let outcome := crossing.effect context.process.objects context.process.settings
      (outcome.1, outcome.2.on context) := by
  cases crossing with
  | hello | printNumber | add | getNumbers | maybeAddOne => rfl
  | make => exact Objects.run_register_eq 0 context
  | get handle => exact Objects.run_read handle context
  | increment handle | addTo handle amount => exact Objects.run_change_eq handle _ context
  | print handle | printCopy handle => exact Objects.run_show_eq handle _ context
  | concat left right | concatLent left right => exact run_joinTexts left right context
  | printLength items =>
      rw [run, run_bind_settings, Attempt.run_bind, demand, Attempt.run_ofExcept, effect]
      cases BridgeError.ofMarshal (items.read
        context.process.settings.marshal.maxSequenceLength) <;> rfl
  | maybeMake name =>
      rw [run, effect]
      cases name.toOption with
      | none => rfl
      | some view =>
          dsimp only [Option.map_some]
          rw [Attempt.run_bind, run_readText]
          cases BridgeError.ofMarshal (view.read context.process.settings.marshal.maxTextBytes) with
          | error error => rfl
          | ok text =>
              dsimp only
              rw [Attempt.run_bind, Objects.run_register_eq]
              rcases Objects.storing context.process.objects 0
                context.process.settings.handles.maxLive with ⟨error | handle, stored⟩ <;> rfl
  | free handle =>
      rw [run, effect]
      cases handle.isNull with
      | true => rfl
      | false => exact Objects.run_release_eq handle context
  | duplicate handle =>
      rw [run, effect, Attempt.run_bind, Objects.run_read]
      cases context.process.objects.find handle with
      | ok object => exact Objects.run_register_eq object context
      | error error => rfl

/-- What comes of a call, which is nothing if a place is asked for and not given. -/
def effectAt (hasPlace : Bool) (objects : HandleTable Int32) (settings : Settings)
    (crossing : Crossing kind) : Except BridgeError kind.Result × Effect :=
  match crossing.placeName?, hasPlace with
  | some what, false => (.error (.marshal (.nullPointer what)), { objects })
  | some _, true | none, _ => crossing.effect objects settings

@[simp]
theorem effectAt_true (objects : HandleTable Int32) (settings : Settings)
    (crossing : Crossing kind) :
    crossing.effectAt true objects settings = crossing.effect objects settings := by
  rw [effectAt.eq_def]
  cases crossing.placeName? <;> rfl

theorem run_attempt (crossing : Crossing kind) (hasPlace : Bool) (context : Context) :
    (crossing.attempt hasPlace).run.run context =
      let outcome := crossing.effectAt hasPlace context.process.objects context.process.settings
      (outcome.1, outcome.2.on context) := by
  rw [attempt_eq, effectAt.eq_def]
  cases crossing.placeName? with
  | none => exact crossing.run_run context
  | some what =>
      cases hasPlace with
      | false => rfl
      | true => exact crossing.run_run context

end Crossing

end InteropBridge
