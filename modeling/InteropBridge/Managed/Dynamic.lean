import InteropBridge.Managed.Library

/-!
# Calls by name

A host may call an export by name with loosely typed arguments.  Name, number of
arguments and their types are checked before anything crosses the boundary.
Objects travel as handles; one that is returned belongs to the caller.
-/

namespace InteropBridge.Dynamic

/-- The argument at a place, or the error for one that is not there. -/
def argument (args : List Value) (place : Nat) (expected : BoundaryType) : Attempt Value :=
  match args[place]? with
  | some value => return value
  | none => throw (.marshal (.typeMismatch place expected.managedName "nothing"))

/-- The error for an argument of the wrong type. -/
def mismatch {α : Type} (place : Nat) (expected : BoundaryType) (found : Value) : Attempt α :=
  throw (.marshal (Signature.mismatch place expected found))

def intAt (args : List Value) (place : Nat) : Attempt Int32 := do
  match ← argument args place .int with
  | .int number => return number
  | other => mismatch place .int other

def textAt (args : List Value) (place : Nat) : Attempt ManagedText := do
  match ← argument args place .ownedText with
  | .text text => return text
  | other => mismatch place .ownedText other

def listAt (args : List Value) (place : Nat) : Attempt (List Int32) := do
  match ← argument args place .sequence with
  | .list items => return items
  | other => mismatch place .sequence other

def handleAt (args : List Value) (place : Nat) : Attempt Handle := do
  match ← argument args place (.object className) with
  | .object handle => return handle
  | other => mismatch place (.object className) other

def optionalAt (args : List Value) (place : Nat) : Attempt (Option Value) := do
  match ← argument args place (.optional .void) with
  | .absent => return none
  | .present value => return some value
  | other => mismatch place (.optional .void) other

/-- Makes the call that a name and its arguments stand for. -/
def dispatch (name : String) (args : List Value) : Attempt Value := do
  match name with
  | "TestStaticClass.hello" => Library.hello; return .void
  | "TestStaticClass.print_number" => Library.printNumber (← intAt args 0); return .void
  | "TestStaticClass.add" => return .int (← Library.add (← intAt args 0) (← intAt args 1))
  | "TestStaticClass.concat" =>
      return .text (← Library.concat (← textAt args 0) (← textAt args 1))
  | "TestStaticClass.concat_str" =>
      return .text (← Library.concatLent (← textAt args 0) (← textAt args 1))
  | "TestStaticClass.test_obj_by_value" =>
      Managed.ask (.printCopy (← handleAt args 0)); return .void
  | "TestStaticClass.print_vec_len" => Library.printLength (← listAt args 0); return .void
  | "TestStaticClass.get_vec" => return .list (← Library.getNumbers)
  | "TestStaticClass.maybe_return_class" =>
      let name ← match ← optionalAt args 0 with
        | some (.text text) => pure (some text)
        | some other => mismatch 0 .ownedText other
        | none => pure none
      let made ← Library.maybeMake ⟨name⟩
      return .ofOption (made.content.map fun proxy => .object proxy.raw)
  | "TestStaticClass.maybe_add_one" =>
      let value ← match ← optionalAt args 0 with
        | some (.int number) => pure (some number)
        | some other => mismatch 0 .int other
        | none => pure none
      let answer ← Library.maybeAddOne ⟨value⟩
      return .ofOption (answer.content.map .int)
  | "TestClass.new" => return .object (← Managed.ask .make)
  | "TestClass.free" => Managed.ask (.free (← handleAt args 0)); return .void
  | "TestClass.clone" => return .object (← Managed.ask (.duplicate (← handleAt args 0)))
  | "TestClass.print" => Managed.ask (.print (← handleAt args 0)); return .void
  | "TestClass.increment" => Managed.ask (.increment (← handleAt args 0)); return .void
  | "TestClass.add" =>
      Managed.ask (.addTo (← handleAt args 0) (← intAt args 1)); return .void
  | "TestClass.get" => return .int (← Managed.ask (.get (← handleAt args 0)))
  | other => throw (.marshal (.unknownFunction other))

/-- The export that a call by name means, if the arguments fit it. -/
def resolve? (name : String) (args : List Value) : Except MarshalError Export :=
  match Export.ofName? name with
  | none => .error (.unknownFunction name)
  | some target => do
      target.signature.validate args
      return target

/-- Finds the export of a call by name.  A call that is refused here counts as a
marshal error. -/
def resolve (name : String) (args : List Value) : Attempt Export := do
  match resolve? name args with
  | .ok target => return target
  | .error fault =>
      Native.countMarshalError
      throw (.marshal fault)

/-- A call by name, without the warning for one that fails. -/
def attempt (name : String) (args : List Value) : Attempt Value := do
  let target ← resolve name args
  Native.emit (.dispatching target.signature.text)
  let value ← dispatch target.name args
  if target.signature.result.needsRelease then
    Native.emit (.callerOwns name value.typeName)
  return value

/-- Calls an export by name. -/
def call (name : String) (args : List Value) : Attempt Value := do
  try
    attempt name args
  catch error =>
    Native.emit (.dynamicCallFailed name error.message)
    throw error

end InteropBridge.Dynamic
