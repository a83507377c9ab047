import InteropBridge.Managed.Library

/-!
# The scenario

A fixed sequence of calls that shows every function of the library and of its
objects at work.  Proxies are dropped however the sequence ends.
-/

namespace InteropBridge.Command

/-- Runs a computation and drops the given proxies if it fails, in order. -/
def droppingOnFailure {α : Type} (proxies : List Proxy) (body : Attempt α) : Attempt α := do
  try
    body
  catch error =>
    for proxy in proxies do
      proxy.drop
    throw error

/-- Prints a text. -/
def say (text : String) : Native Unit :=
  Native.printLine text

/-- Prints a number. -/
def sayInt (number : Int32) : Native Unit :=
  say (toString number.toInt)

/-- Prints a managed text. -/
def sayText (text : ManagedText) : Native Unit :=
  say (String.ofList text.shown)

/-- Functions that belong to no object. -/
def greet : Attempt Unit := do
  Library.hello
  Library.printNumber 123
  sayInt (← Library.add 1 2)
  sayText (← Library.concat (.ofString "Concatenated ") (.ofString "String"))
  sayText (← Library.concatLent (.ofString "Concatenated ") (.ofString "str"))

/-- The methods of an object. -/
def exercise (object : Proxy) : Attempt Unit := do
  object.print
  object.increment
  object.print
  object.add 3
  object.print
  sayInt (← object.get)
  object.printCopy

/-- Functions on sequences. -/
def count : Attempt Unit := do
  Library.printLength [1, 2]
  for number in ← Library.getNumbers do
    sayInt number

/-- Functions on optional values.  The object that comes back is printed and
handed on. -/
def wonder : Attempt (ManagedOptional Proxy) := do
  let found ← Library.maybeMake ⟨some (.ofString "asdf")⟩
  droppingOnFailure found.content.toList do
    (← MonadExcept.ofExcept found.value).print
    let answer ← Library.maybeAddOne ⟨none⟩
    say (toString answer.content.isSome)
  return found

/-- Disposes of one object, and then lets go of another that may be there. -/
def finish (object : Proxy) (found : ManagedOptional Proxy) : Attempt Unit := do
  droppingOnFailure found.content.toList object.dispose
  for proxy in found.content.toList do
    proxy.drop

/-- The whole scenario. -/
def scenario : Attempt Unit := do
  greet
  let object ← Proxy.make
  let found ← droppingOnFailure [object] do
    exercise object
    count
    wonder
  finish object found

end InteropBridge.Command
