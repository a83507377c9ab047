import InteropBridge.Managed.Proxy

/-!
# The library for managed callers

The exported functions that belong to no object, with managed arguments and
results.
-/

namespace InteropBridge.Library

open Managed

def hello : Attempt Unit :=
  ask .hello

def printNumber (number : Int32) : Attempt Unit :=
  ask (.printNumber number)

def add (left right : Int32) : Attempt Int32 :=
  ask (.add left right)

/-- Joins two texts through either of the exports that do so. -/
def joinThrough (crossing : TextView → TextView → Crossing .text) (left right : ManagedText) :
    Attempt ManagedText := do
  let left ← lend left
  let right ← lend right
  let buffer ← ask (crossing (.ofNative left) (.ofNative right))
  adoptText buffer

/-- Joins two texts that the native side gets as copies. -/
def concat (left right : ManagedText) : Attempt ManagedText :=
  joinThrough .concat left right

/-- Joins two texts that the native side only reads. -/
def concatLent (left right : ManagedText) : Attempt ManagedText :=
  joinThrough .concatLent left right

def printLength (items : List Int32) : Attempt Unit :=
  ask (.printLength (.ofList items))

def getNumbers : Attempt (List Int32) := do
  let buffer ← ask .getNumbers
  adoptSequence buffer

/-- A proxy for a new object if a name is given. -/
def maybeMake (name : ManagedOptional ManagedText) : Attempt (ManagedOptional Proxy) := do
  let lent ← name.content.mapM lend
  let made ← ask (.maybeMake
    { isPresent := lent.isSome, value := lent.elim (.null 0) .ofNative })
  return ⟨made.toOption.map .adopt⟩

/-- One more than a number, if a number is given. -/
def maybeAddOne (value : ManagedOptional Int32) : Attempt (ManagedOptional Int32) := do
  let answer ← ask (.maybeAddOne (.ofOption value.content))
  return ⟨answer.toOption⟩

end InteropBridge.Library
