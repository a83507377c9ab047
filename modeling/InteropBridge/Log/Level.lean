import InteropBridge.Text.Numeral

/-!
# Log levels

Five levels from error to trace, and thresholds that let through all levels up
to one of them, or none.  Both are written as a name in any case or as a
number.
-/

namespace InteropBridge.Log

/-- How important an event is. -/
inductive Level
  | error
  | warn
  | info
  | debug
  | trace
  deriving DecidableEq, Inhabited

namespace Level

/-- The place of the level, from 1 for errors to 5 for traces. -/
def rank : Level → Nat
  | error => 1
  | warn => 2
  | info => 3
  | debug => 4
  | trace => 5

/-- The name of the level in log lines. -/
def name : Level → String
  | error => "ERROR"
  | warn => "WARN"
  | info => "INFO"
  | debug => "DEBUG"
  | trace => "TRACE"

/-- Every level, in order of rank. -/
def all : List Level :=
  [error, warn, info, debug, trace]

/-- The upper-case form of a text, for letters of the ASCII alphabet. -/
def upper (text : String) : List Char :=
  text.toList.map Char.toUpper

/-- The level written as a name in any case. -/
def ofName? (text : String) : Option Level :=
  all.find? (·.name.toList == upper text)

/-- The level written as a numeral that gives its rank. -/
def ofNumeral? (text : String) : Option Level :=
  (Text.wordNumeral? text).bind fun value => all.find? (·.rank == value)

/-- The level that a text denotes, as a numeral or a name. -/
def ofText? (text : String) : Option Level :=
  (ofNumeral? text).or (ofName? text)

end Level

/-- Which levels pass. -/
inductive Threshold
  /-- No level passes. -/
  | off
  /-- Levels up to this one pass. -/
  | upTo (level : Level)
  deriving DecidableEq

namespace Threshold

/-- Whether an event of the level passes. -/
def admits (threshold : Threshold) (level : Level) : Bool :=
  match threshold with
  | off => false
  | upTo limit => level.rank ≤ limit.rank

/-- The threshold that a text denotes: zero and "off" let nothing pass, any
other text is read as a level, and the empty text stands for errors. -/
def ofText? (text : String) : Option Threshold :=
  if text.isEmpty then some (upTo .error)
  else if Text.wordNumeral? text = some 0 then some off
  else match Level.ofText? text with
    | some level => some (upTo level)
    | none => if Level.upper text == "OFF".toList then some off else none

end Threshold

end InteropBridge.Log
