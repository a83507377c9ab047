/-!
# Configuration values

The values of a configuration document.  Settings are texts, integers and
booleans; fractions and moments in time are told apart from those but kept only
as they were written.
-/

namespace InteropBridge.Toml

/-- A value of a configuration document. -/
inductive Value
  | text (text : String)
  | integer (number : Int)
  | fraction (literal : String)
  | boolean (flag : Bool)
  /-- A date, a time of day, or both. -/
  | moment (literal : String)
  | array (items : List Value)
  | table (entries : List (String × Value))

namespace Value

/-- The value under a key of a table. -/
def lookup? (key : String) : Value → Option Value
  | table entries => entries.lookup key
  | _ => none

end Value

end InteropBridge.Toml
