import InteropBridge.Log.Filter

/-!
# Log plans

What a configuration asks of logging: the level, the format and destination of
lines, and the filter.
-/

namespace InteropBridge.Log

/-- How an event is written. -/
inductive Format
  | pretty
  | compact
  | json
  deriving DecidableEq, Inhabited

namespace Format

/-- The name of the format in configurations and on the command line. -/
def name : Format → String
  | pretty => "pretty"
  | compact => "compact"
  | json => "json"

/-- The format with exactly this name. -/
def ofName? (name : String) : Option Format :=
  [pretty, compact, json].find? (·.name == name)

end Format

/-- Where lines go. -/
inductive Output
  | stdout
  | stderr
  /-- A file in a directory, its name beginning with `stem`. -/
  | file (directory stem : String)
  deriving DecidableEq

/-- What logging is asked to do. -/
structure Plan where
  level : Level
  format : Format := .pretty
  output : Output := .stderr
  /-- Whether opening and closing of spans are events of their own. -/
  spanEvents : Bool := false
  /-- Further directives, separated by commas. -/
  filter : Option String := none
  deriving DecidableEq

namespace Plan

/-- The filter of the plan. -/
def toFilter (plan : Plan) : Filter :=
  Filter.ofText plan.level (plan.filter.getD "")

/-- The pieces of the filter text that have no meaning. -/
def strayPieces (plan : Plan) : List String :=
  Filter.strayPieces (plan.filter.getD "")

end Plan

end InteropBridge.Log
