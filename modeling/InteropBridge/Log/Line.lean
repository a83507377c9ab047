import InteropBridge.Log.Plan
import InteropBridge.Text.Quoted

/-!
# Log lines

The text of an event in each format.  Compact lines write fields as `key=value`
after blanks, pretty lines as `key: value` after commas; texts are quoted in
both.  A line in the third format is a JSON object.
-/

namespace InteropBridge.Log

/-- The value of a field in a line. -/
def FieldValue.shown : FieldValue → String
  | .text value => Text.quote value
  | .count value => toString value
  | .flag value => toString value
  | .display value => Text.disarm value

/-- The value of a field in a JSON object. -/
def FieldValue.json : FieldValue → String
  | .text value => Text.jsonQuote value
  | .count value => toString value
  | .flag value => toString value
  | .display value => Text.jsonQuote value

namespace Event

/-- The event as a line whose fields are joined by the given marks. -/
def lineWith (event : Event) (betweenFields betweenNameAndValue : String) : String :=
  event.level.name ++ " " ++ event.target ++ ": " ++ Text.disarm event.message ++
    String.join (event.fields.map fun field =>
      betweenFields ++ field.1 ++ betweenNameAndValue ++ field.2.shown)

/-- The event as a compact line. -/
def compactLine (event : Event) : String :=
  event.lineWith " " "="

/-- The event as a pretty line. -/
def prettyLine (event : Event) : String :=
  event.lineWith ", " ": "

/-- The event as a JSON object. -/
def jsonLine (event : Event) : String :=
  let member := fun (name value : String) => Text.jsonQuote name ++ ":" ++ value
  let object := fun (members : List String) =>
    "\x7b" ++ ",".intercalate members ++ "\x7d"
  let fields := member "message" (Text.jsonQuote event.message) ::
    event.fields.map fun field => member field.1 field.2.json
  object [member "level" (Text.jsonQuote event.level.name), member "fields" (object fields),
    member "target" (Text.jsonQuote event.target)]

/-- The event as a line of the given format. -/
def line (event : Event) : Format → String
  | .pretty => event.prettyLine
  | .compact => event.compactLine
  | .json => event.jsonLine

end Event

end InteropBridge.Log
