import InteropBridge.Log.Event
import InteropBridge.Log.Pattern.Support
import InteropBridge.Text.Blank
import InteropBridge.Text.Classes

/-!
# Filter directives

A directive sets the threshold for the events it is about.  It is written as a
level, as a target, or as both with an equals sign between them; a target alone
lets everything through.  After the target, or in its place, brackets may name
a span and, in braces, a field that the event has to carry.
-/

namespace InteropBridge.Log

/-- What a directive asks about a field: its name, and perhaps its value. -/
structure FieldMatch where
  name : String
  /-- A number or a pattern. -/
  value : Option String
  deriving DecidableEq

/-- One directive of a filter. -/
structure Directive where
  /-- The beginning that an event's target must have. -/
  target : Option String
  /-- The span that must be open around the event. -/
  span : Option String
  field : Option FieldMatch
  threshold : Threshold
  deriving DecidableEq

namespace Directive

/-- The directive that speaks about every event. -/
def base (threshold : Threshold) : Directive :=
  { target := none, span := none, field := none, threshold }

/-- Whether the directive can be decided from the event alone.  The others
depend on open spans, and the bridge opens none. -/
def isStatic (directive : Directive) : Bool :=
  directive.span.isNone && (directive.field.bind (·.value)).isNone

/-- Whether two directives are about the same events. -/
def sameSubject (left right : Directive) : Bool :=
  left.target == right.target && left.field == right.field

/-- Whether the directive is about the event: its target begins the event's
target and the event carries its field. -/
def isAbout (directive : Directive) (event : Event) : Bool :=
  (directive.target.all fun target => target.toList.isPrefixOf event.target.toList) &&
    directive.field.all fun field => event.fieldNames.contains field.name

/-- Whether `left` is more specific than `right`: a longer target wins, then a
field, then the later name. -/
def isMoreSpecific (left right : Directive) : Bool :=
  let targetLength := fun (directive : Directive) =>
    directive.target.elim 0 (·.utf8ByteSize + 1)
  let fieldCount := fun (directive : Directive) => if directive.field.isSome then 1 else 0
  if targetLength left ≠ targetLength right then targetLength right < targetLength left
  else if fieldCount left ≠ fieldCount right then fieldCount right < fieldCount left
  else if left.target ≠ right.target then right.target.getD "" < left.target.getD ""
  else (right.field.elim "" (·.name)) < (left.field.elim "" (·.name))

/-! ## Reading -/

/-- The threshold after the equals sign; an empty one lets everything
through. -/
def readThreshold (text : List Char) : Option Threshold :=
  if text.isEmpty then some (.upTo .trace) else Threshold.ofText? (String.ofList text)

/-- What follows the closing bracket: nothing, or a threshold. -/
def readTail (directive : Directive) : List Char → Option Directive
  | [] => some directive
  | '=' :: text => (readThreshold text).map fun threshold => { directive with threshold }
  | _ => none

/-- A field and the value asked of it, which ends at a second equals sign. -/
def readField (text : List Char) : Option FieldMatch :=
  if text.isEmpty then none
  else
    let name := text.takeWhile (· != '=')
    match text.dropWhile (· != '=') with
    | [] => some ⟨String.ofList name, none⟩
    | _ :: rest =>
        let value := rest.takeWhile (· != '=')
        if Pattern.isValue value then some ⟨String.ofList name, some (String.ofList value)⟩
        else none

/-- What follows the opening bracket: a span, perhaps a field in braces, and
the closing bracket. -/
def readBracket (directive : Directive) (text : List Char) : Option Directive :=
  let name := String.ofList (text.takeWhile fun c => c != ']' && c != '{')
  match text.dropWhile fun c => c != ']' && c != '{' with
  | ']' :: rest => readTail { directive with span := some name } rest
  | '{' :: rest => do
      let field ← readField (rest.takeWhile (· != '}'))
      let directive :=
        { directive with span := if name.isEmpty then none else some name, field := some field }
      match rest.dropWhile (· != '}') with
      | '}' :: ']' :: tail => readTail directive tail
      | _ => none
  | _ => none

/-- Whether a target can begin with the character. -/
def opensTarget (c : Char) : Bool :=
  Text.isAlphanumeric c || c == '-' || c == ':' || c == '_'

/-- The directive that a piece of a filter denotes. -/
def ofText? (text : String) : Option Directive :=
  let everything := base (.upTo .trace)
  match text.toList with
  | [] => none
  | '[' :: rest => readBracket everything rest
  | first :: rest =>
      if !opensTarget first then none
      else
        let target := String.ofList
          ((first :: rest).takeWhile fun c => c != '=' && c != '[')
        let directive := { everything with target := some target }
        match (first :: rest).dropWhile fun c => c != '=' && c != '[' with
        | [] => match Threshold.ofText? target with
            | some threshold => some (base threshold)
            | none => some directive
        | '[' :: rest => readBracket directive rest
        | tail => readTail directive tail

end Directive

end InteropBridge.Log
