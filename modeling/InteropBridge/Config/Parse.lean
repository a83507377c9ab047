import InteropBridge.Settings
import InteropBridge.Toml.Parse

/-!
# Reading settings

Settings are read from a document with a section for each group.  A section that
the document does not give is the default one, and each field that a section
does not give has a default of its own; keys that mean nothing are passed over.
A section may be a table, or an array that gives its fields in order.
-/

namespace InteropBridge

namespace Config

/-- The fields of a section, found by key in a table and by place in an array.
A moment has no field that a section knows. -/
def fields? : Toml.Value → Option (Nat → String → Option Toml.Value)
  | .table entries => some fun _ key => entries.lookup key
  | .array items => some fun place _ => items[place]?
  | .moment _ => some fun _ _ => none
  | _ => none

/-! ## What a field is where its section leaves it out

A choice is the first of its kind, an optional text is absent, and the other
fields are as follows. -/

def omittedMaxLive : Nat := 1024 * 1024

def omittedMaxTextBytes : Nat := 16 * 1024 * 1024

def omittedMaxSequenceLength : Nat := 16 * 1024 * 1024

def omittedLevel : String := "info"

def omittedSpanEvents : Bool := false

/-! ## Values -/

/-- A value that is given, or the default for one that is not. -/
def orDefault {α : Type} (standard : α) (read : Toml.Value → Option α) : Option Toml.Value → Option α
  | none => some standard
  | some value => read value

/-- Reads a size, which must not be negative. -/
def size? : Toml.Value → Option Nat
  | .integer number => if 0 ≤ number then some number.toNat else none
  | _ => none

def text? : Toml.Value → Option String
  | .text text => some text
  | _ => none

def flag? : Toml.Value → Option Bool
  | .boolean flag => some flag
  | _ => none

/-- Reads a name out of a fixed choice.  It may also stand as the only key of a
table, above an empty value. -/
def choice? {α : Type} (ofName? : String → Option α) : Toml.Value → Option α
  | .text name => ofName? name
  | .table [(name, .table [])] => ofName? name
  | .table [(name, .array [])] => ofName? name
  | _ => none

/-! ## Sections -/

/-- Reads the handle section. -/
def handles? (value : Toml.Value) : Option HandleSettings := do
  let field ← fields? value
  return {
    maxLive := ← orDefault omittedMaxLive size? (field 0 "max_live")
    doubleRelease := ←
      orDefault default (choice? ReleasePolicy.ofName?) (field 1 "double_release") }

/-- Reads the marshal section. -/
def marshal? (value : Toml.Value) : Option MarshalSettings := do
  let field ← fields? value
  return {
    maxTextBytes := ← orDefault omittedMaxTextBytes size? (field 0 "max_string_bytes")
    maxSequenceLength := ←
      orDefault omittedMaxSequenceLength size? (field 1 "max_sequence_len") }

/-- Reads the logging section. -/
def logging? (value : Toml.Value) : Option LogSettings := do
  let field ← fields? value
  return {
    level := ← orDefault omittedLevel text? (field 0 "level")
    format := ← orDefault default (choice? Log.Format.ofName?) (field 1 "format")
    filter := ← orDefault none (some <$> text? ·) (field 2 "filter")
    directory := ← orDefault none (some <$> text? ·) (field 3 "directory")
    spanEvents := ← orDefault omittedSpanEvents flag? (field 4 "span_events") }

/-- Reads a whole document. -/
def settings? (document : Toml.Value) : Option Settings := do
  return {
    handles := ← orDefault {} handles? (document.lookup? "handles")
    marshal := ← orDefault {} marshal? (document.lookup? "marshal")
    logging := ← orDefault {} logging? (document.lookup? "logging") }

end Config

/-- Why a text gives no settings. -/
inductive ConfigFault
  /-- The text is no document, or a setting has the wrong type. -/
  | malformed
  /-- The settings break a rule. -/
  | invalid (fault : SettingsFault)
  deriving DecidableEq

namespace Settings

/-- The settings that a text gives, once they are found to keep the rules. -/
def parse (text : String) : Except ConfigFault Settings :=
  match (Toml.parse? text).bind Config.settings? with
  | none => .error .malformed
  | some settings => settings.validate.mapError .invalid

end Settings

end InteropBridge
