import InteropBridge.Boundary.Type
import InteropBridge.Handle
import InteropBridge.Managed.Text

/-!
# Managed values

A value of a managed caller, loosely typed, and the check of a value against a
boundary type.
-/

namespace InteropBridge

/-- The class of the library's only objects. -/
def className : String := "TestClass"

/-- A loosely typed managed value. -/
inductive Value
  | void
  | int (number : Int32)
  | text (text : ManagedText)
  | list (items : List Int32)
  | object (handle : Handle)
  | absent
  | present (value : Value)
  deriving DecidableEq

namespace Value

/-- The optional value made from an option. -/
def ofOption : Option Value → Value
  | some value => present value
  | none => absent

/-- The name of the value's type, for error messages. -/
def typeName : Value → String
  | void => "void"
  | int _ => "int"
  | text _ => "string"
  | list _ => "List<int>"
  | object _ => className
  | absent => "Option<?>"
  | present value => "Option<" ++ value.typeName ++ ">"

/-- Whether a value can stand where the type is asked for.  Text fits both text
types, an object any class, and an absent optional any optional type. -/
def conforms : Value → BoundaryType → Bool
  | void, .void => true
  | int _, .int => true
  | text _, .ownedText => true
  | text _, .lentText => true
  | list _, .sequence => true
  | object _, .object _ => true
  | absent, .optional _ => true
  | present value, .optional inner => value.conforms inner
  | _, _ => false

end Value

end InteropBridge
