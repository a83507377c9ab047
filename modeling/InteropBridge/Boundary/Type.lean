/-!
# Boundary types

The types of arguments and results of exported functions, with the two
spellings each has: the native one of signatures and the managed one of error
messages.
-/

namespace InteropBridge

/-- The type of an argument or result at the boundary. -/
inductive BoundaryType
  | void
  | int
  /-- Text handed over as a copy. -/
  | ownedText
  /-- Text lent for the duration of a call. -/
  | lentText
  /-- A handle to an object of the named class. -/
  | object (className : String)
  | sequence
  | optional (inner : BoundaryType)
  deriving DecidableEq

namespace BoundaryType

/-- The spelling in native signatures. -/
def nativeName : BoundaryType → String
  | void => "()"
  | int => "i32"
  | ownedText => "String"
  | lentText => "&str"
  | object className => className
  | sequence => "Vec<i32>"
  | optional inner => "Option<" ++ inner.nativeName ++ ">"

/-- The name of the managed type, for error messages. -/
def managedName : BoundaryType → String
  | void => "void"
  | int => "int"
  | ownedText | lentText => "string"
  | object className => className
  | sequence => "List<int>"
  | optional inner => "Option<" ++ inner.managedName ++ ">"

/-- Whether a value of the type owns native memory that someone has to
release. -/
def needsRelease : BoundaryType → Bool
  | ownedText | object _ | sequence => true
  | optional inner => inner.needsRelease
  | void | int | lentText => false

end BoundaryType

end InteropBridge
