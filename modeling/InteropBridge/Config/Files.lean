import InteropBridge.Config.Parse
import InteropBridge.Text.Utf8

/-!
# Configuration files

Settings are loaded from a file, or from the nearest file of a fixed name that
loads, searched for from a directory upwards.  A tree of files stands for what
is on the disk.
-/

namespace InteropBridge

/-- A place in a tree of files: the names on the way to it, innermost first.
The empty place is the root. -/
abbrev Place := List String

/-- What can stand at a place. -/
inductive Entry
  | directory
  | file (bytes : List UInt8)

/-- What stands where.  Every place above an entry is a directory. -/
structure FileTree where
  entries : List (Place × Entry) := []

/-- Why a file cannot be read. -/
inductive ReadFault
  | missing
  | notDirectory
  | isDirectory
  | nameTooLong
  | notText
  deriving DecidableEq

/-- What the system says about a file that cannot be read. -/
def ReadFault.message : ReadFault → String
  | missing => "No such file or directory (os error 2)"
  | notDirectory => "Not a directory (os error 20)"
  | isDirectory => "Is a directory (os error 21)"
  | nameTooLong => "File name too long (os error 36)"
  | notText => "stream did not contain valid UTF-8"

namespace FileTree

/-- What stands at a place. -/
def entry? (tree : FileTree) (place : Place) : Option Entry :=
  match tree.entries.lookup place with
  | some entry => some entry
  | none =>
      if place.isEmpty || tree.entries.any fun entry => place.isSuffixOf entry.1 then
        some .directory
      else none

/-- The number of bytes that a name may have. -/
def maxNameBytes : Nat := 255

/-- The number of bytes that a path may have. -/
def maxPathBytes : Nat := 4095

/-- Follows names from a place on.  Every place that is passed has to be a
directory; a dot stays and two dots go up. -/
def walk (tree : FileTree) (place : Place) : List String → Except ReadFault Place
  | [] => .ok place
  | name :: rest =>
      match tree.entry? place with
      | none => .error .missing
      | some (.file _) => .error .notDirectory
      | some .directory =>
          if name.utf8ByteSize > maxNameBytes then .error .nameTooLong
          else if name.isEmpty || name == "." then tree.walk place rest
          else if name == ".." then tree.walk place.tail rest
          else tree.walk (name :: place) rest

/-- The place that a path leads to, from the root if it begins with a slash and
else from the given place. -/
def resolve (tree : FileTree) (place : Place) (path : String) : Except ReadFault Place :=
  if path.isEmpty then .error .missing
  else if path.utf8ByteSize > maxPathBytes then .error .nameTooLong
  else tree.walk (if path.startsWith "/" then [] else place) (path.splitOn "/")

/-- Whether something is found at a place by a path that leads there.  A path that is too long
leads nowhere. -/
def finds (tree : FileTree) (place : Place) (path : String) : Bool :=
  path.utf8ByteSize ≤ maxPathBytes && (tree.entry? place).isSome

/-- The text of the file at a place. -/
def readText (tree : FileTree) (place : Place) : Except ReadFault String :=
  match tree.entry? place with
  | none => .error .missing
  | some .directory => .error .isDirectory
  | some (.file bytes) =>
      match Utf8.decode bytes with
      | .ok chars => .ok (String.ofList chars)
      | .error _ => .error .notText

end FileTree

/-- Why a file gives no settings. -/
inductive LoadFault
  | unreadable (path : String) (fault : ReadFault)
  | unusable (fault : ConfigFault)

/-- What the message of a load fault says.  What exactly is malformed is not
part of it. -/
def LoadFault.message : LoadFault → String
  | unreadable path fault => "Failed to read config " ++ path ++ ": " ++ fault.message
  | unusable .malformed => "Failed to parse config"
  | unusable (.invalid fault) => fault.message

namespace Config

/-- The name of the file that is searched for. -/
def fileName : String := ".dotbridge.toml"

/-- The path of a place, from the root. -/
def pathText (place : Place) : String :=
  String.join (place.reverse.map ("/" ++ ·))

/-- The settings in the file at a place, which messages call `path`. -/
def loadAt (tree : FileTree) (place : Place) (path : String) : Except LoadFault Settings :=
  match tree.readText place with
  | .error fault => .error (.unreadable path fault)
  | .ok text => (Settings.parse text).mapError .unusable

/-- The settings in the file that a path leads to. -/
def load (tree : FileTree) (place : Place) (path : String) : Except LoadFault Settings :=
  match tree.resolve place path with
  | .error fault => .error (.unreadable path fault)
  | .ok file => loadAt tree file path

/-- A file that was passed over in a search, and why. -/
structure PassedOver where
  path : String
  fault : LoadFault

/-- What a search came to. -/
structure Discovery where
  settings : Settings
  /-- The files passed over on the way, the nearest first. -/
  passedOver : List PassedOver

/-- Looks for settings in one directory: nothing there, a file that does not
load, or settings. -/
def lookIn (tree : FileTree) (directory : Place) : Option (Except PassedOver Settings) :=
  let file := fileName :: directory
  let path := pathText file
  if tree.finds file path then
    some ((loadAt tree file path).mapError fun fault => { path, fault })
  else none

/-- Searches from a directory upwards.  A file that does not load is passed
over, and without any that does the defaults hold. -/
def discover (tree : FileTree) : Place → Discovery
  | [] =>
      match lookIn tree [] with
      | some (.ok settings) => ⟨settings, []⟩
      | some (.error passed) => ⟨{}, [passed]⟩
      | none => ⟨{}, []⟩
  | name :: above =>
      match lookIn tree (name :: above) with
      | some (.ok settings) => ⟨settings, []⟩
      | some (.error passed) =>
          let further := discover tree above
          ⟨further.settings, passed :: further.passedOver⟩
      | none => discover tree above

end Config

end InteropBridge
