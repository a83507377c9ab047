import Mathlib.Init
import InteropBridge.Command.Run
import InteropBridge.Log.Line

/-!
# The program

Reads the files that a command line can need, runs the command, and writes what
it leaves behind.  The clock and the calendar that date the log files are those
of the standard library.
-/

namespace InteropBridge.Program

open Command

/-- The place of an absolute path. -/
def placeOf (path : String) : Place :=
  (path.splitOn "/").foldl
    (fun place name =>
      if name.isEmpty || name == "." then place
      else if name == ".." then place.tail
      else name :: place)
    []

/-- A place and every place above it. -/
def upwards : Place → List Place
  | [] => [[]]
  | name :: above => (name :: above) :: upwards above

/-- What stands at a place on the disk. -/
def probe (place : Place) : IO (List (Place × Entry)) := do
  try
    let bytes ← IO.FS.readBinFile (Config.pathText place)
    return [(place, .file bytes.data.toList)]
  catch
    | .noFileOrDirectory .. => return []
    | _ => return [(place, .directory)]

/-- The places where settings may stand: the file of the command line, and one
in each directory from the working directory upwards. -/
def candidates (directory : Place) (args : List String) : List Place :=
  match Command.read args with
  | .ok (.run { config := some path, .. }) =>
      let start := if path.startsWith "/" then "" else Config.pathText directory
      [placeOf (start ++ "/" ++ path)]
  | .ok (.run _) => (upwards directory).map (Config.fileName :: ·)
  | _ => []

/-- The date of the moment in universal time: year, month and day with hyphens between them. -/
def today : IO String := do
  let days := (← Std.Time.Timestamp.now).toDaysSinceUnixEpoch
  return (Std.Time.PlainDate.ofEpochDay days).toSQLDateString

/-- Writes the lines of the log to where they go.  A log in files has one file for each day, which
is carried on if it is there. -/
def writeLog (journal : Log.Journal) : IO Unit := do
  match journal.writer with
  | none => return ()
  | some writer =>
      let lines := journal.lines.map fun event => event.line writer.format ++ "\n"
      match writer.output with
      | .stdout => IO.print (String.join lines)
      | .stderr => IO.eprint (String.join lines)
      | .file directory stem =>
          let directory := if directory.isEmpty then "." else directory
          IO.FS.createDirAll directory
          let file ← IO.FS.Handle.mk (directory ++ "/" ++ stem ++ "." ++ (← today)) .append
          file.putStr (String.join lines)

/-- Runs the command and answers with its exit code. -/
def start (args : List String) : IO UInt32 := do
  let directory := placeOf (toString (← IO.currentDir))
  let entries ← (candidates directory args).mapM probe
  match Command.run { entries := entries.flatten } directory args with
  | .error fault =>
      IO.eprintln ("error: " ++ fault.message)
      return 2
  | .ok outcome =>
      IO.print outcome.stdout
      writeLog outcome.journal
      for error in outcome.errors do
        IO.eprintln error
      return outcome.code.toUInt32

end InteropBridge.Program

/-- Runs the command line of the process. -/
def main (args : List String) : IO UInt32 :=
  InteropBridge.Program.start args
