import InteropBridge.Command.Line
import InteropBridge.Command.Help
import InteropBridge.Command.Scenario
import InteropBridge.Startup

/-!
# Running the command

The command starts the bridge, runs the scenario and shuts the bridge down.
Its exit code is 0 if all went well and nothing leaked, 1 if not, and 2 if it
could not begin.
-/

namespace InteropBridge.Command

/-- What a run of the command leaves behind. -/
structure Outcome where
  code : Nat
  stdout : String := ""
  /-- Error messages of the program itself. -/
  errors : List String := []
  journal : Log.Journal := {}

/-- The settings after the options of the command line. -/
def Options.apply (options : Options) (settings : Settings) : Settings :=
  { settings with
    logging := { settings.logging with
      format := options.logFormat.getD settings.logging.format
      level := if options.verbose then "debug" else settings.logging.level } }

/-- The counters as they are printed. -/
def statsText (tally : Tally) : String :=
  "\x7b\n" ++
  "  \"calls_made\": " ++ toString tally.callsMade ++ ",\n" ++
  "  \"marshaling_errors\": " ++ toString tally.marshalErrors ++ ",\n" ++
  "  \"handles_allocated\": " ++ toString tally.handlesAllocated ++ ",\n" ++
  "  \"handles_released\": " ++ toString tally.handlesReleased ++ ",\n" ++
  "  \"handles_live\": " ++ toString tally.handlesLive ++ "\n" ++
  "\x7d"

/-- What the program prints in front of an error. -/
def errorLine (message : String) : String :=
  "Error: " ++ message

/-- Runs the scenario between start and shutdown and answers with the exit code
and the error, if there was one. -/
def perform (settings : Settings) (stats : Bool) : Native (Nat × List String) := do
  let _ ← Startup.start settings
  let outcome ← scenario.run
  let leaked ← Objects.shutdown
  if stats then say (statsText (← get).process.tally)
  match outcome with
  | .ok () => return (if leaked > 0 then 1 else 0, [])
  | .error error =>
      Native.emit (.scenarioFailed error.message)
      return (1, [errorLine error.message])

/-- Runs the command in a fresh process. -/
def runOptions (files : FileTree) (directory : Place) (options : Options) : Outcome :=
  let loaded := match options.config with
    | some path => Config.load files directory path
    | none => .ok (Config.discover files directory).settings
  match loaded with
  | .error fault => { code := 2, errors := [errorLine fault.message] }
  | .ok settings =>
      let ((code, errors), context) := (perform (options.apply settings) options.stats).run {}
      { code, stdout := context.process.stdout, errors, journal := context.process.journal }

/-- Runs a command line. -/
def run (files : FileTree) (directory : Place) (args : List String) :
    Except UsageFault Outcome := do
  match ← read args with
  | .help long => return { code := 0, stdout := if long then longHelp else shortHelp }
  | .version => return { code := 0, stdout := versionText }
  | .run options => return runOptions files directory options

end InteropBridge.Command
