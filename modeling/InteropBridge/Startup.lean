import InteropBridge.Config.Files
import InteropBridge.Objects

/-!
# Starting and stopping

Starting the bridge puts settings in force and starts logging.  A process may
start it itself, from the settings it discovers, and then keeps the log writer
open until it cleans up.
-/

namespace InteropBridge.Startup

/-- The version that the bridge reports. -/
def version : String := "0.1.0"

/-- Starts logging and tells whether it was not running already. -/
def startLogging (plan : Log.Plan) : Native Bool := do
  let (started, journal) := (← get).process.journal.start plan
  Native.changeProcess fun process => { process with journal }
  return started

/-- Starts the bridge with given settings.  The answer tells whether a log
writer was made. -/
def start (settings : Settings) : Native Bool := do
  Native.install settings
  let started ← startLogging settings.logging.toPlan
  Native.emit (.initialized version)
  return started

/-- Discovers settings, reporting every file that was passed over. -/
def discover (files : FileTree) (directory : Place) : Native Settings := do
  let discovery := Config.discover files directory
  for passed in discovery.passedOver do
    Native.emit (.configIgnored passed.path passed.fault.message)
  return discovery.settings

/-- Lets go of the log writer that the process keeps open, if it keeps one. -/
def letGoOfWriter : Native Unit :=
  Native.changeProcess fun process =>
    if process.keepsWriter then
      { process with keepsWriter := false, journal := process.journal.close }
    else process

/-- Starts the bridge from the settings found from a directory upwards.  The
process keeps the writer this made, in the place of any it kept before. -/
def startFrom (files : FileTree) (directory : Place) : Native Unit := do
  let settings ← discover files directory
  let started ← start settings
  letGoOfWriter
  Native.changeProcess fun process => { process with keepsWriter := started }

/-- Ends every live handle and stops the log writer that the process keeps. -/
def cleanUp : Native Unit := do
  let _ ← Objects.shutdown
  letGoOfWriter

end InteropBridge.Startup
