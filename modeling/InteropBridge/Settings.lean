import InteropBridge.Log.Plan

/-!
# Settings

The settings of the bridge, with a default for each, and the rules that a
configuration has to meet: room for at least one live handle, and a level that
means something.
-/

namespace InteropBridge

/-- What happens when a handle is released a second time. -/
inductive ReleasePolicy
  /-- The second release fails. -/
  | report
  /-- The second release does nothing. -/
  | ignore
  deriving DecidableEq, Inhabited

namespace ReleasePolicy

/-- The name of the policy in configurations. -/
def name : ReleasePolicy → String
  | report => "report"
  | ignore => "ignore"

/-- The policy with exactly this name. -/
def ofName? (name : String) : Option ReleasePolicy :=
  [report, ignore].find? (·.name == name)

end ReleasePolicy

/-- Settings of the handle table. -/
structure HandleSettings where
  /-- The number of handles that may be live at once. -/
  maxLive : Nat := 1048576
  doubleRelease : ReleasePolicy := .report
  deriving DecidableEq

/-- Settings of the conversions at the boundary. -/
structure MarshalSettings where
  maxTextBytes : Nat := 16777216
  maxSequenceLength : Nat := 16777216
  deriving DecidableEq

/-- Settings of the log. -/
structure LogSettings where
  /-- The level as it was written. -/
  level : String := "info"
  format : Log.Format := .pretty
  /-- Directives beside the level. -/
  filter : Option String := none
  /-- The directory of log files; without one, lines go to standard error. -/
  directory : Option String := none
  spanEvents : Bool := false
  deriving DecidableEq

/-- The settings of the bridge. -/
structure Settings where
  handles : HandleSettings := {}
  marshal : MarshalSettings := {}
  logging : LogSettings := {}
  deriving DecidableEq

/-- A rule that a configuration breaks. -/
inductive SettingsFault
  | noRoomForHandles
  | unknownLevel (level : String)
  deriving DecidableEq

/-- What the message of a broken rule says. -/
def SettingsFault.message : SettingsFault → String
  | noRoomForHandles => "handles.max_live must be at least 1"
  | unknownLevel level => "Unknown log level '" ++ level ++ "'"

namespace LogSettings

/-- The name that log files begin with. -/
def fileStem : String := "dotbridge"

/-- What the settings ask of logging; a level without meaning counts as
info. -/
def toPlan (settings : LogSettings) : Log.Plan where
  level := (Log.Level.ofText? settings.level).getD .info
  format := settings.format
  output := settings.directory.elim .stderr fun directory => .file directory fileStem
  spanEvents := settings.spanEvents
  filter := settings.filter

end LogSettings

namespace Settings

/-- Checks the rules, the number of live handles before the level. -/
def validate (settings : Settings) : Except SettingsFault Settings :=
  if settings.handles.maxLive = 0 then .error .noRoomForHandles
  else if (Log.Level.ofText? settings.logging.level).isNone then
    .error (.unknownLevel settings.logging.level)
  else .ok settings

end Settings

end InteropBridge
