import InteropBridge.Log.Plan

/-!
# The command line

Options are read from left to right.  Asking for help or the version ends the
reading, and so does the first fault; no option may be given twice.
-/

namespace InteropBridge.Command

/-- The options of a run. -/
structure Options where
  /-- The configuration file, instead of a search for one. -/
  config : Option String := none
  /-- The log format, instead of the configured one. -/
  logFormat : Option Log.Format := none
  /-- Whether to log at debug level. -/
  verbose : Bool := false
  /-- Whether to print the counters at the end. -/
  stats : Bool := false
  deriving DecidableEq

/-- What a command line asks for. -/
inductive Request
  /-- Help, in the short or the long form. -/
  | help (long : Bool)
  | version
  | run (options : Options)
  deriving DecidableEq

/-- Why a command line means nothing. -/
inductive UsageFault
  | unexpected (arg : String)
  | repeated (option : String)
  | missingValue (option : String)
  | unexpectedValue (option : String)
  | invalidValue (option value : String)
  deriving DecidableEq

/-- What the message of a usage fault says. -/
def UsageFault.message : UsageFault → String
  | unexpected arg => "unexpected argument '" ++ arg ++ "' found"
  | repeated option => "the argument '" ++ option ++ "' cannot be used multiple times"
  | missingValue option => "a value is required for '" ++ option ++ "' but none was supplied"
  | unexpectedValue option => "unexpected value for '" ++ option ++ "' found; no more were expected"
  | invalidValue option value => "invalid value '" ++ value ++ "' for '" ++ option ++ "'"

namespace Options

def setVerbose (options : Options) : Except UsageFault Options :=
  if options.verbose then .error (.repeated "--verbose")
  else .ok { options with verbose := true }

def setStats (options : Options) : Except UsageFault Options :=
  if options.stats then .error (.repeated "--stats")
  else .ok { options with stats := true }

def setConfig (options : Options) (path : String) : Except UsageFault Options :=
  if options.config.isSome then .error (.repeated "--config")
  else if path.isEmpty then .error (.missingValue "--config")
  else .ok { options with config := some path }

def setLogFormat (options : Options) (name : String) : Except UsageFault Options :=
  if options.logFormat.isSome then .error (.repeated "--log-format")
  else match Log.Format.ofName? name with
    | some format => .ok { options with logFormat := some format }
    | none => .error (.invalidValue "--log-format" name)

end Options

/-- Options that take a value. -/
inductive ValueOption
  | config
  | logFormat

namespace ValueOption

def text : ValueOption → String
  | config => "--config"
  | logFormat => "--log-format"

/-- Sets the option to a value. -/
def set (option : ValueOption) (options : Options) (value : String) : Except UsageFault Options :=
  match option with
  | config => options.setConfig value
  | logFormat => options.setLogFormat value

end ValueOption

/-- Whether an argument that follows an option is its value and not another
option. -/
def isValue (arg : String) : Bool :=
  arg == "-" || arg.toList.head? != some '-'

/-- Reads one-letter options, several of which may share a dash. -/
def readLetters (options : Options) : List Char → Except UsageFault (Options ⊕ Request)
  | [] => .ok (.inl options)
  | 'v' :: rest => do readLetters (← options.setVerbose) rest
  | 'h' :: _ => .ok (.inr (.help false))
  | 'V' :: _ => .ok (.inr .version)
  | letter :: _ => .error (.unexpected ("-" ++ letter.toString))

/-- How reading goes on after an argument. -/
inductive Reading
  /-- Nothing that follows is read. -/
  | done (request : Request)
  /-- Reading goes on, after the next argument if that one was a value. -/
  | more (options : Options) (tookNext : Bool)

/-- Sets an option to the value that is attached to it, or else to the next
argument. -/
def readValue (options : Options) (option : ValueOption) (attached? next? : Option String) :
    Except UsageFault Reading :=
  match attached?, next? with
  | some value, _ => (.more · false) <$> option.set options value
  | none, some value =>
      if isValue value then (.more · true) <$> option.set options value
      else .error (.missingValue option.text)
  | none, none => .error (.missingValue option.text)

/-- Reads an option that is spelled out, perhaps with a value attached to it by
an equals sign. -/
def readLong (options : Options) (name : String) (attached? next? : Option String) :
    Except UsageFault Reading :=
  match name, attached? with
  | "--config", _ => readValue options .config attached? next?
  | "--log-format", _ => readValue options .logFormat attached? next?
  | "--help", none => .ok (.done (.help true))
  | "--version", none => .ok (.done .version)
  | "--verbose", none => (.more · false) <$> options.setVerbose
  | "--stats", none => (.more · false) <$> options.setStats
  | "--help", some _ | "--version", some _ | "--verbose", some _ | "--stats", some _ =>
      .error (.unexpectedValue name)
  | _, _ => .error (.unexpected name)

/-- Reads an argument with a look at the next one.  After two dashes nothing
else may come. -/
def readArg (options : Options) (arg : String) (next? : Option String) :
    Except UsageFault Reading :=
  match arg.toList with
  | ['-', '-'] =>
      match next? with
      | none => .ok (.done (.run options))
      | some extra => .error (.unexpected extra)
  | '-' :: '-' :: _ =>
      readLong options (String.ofList (arg.toList.takeWhile (· != '=')))
        ((arg.toList.dropWhile (· != '=')).tail?.map String.ofList) next?
  | '-' :: letter :: letters => do
      match ← readLetters options (letter :: letters) with
      | .inl options => return .more options false
      | .inr request => return .done request
  | _ => .error (.unexpected arg)

/-- Reads the arguments from left to right. -/
def readArgs (options : Options) : List String → Except UsageFault Request
  | [] => .ok (.run options)
  | [arg] => do
      match ← readArg options arg none with
      | .done request => return request
      | .more options _ => return .run options
  | arg :: next :: rest => do
      match ← readArg options arg (some next) with
      | .done request => return request
      | .more options false => readArgs options (next :: rest)
      | .more options true => readArgs options rest

/-- What a command line asks for. -/
def read (args : List String) : Except UsageFault Request :=
  readArgs {} args

end InteropBridge.Command
