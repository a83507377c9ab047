/-!
# Help texts

What the program prints about itself.
-/

namespace InteropBridge.Command

/-- The name and version of the program. -/
def versionText : String := "dotbridge 0.1.0\n"

/-- What both help texts begin with. -/
def helpHead : String :=
  "Replay the managed test scenario against the native library\n\n" ++
  "Usage: dotbridge [OPTIONS]\n\nOptions:\n"

/-- The help text with one line for each option. -/
def shortHelp : String :=
  helpHead ++
  "      --config <CONFIG>          Configuration file (default: discover .dotbridge.toml)\n" ++
  "      --log-format <LOG_FORMAT>  Log output format [possible values: pretty, compact, json]\n" ++
  "  -v, --verbose                  Log at debug level\n" ++
  "      --stats                    Print interop statistics as JSON when done\n" ++
  "  -h, --help                     Print help (see more with '--help')\n" ++
  "  -V, --version                  Print version\n"

/-- The help text with a paragraph for each option. -/
def longHelp : String :=
  helpHead ++
  "      --config <CONFIG>\n" ++
  "          Configuration file (default: discover .dotbridge.toml)\n\n" ++
  "      --log-format <LOG_FORMAT>\n" ++
  "          Log output format\n\n" ++
  "          Possible values:\n" ++
  "          - pretty:  Human-readable format with timestamps\n" ++
  "          - compact: Compact single-line format\n" ++
  "          - json:    JSON format for structured logging\n\n" ++
  "  -v, --verbose\n" ++
  "          Log at debug level\n\n" ++
  "      --stats\n" ++
  "          Print interop statistics as JSON when done\n\n" ++
  "  -h, --help\n" ++
  "          Print help (see a summary with '-h')\n\n" ++
  "  -V, --version\n" ++
  "          Print version\n"

end InteropBridge.Command
