import HostMetrics.Daemon.Options
import HostMetrics.Text.Terminal

/-!
# Help and usage faults in words

A fault quotes the argument that it is about, and an argument can hold
anything. So the report of a fault is only what its words and the hint
behind them show. The hint emphasises an option, and the sequence for that
also ends one that the argument left open.
-/

namespace HostMetrics.Daemon

open Text

/-- The help text. -/
def helpText : String := "\n".intercalate [
  "System metrics exporter daemon",
  "",
  "Usage: hoststatd [OPTIONS]",
  "",
  "Options:",
  "  -i, --interval <INTERVAL>    Export interval in seconds [default: 10]",
  "      --proc-path <PROC_PATH>  Path to /proc filesystem [default: /proc]",
  "  -c, --config <FILE>          JSON file replacing the built-in metric catalog",
  "  -l, --label <KEY=VALUE>      Label added to every measurement (repeatable)",
  "      --once                   Collect a single tick and exit",
  "  -v, --verbose...             Increase logging verbosity",
  "  -q, --quiet                  Quiet mode - only show errors",
  "  -h, --help                   Print help",
  "  -V, --version                Print version",
  ""]

/-- How an option is written. -/
def OptionName.text : OptionName → String
  | .setting .interval => "--interval <INTERVAL>"
  | .setting .procPath => "--proc-path <PROC_PATH>"
  | .setting .config => "--config <FILE>"
  | .setting .label => "--label <KEY=VALUE>"
  | .switch .once => "--once"
  | .switch .verbose => "--verbose"
  | .switch .quiet => "--quiet"
  | .switch .help => "--help"
  | .switch .version => "--version"

/-- The words for a fault. -/
def UsageFault.message : UsageFault → String
  | .unexpectedArgument argument => "unexpected argument '" ++ argument ++ "' found"
  | .unexpectedValue argument => "unexpected value in '" ++ argument ++ "'"
  | .missingValue setting =>
    "a value is required for '" ++ (OptionName.setting setting).text ++ "' but none was supplied"
  | .repeated option => "the argument '" ++ option.text ++ "' cannot be used multiple times"
  | .badInterval value =>
    "invalid value '" ++ value ++ "' for '" ++ (OptionName.setting .interval).text ++ "'"
  | .emptyPath => "a value is required for '" ++ (OptionName.setting .config).text ++ "'"
  | .badLabel fault => fault.message

/-- Words that a terminal is to emphasise. -/
def emphasised (words : String) : String := "\x1b[1m" ++ words ++ "\x1b[0m"

/-- The hint behind the words for a fault. -/
def usageHint : String := "\n\nFor more information, try '" ++ emphasised "--help" ++ "'.\n"

/-- What is shown of the words for a fault and the hint. -/
def UsageFault.explanation (fault : UsageFault) : String := plainText (fault.message ++ usageHint)

/-- The first line of it, which says what is wrong. -/
def UsageFault.headline (fault : UsageFault) : String := firstLine fault.explanation

/-- What is written about a fault. -/
def UsageFault.report (fault : UsageFault) : String := "error: " ++ fault.explanation

end HostMetrics.Daemon
