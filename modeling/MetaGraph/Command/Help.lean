/-
What the program tells about itself.
-/

namespace MetaGraph.Command

/-- What can be asked about. -/
inductive Topic where
  | program
  | run
  | models
  | help
deriving DecidableEq, Repr

/-- The texts as lines, each with its end. -/
def lines (items : List String) : String := String.join (items.map (· ++ "\n"))

/-- The name of the program and its version. -/
def versionText : String := lines ["databuilder 0.4.0"]

/-- Help on a topic. -/
def Topic.text : Topic → String
  | .program => lines [
      "Command line runner for databuilder jobs",
      "",
      "Usage: databuilder [OPTIONS] <COMMAND>",
      "",
      "Commands:",
      "  run     Run the job described by a TOML file",
      "  models  List the registered model names",
      "  help    Print this message or the help of the given subcommand(s)",
      "",
      "Options:",
      "  -v, --verbose...  Increase verbosity (-v, -vv, -vvv)",
      "  -q, --quiet       Suppress non-essential output",
      "      --log-file    Also write JSON logs to the user data directory",
      "  -h, --help        Print help",
      "  -V, --version     Print version"]
  | .run => lines [
      "Run the job described by a TOML file",
      "",
      "Usage: databuilder run [OPTIONS] <JOB>",
      "",
      "Arguments:",
      "  <JOB>  Job file; `DATABUILDER_*` environment variables override its values",
      "",
      "Options:",
      "      --identifier <IDENTIFIER>  Override `job.identifier`",
      "  -v, --verbose...               Increase verbosity (-v, -vv, -vvv)",
      "  -q, --quiet                    Suppress non-essential output",
      "      --log-file                 Also write JSON logs to the user data directory",
      "  -h, --help                     Print help"]
  | .models => lines [
      "List the registered model names",
      "",
      "Usage: databuilder models [OPTIONS]",
      "",
      "Options:",
      "  -v, --verbose...  Increase verbosity (-v, -vv, -vvv)",
      "  -q, --quiet       Suppress non-essential output",
      "      --log-file    Also write JSON logs to the user data directory",
      "  -h, --help        Print help"]
  | .help => lines [
      "Print this message or the help of the given subcommand(s)",
      "",
      "Usage: databuilder help [COMMAND]...",
      "",
      "Arguments:",
      "  [COMMAND]...  Print help for the subcommand(s)"]

end MetaGraph.Command
