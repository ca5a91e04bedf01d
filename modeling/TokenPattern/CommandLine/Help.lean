/-!
# Help

What can be asked about is a `HelpTopic`: the program as a whole, or one of its commands.
`helpLines` is the text on a topic, line by line.
-/

namespace TokenPattern.CommandLine

/-! ## Topics -/

/-- Help, for all commands or one of them. -/
inductive HelpTopic where
  | all
  | find
  | check
  | info
  /-- The command that prints help. -/
  | help

/-- The topic with a name. -/
def HelpTopic.ofName? : String → Option HelpTopic
  | "match" => some find
  | "check" => some check
  | "info" => some info
  | "help" => some help
  | _ => none

/-! ## Texts -/

/-- The line that shows how the program is called. -/
def usageLine : HelpTopic → String
  | .all => "Usage: tokre <COMMAND>"
  | .find => "Usage: tokre match [OPTIONS] <PATTERN> <INPUT>"
  | .check => "Usage: tokre check [OPTIONS] <PATTERN>"
  | .info => "Usage: tokre info"
  | .help => "Usage: tokre help [COMMAND]..."

/-- The lines of help on a topic. -/
def helpLines (topic : HelpTopic) : List String :=
  match topic with
  | .all =>
    ["Regular expressions over token sequences", "", usageLine topic, "",
      "Commands:",
      "  match  Print every way the input matches the pattern",
      "  check  Validate a pattern file",
      "  info   Print registered matcher type URLs",
      "  help   Print this message or the help of the given subcommand(s)", "",
      "Options:",
      "  -h, --help  Print help"]
  | .find =>
    ["Print every way the input matches the pattern", "", usageLine topic, "",
      "Arguments:",
      "  <PATTERN>  Pattern file (.json, or YAML otherwise)",
      "  <INPUT>    Input text", "",
      "Options:",
      "      --words                        " ++
        "Split the input on whitespace instead of into characters",
      "      --joined                       " ++
        "Print trails as joined strings instead of token lists",
      "      --max-frontier <MAX_FRONTIER>  " ++
        "Abort when more than this many partial matches are alive",
      "      --trace                        " ++
        "Print per-token frontier statistics instead of matches",
      "  -h, --help                         Print help"]
  | .check =>
    ["Validate a pattern file", "", usageLine topic, "",
      "Arguments:",
      "  <PATTERN>  Pattern file (.json, or YAML otherwise)", "",
      "Options:",
      "      --words  Load the pattern for word tokens instead of characters",
      "  -h, --help   Print help"]
  | .info =>
    ["Print registered matcher type URLs", "", usageLine topic, "",
      "Options:",
      "  -h, --help  Print help"]
  | .help =>
    ["Print this message or the help of the given subcommand(s)", "", usageLine topic, "",
      "Arguments:",
      "  [COMMAND]...  Print help for the subcommand(s)"]

end TokenPattern.CommandLine
