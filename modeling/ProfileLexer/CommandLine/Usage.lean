import ProfileLexer.CommandLine.Options
import ProfileLexer.Limits

/-!
What the program answers when the arguments name no command that can be run.
-/

namespace ProfileLexer.CommandLine

def usage : String :=
  Text.lines [
    "Profile-driven tokenizer with chunked parallel classification",
    "",
    "Usage: turing-lex [--quiet] <command>",
    "",
    "Commands:",
    "  tokenize <file>    Turn a file, or the standard input for -, into tokens",
    "    -p, --profile <name>       A built-in profile",
    "        --profile-file <file>  A profile in a TOML file",
    "    -w, --workers <number>     The number of workers",
    "        --policy <policy>      What a failed chunk does to the run: abort or degrade",
    "        --cross-check          Replay every verdict through the automaton",
    "    -f, --format <format>      text or json",
    "    -m, --metrics              Show how the run went",
    "  benchmark <file>   Compare several numbers of workers",
    "    -p, --profile <name>       A built-in profile",
    "        --profile-file <file>  A profile in a TOML file",
    "    -w, --workers <numbers>    The numbers of workers, between commas",
    "        --json                 Print the report as JSON",
    "  profiles [name]    List the built-in profiles, or write one as TOML",
    "  info               Tell about the program",
    "        --json                 Print the report as JSON",
    "",
    "Options:",
    "  -q, --quiet    Log warnings and errors only",
    "  -h, --help     Print help",
    "  -V, --version  Print the version"]

namespace UsageError

/-- Whether the arguments ask for the answer, so that it is no complaint. -/
def isRequest : UsageError → Bool
  | help | version => true
  | _ => false

def answer : UsageError → String
  | help | noArguments => usage
  | version => "turing-lex " ++ Limits.version
  | noCommand => "error: a command is missing"
  | unknownCommand => "error: there is no such command"
  | unknownArgument => "error: unexpected argument"
  | missingArgument => "error: a required argument is missing"
  | conflict => "error: these arguments can not be used together"
  | invalidValue => "error: a value is missing or not a possible one"
  | unreadableValue => "error: a value can not be read"
  | unneededValue => "error: an option takes no value"

end UsageError

end ProfileLexer.CommandLine
