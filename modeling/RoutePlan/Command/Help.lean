import RoutePlan.Command.Arguments

/-! # Help texts -/

namespace RoutePlan

def helpLine : String := "  -h, --help  Print help\n"

def helpForAll : String := String.join [
  "Compile declarative route definitions into a route table\n\n",
  "Usage: routedraw <COMMAND>\n\n",
  "Commands:\n",
  "  draw   Compile a definition document and print every route\n",
  "  check  Compile a definition document and report the route count\n",
  "  help   Print this message or the help of the given subcommand(s)\n\n",
  "Options:\n", helpLine]

def helpForHelp : String := String.join [
  "Print this message or the help of the given subcommand(s)\n\n",
  "Usage: routedraw help [COMMAND]\n"]

def helpForCheck : String := String.join [
  "Compile a definition document and report the route count\n\n",
  "Usage: routedraw check --file <FILE>\n\n",
  "Options:\n",
  "  -f, --file <FILE>  Path to the route definition document (YAML or JSON)\n",
  "  -h, --help         Print help\n"]

def helpForDraw (long : Bool) : String := String.join [
  "Compile a definition document and print every route\n\n",
  "Usage: routedraw draw [OPTIONS] --file <FILE>\n\n",
  "Options:\n",
  if long then String.join [
    "  -f, --file <FILE>\n",
    "          Path to the route definition document (YAML or JSON)\n\n",
    "      --format <FORMAT>\n",
    "          Output format\n\n",
    "          Possible values:\n",
    "          - table: One `METHOD /path -> handler` line per route\n",
    "          - json:  A JSON array of route objects\n",
    "          \n",
    "          [default: table]\n\n",
    "  -h, --help\n",
    "          Print help (see a summary with '-h')\n"]
  else String.join [
    "  -f, --file <FILE>      Path to the route definition document (YAML or JSON)\n",
    "      --format <FORMAT>  Output format [default: table] [possible values: table, json]\n",
    "  -h, --help             Print help (see more with '--help')\n"]]

def Topic.text (topic : Topic) (long : Bool) : String :=
  match topic with
  | .all => helpForAll
  | .draw => helpForDraw long
  | .check => helpForCheck
  | .help => helpForHelp

/-- What is wrong with a command line, in a sentence. -/
def UsageFault.message : UsageFault → String
  | .help topic long => topic.text long
  | .noCommand => helpForAll
  | .unknownCommand => "error: unrecognized subcommand\n"
  | .unknownArgument => "error: unexpected argument found\n"
  | .invalidValue => "error: invalid value for an option\n"
  | .repeatedOption => "error: an option cannot be used multiple times\n"
  | .unwantedValue => "error: unexpected value for '--help'\n"
  | .noFile => "error: the following required arguments were not provided: --file <FILE>\n"

end RoutePlan
