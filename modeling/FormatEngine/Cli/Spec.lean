/-!
# The commands and their options

The program has three commands, `demo`, `render` and `verify`, and a `help` command. Each
command's options take one value each, written `--name value` or `--name=value`; `--arg` may
be given many times, `--precision` takes an unsigned number, and the paths of `verify` cannot
be empty. Every command also knows
`-h` and `--help`. Each command has its help text and its usage line; the usage line of an
error names the required options and those already given, and a command's options together
also form one set of alternatives that some usage lines show.
-/
namespace FormatEngine.Cli

def binName : String := "bumpfmt-harness"

/-- What an option's value must be: any text, an unsigned number, or a path, which cannot be
empty. -/
inductive ValueKind where
  | text
  | count
  | path
deriving DecidableEq, Inhabited

/-- An option and the value it takes. -/
structure OptionSpec where
  long : String
  valueName : String
  required : Bool := false
  repeatable : Bool := false
  kind : ValueKind := .text
deriving DecidableEq, Inhabited

/-- How an option is shown in messages: `--name <VALUE>`, or `--name` for a flag. -/
def OptionSpec.display (o : OptionSpec) : String :=
  if o.valueName.isEmpty then "--" ++ o.long else "--" ++ o.long ++ " <" ++ o.valueName ++ ">"

def helpFlag : OptionSpec := ⟨"help", "", false, false, .text⟩

/-- A command: its name, options, help text and usage line. -/
structure CommandSpec where
  name : String
  options : List OptionSpec
  help : String
  usage : String
deriving Inhabited

def demoSpec : CommandSpec where
  name := "demo"
  options := [⟨"width", "WIDTH", false, false, .text⟩, ⟨"float", "FLOAT", false, false, .text⟩]
  help := "Print the demonstration sequence to stdout\n\nUsage: bumpfmt-harness demo [OPTIONS]\n\n" ++
    "Options:\n      --width <WIDTH>  Width policy (`apply` or `ignore`); defaults to BUMPFMT_WIDTH\n" ++
    "      --float <FLOAT>  Float style (`reference` or `padded`); defaults to BUMPFMT_FLOAT\n" ++
    "  -h, --help           Print help\n"
  usage := "bumpfmt-harness demo [OPTIONS]"

def renderSpec : CommandSpec where
  name := "render"
  options := [⟨"template", "TEMPLATE", true, false, .text⟩, ⟨"arg", "ARGS", false, true, .text⟩,
    ⟨"width", "WIDTH", false, false, .text⟩, ⟨"float", "FLOAT", false, false, .text⟩,
    ⟨"precision", "PRECISION", false, false, .count⟩]
  help := "Format one template and print the result to stdout\n\n" ++
    "Usage: bumpfmt-harness render [OPTIONS] --template <TEMPLATE>\n\nOptions:\n" ++
    "      --template <TEMPLATE>    Template text\n" ++
    "      --arg <ARGS>             Argument as `kind:value` (int, uint, double, str, char, ptr); repeatable\n" ++
    "      --width <WIDTH>          \n      --float <FLOAT>          \n" ++
    "      --precision <PRECISION>  `%f` decimals (0-9)\n  -h, --help                   Print help\n"
  usage := "bumpfmt-harness render [OPTIONS] --template <TEMPLATE>"

def verifySpec : CommandSpec where
  name := "verify"
  options := [⟨"fixture", "FIXTURE", true, false, .path⟩, ⟨"log", "LOG", false, false, .path⟩]
  help := "Verify the engine against fixture files\n\n" ++
    "Usage: bumpfmt-harness verify [OPTIONS] --fixture <FIXTURE>\n\nOptions:\n" ++
    "      --fixture <FIXTURE>  Fixture JSON file, or a directory of them\n" ++
    "      --log <LOG>          Structured JSONL log output path\n" ++
    "  -h, --help               Print help\n"
  usage := "bumpfmt-harness verify [OPTIONS] --fixture <FIXTURE>"

/-- The commands, in the order help lists them. -/
def commands : List CommandSpec := [demoSpec, renderSpec, verifySpec]

/-- The names a mistyped command is matched against. -/
def commandNames : List String := ["demo", "render", "verify", "help"]

def topHelp : String :=
  "Conformance testing harness for bumpfmt\n\nUsage: bumpfmt-harness <COMMAND>\n\nCommands:\n" ++
  "  demo    Print the demonstration sequence to stdout\n" ++
  "  render  Format one template and print the result to stdout\n" ++
  "  verify  Verify the engine against fixture files\n" ++
  "  help    Print this message or the help of the given subcommand(s)\n\n" ++
  "Options:\n  -h, --help  Print help\n"

def topUsage : String := "bumpfmt-harness <COMMAND>"

def helpHelp : String :=
  "Print this message or the help of the given subcommand(s)\n\n" ++
  "Usage: bumpfmt-harness help [COMMAND]...\n\nArguments:\n" ++
  "  [COMMAND]...  Print help for the subcommand(s)\n"

end FormatEngine.Cli
