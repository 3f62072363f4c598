import RoutineAtlas.Configuration.Reading

/-
This file lists the commands of the command line and their options.
-/

namespace RoutineAtlas

/-- A command asks for one kind of answer. -/
inductive Subcommand where
  | routine
  | table
  | environments
  deriving DecidableEq, Repr

/-- These are all commands. -/
def Subcommand.all : List Subcommand :=
  [.routine, .table, .environments]

/-- This is how a command is typed. -/
def Subcommand.label : Subcommand → String
  | .routine => "routine"
  | .table => "table"
  | .environments => "env"

/-- This is the command of a name. -/
def Subcommand.named? (name : Bytes) : Option Subcommand :=
  Subcommand.all.find? fun command => utf8Bytes command.label == name

/-- A command says what it is good for. -/
def Subcommand.purpose : Subcommand → String
  | .routine => "Locate a routine and describe it"
  | .table => "List routines that use a table"
  | .environments => "Show configured environment roots"

/-- A command may take one operand, which has a name and a purpose. -/
def Subcommand.operand? : Subcommand → Option (String × String)
  | .routine => some ("NAME", "Routine name (e.g. U_PCMCTF43, pcmctf43.prw, MATA010)")
  | .table => some ("TABLE", "Table alias (e.g. SA1, PD3)")
  | .environments => none

/-- An option is a switch, or it takes a value. -/
inductive CommandOption where
  | environment
  | root
  | action
  | includeStandard
  | maxResults
  | discover
  | configuration
  | verbose
  | json
  | help
  | version
  deriving DecidableEq, Repr

/-- This is the long name of an option, which stands after two hyphens. -/
def CommandOption.long : CommandOption → String
  | .environment => "environment"
  | .root => "root"
  | .action => "action"
  | .includeStandard => "include-standard"
  | .maxResults => "max-results"
  | .discover => "discover"
  | .configuration => "config"
  | .verbose => "verbose"
  | .json => "json"
  | .help => "help"
  | .version => "version"

/-- This is the short name of an option, which stands after one hyphen. -/
def CommandOption.short? : CommandOption → Option Char
  | .environment => some 'e'
  | .root => some 'r'
  | .action => some 'a'
  | .maxResults => some 'n'
  | .configuration => some 'c'
  | .verbose => some 'v'
  | .help => some 'h'
  | .version => some 'V'
  | .includeStandard => none
  | .discover => none
  | .json => none

/-- This is what an option takes, if it takes a value. -/
def CommandOption.valueName? : CommandOption → Option String
  | .environment => some "ENVIRONMENT"
  | .root => some "ROOT"
  | .action => some "ACTION"
  | .maxResults => some "MAX_RESULTS"
  | .configuration => some "CONFIG"
  | .includeStandard => none
  | .discover => none
  | .verbose => none
  | .json => none
  | .help => none
  | .version => none

/-- Only the verbosity adds up. -/
def CommandOption.mayRepeat (option : CommandOption) : Bool :=
  option == .verbose

/-- A path is not empty, a cap is a count, and all else is any text. -/
def CommandOption.accepts (option : CommandOption) (value : Bytes) : Bool :=
  match option with
  | .root => value != []
  | .configuration => value != []
  | .maxResults => ((readUtf8 value).bind fun text => readCount text.toList).isSome
  | _ => (readUtf8 value).isSome

/-- An option says what it is good for. -/
def CommandOption.purpose : CommandOption → String
  | .environment =>
      "Environment (staging|hml, production|prod|prd, standard|vendor|padrao, auto) " ++
        "[default: auto]"
  | .root => "Search this directory instead of the environment's root"
  | .action =>
      "What to show (locate, structure, report, source, git_status) [default: locate]"
  | .includeStandard => "Include vendor-standard routines"
  | .maxResults =>
      "Maximum number of routines (defaults to the configured max-results)"
  | .discover => "Also run standard-prefix discovery and list what it learned"
  | .configuration =>
      "YAML configuration file (defaults to $SONDA_CONFIG, then built-in defaults)"
  | .verbose => "Verbose output (can be repeated: -v, -vv, -vvv)"
  | .json => "Print the JSON result envelope instead of formatted text"
  | .help => "Print help"
  | .version => "Print version"

/-- These options are allowed everywhere. -/
def commonOptions : List CommandOption :=
  [.configuration, .verbose, .json, .help, .version]

/-- These are the options of a command, or those that stand before any command. -/
def optionsAt : Option Subcommand → List CommandOption
  | none => commonOptions
  | some .routine => [.environment, .root, .action] ++ commonOptions
  | some .table => [.environment, .root, .includeStandard, .maxResults] ++ commonOptions
  | some .environments => [.discover] ++ commonOptions

end RoutineAtlas
