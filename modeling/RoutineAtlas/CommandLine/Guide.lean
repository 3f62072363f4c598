import RoutineAtlas.CommandLine.Arguments
import RoutineAtlas.CommandLine.Page

/-
This file writes the texts that explain the command line.
-/

namespace RoutineAtlas

/-- This is the name under which the program is called. -/
def programName : String := "sonda"

/-- This is the version that the program tells about itself. -/
def programVersion : String := "0.1.0"

/-- The version is told together with the name of the command. -/
def versionText (level : Option Subcommand) : String :=
  let name := match level with
    | none => programName
    | some command => programName ++ "-" ++ command.label
  name ++ " " ++ programVersion ++ "\n"

/-- This is how an option is typed. -/
def CommandOption.usage (option : CommandOption) : String :=
  let short := match option.short? with
    | some letter => String.ofList ['-', letter, ',', ' ']
    | none => "    "
  let value := match option.valueName? with
    | some name => " <" ++ name ++ ">"
    | none => if option.mayRepeat then "..." else ""
  short ++ "--" ++ option.long ++ value

/-- Names stand in a column, and what they are good for stands beside them. -/
def guideColumn (entries : List (String × String)) : Page :=
  let width := (entries.map fun entry => entry.1.length).foldl max 0
  entries.map fun (name, purpose) => [.plain ("  " ++ fillUp (width + 2) name ++ purpose)]

/-- The options of a level are explained. -/
def optionGuide (level : Option Subcommand) : Page :=
  [.plain "Options:"] ::
    guideColumn ((optionsAt level).map fun option => (option.usage, option.purpose))

/-- The general help lists the commands. -/
def generalGuide : Page :=
  [[.plain "Sonda: Routine and table locator for Protheus source trees"], [],
    [.plain ("Usage: " ++ programName ++ " [OPTIONS] <COMMAND>")], [], [.plain "Commands:"]] ++
  guideColumn (Subcommand.all.map (fun command => (command.label, command.purpose)) ++
    [("help", "Print this message or the help of the given subcommand(s)")]) ++
  [[]] ++ optionGuide none

/-- The help of a command explains its operand. -/
def Subcommand.guide (command : Subcommand) : Page :=
  let usage := "Usage: " ++ programName ++ " " ++ command.label ++ " [OPTIONS]"
  let (operand, arguments) : String × Page := match command.operand? with
    | some (name, purpose) =>
        (" <" ++ name ++ ">",
          [.plain "Arguments:"] :: guideColumn [("<" ++ name ++ ">", purpose)] ++ [[]])
    | none => ("", [])
  [[.plain command.purpose], [], [.plain (usage ++ operand)], []] ++ arguments ++
    optionGuide (some command)

/-- This is the help text of a level. -/
def helpText (level : Option Subcommand) : String :=
  Page.write false (match level with
    | none => generalGuide
    | some command => command.guide)

end RoutineAtlas
