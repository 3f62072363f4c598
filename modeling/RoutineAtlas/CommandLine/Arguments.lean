import RoutineAtlas.CommandLine.Option

/-
This file reads the arguments of the command line, which are bytes. They are taken one by one from
the left. What stands before the command is read on its own, and so is what stands after it.
-/

namespace RoutineAtlas

/-- Reading ends early when the arguments ask for a text, or when they are refused. -/
inductive ArgumentStop where
  | help (level : Option Subcommand)
  | version (level : Option Subcommand)
  | refused
  deriving DecidableEq, Repr

/-- These are the options and operands so far. An option may wait for its value, and the value of
the last option may not have been examined yet. -/
structure ArgumentReading where
  options : List (CommandOption × Bytes)
  operands : List Bytes
  waiting : Option CommandOption
  unexamined : Option (CommandOption × Bytes)
  isLiteral : Bool
  deriving DecidableEq, Repr

/-- Nothing has been read at first. -/
def ArgumentReading.start : ArgumentReading where
  options := []
  operands := []
  waiting := none
  unexamined := none
  isLiteral := false

/-- An option is given once, with a value that it accepts. -/
def ArgumentReading.give (reading : ArgumentReading) (option : CommandOption) (value : Bytes) :
    Except ArgumentStop ArgumentReading :=
  if (reading.options.lookup option).isSome && !option.mayRepeat then .error .refused
  else if !option.accepts value then .error .refused
  else .ok { reading with options := reading.options ++ [(option, value)] }

/-- An operand, which is text, and a value that stands by itself are examined only before the next
option, or at the end. -/
def ArgumentReading.examine (reading : ArgumentReading) : Except ArgumentStop ArgumentReading :=
  if reading.operands.any fun operand => (readUtf8 operand).isNone then .error .refused
  else match reading.unexamined with
  | some (option, value) => ({ reading with unexamined := none }).give option value
  | none => .ok reading

/-- No option can follow one that waits for its value. -/
def ArgumentReading.ready (reading : ArgumentReading) : Except ArgumentStop ArgumentReading :=
  if reading.waiting.isSome then .error .refused else reading.examine

/-- A switch is on, or it asks for a text. -/
def ArgumentReading.switchOn (reading : ArgumentReading) (level : Option Subcommand)
    (option : CommandOption) : Except ArgumentStop ArgumentReading :=
  match option with
  | .help => .error (.help level)
  | .version => .error (.version level)
  | _ => reading.give option []

/-- This byte stands before the name of an option. -/
def hyphenByte : UInt8 := 45

/-- This byte stands between the name of an option and its value. -/
def equalsByte : UInt8 := 61

/-- Short options can stand together, and the rest of them is a value where one is taken. -/
def ArgumentReading.takeShort (level : Option Subcommand) :
    ArgumentReading → Bytes → Except ArgumentStop ArgumentReading
  | reading, [] => .ok reading
  | reading, letter :: rest => do
      let current ← reading.ready
      match (optionsAt level).find? fun option =>
          option.short?.any fun sign => sign.toNat == letter.toNat with
      | none => .error .refused
      | some option =>
          if option.valueName?.isSome then
            if rest.isEmpty then .ok { current with waiting := some option }
            else current.give option (if rest.head? = some equalsByte then rest.drop 1 else rest)
          else
            let next ← current.switchOn level option
            next.takeShort level rest

/-- The name of a long option ends at an equals sign, behind which there is a value. -/
def splitLong (text : Bytes) : Bytes × Option Bytes :=
  match text.dropWhile (· != equalsByte) with
  | [] => (text, none)
  | _ :: value => (text.takeWhile (· != equalsByte), some value)

/-- A long option takes the value behind its name, or waits for one. -/
def ArgumentReading.takeLong (reading : ArgumentReading) (level : Option Subcommand)
    (text : Bytes) : Except ArgumentStop ArgumentReading := do
  let current ← reading.ready
  let (name, value) := splitLong text
  match (optionsAt level).find? fun option => utf8Bytes option.long == name with
  | none => .error .refused
  | some option =>
      match option.valueName?.isSome, value with
      | true, some given => current.give option given
      | true, none => .ok { current with waiting := some option }
      | false, none => current.switchOn level option
      | false, some _ => .error .refused

/-- This many operands can be given. -/
def operandRoom : Option Subcommand → Nat
  | none => 0
  | some command => command.operand?.toList.length

/-- An operand is kept where there is room for it. -/
def ArgumentReading.takeOperand (reading : ArgumentReading) (level : Option Subcommand)
    (value : Bytes) : Except ArgumentStop ArgumentReading :=
  if reading.operands.length < operandRoom level then
    .ok { reading with operands := reading.operands ++ [value] }
  else .error .refused

/-- An argument is an option, the value of one that waits, or an operand. -/
def ArgumentReading.take (level : Option Subcommand) (reading : ArgumentReading)
    (argument : Bytes) : Except ArgumentStop ArgumentReading :=
  if reading.isLiteral then reading.takeOperand level argument
  else if argument = [hyphenByte, hyphenByte] then .ok { reading with isLiteral := true }
  else if [hyphenByte, hyphenByte].isPrefixOf argument then
    reading.takeLong level (argument.drop 2)
  else if [hyphenByte].isPrefixOf argument && argument != [hyphenByte] then
    reading.takeShort level (argument.drop 1)
  else match reading.waiting with
    | some option => .ok { reading with waiting := none, unexamined := some (option, argument) }
    | none => reading.takeOperand level argument

/-- The arguments have come to their end, where no option waits and no operand is missing. -/
def ArgumentReading.finish (reading : ArgumentReading) (level : Option Subcommand) :
    Except ArgumentStop ArgumentReading :=
  if reading.waiting.isSome || reading.operands.length < operandRoom level then .error .refused
  else reading.examine

/-- The name of a command can stand where no option waits for its value. -/
def ArgumentReading.command? (reading : ArgumentReading) (argument : Bytes) :
    Option Subcommand :=
  if reading.isLiteral || reading.waiting.isSome then none else Subcommand.named? argument

/-- These arguments ask for the help of a command, or for the general help. -/
def helpTopic : List Bytes → ArgumentStop
  | [] => .help none
  | [name] =>
      match Subcommand.named? name with
      | some command => .help (some command)
      | none => if name = utf8Bytes "help" then .help none else .refused
  | _ => .refused

/-- What stands before the command, the command, and what stands behind it. -/
def splitCommand : ArgumentReading → List Bytes →
    Except ArgumentStop (ArgumentReading × Subcommand × List Bytes)
  | _, [] => .error .refused
  | reading, argument :: rest =>
      match reading.command? argument with
      | some command => .ok (reading, command, rest)
      | none =>
          if argument = utf8Bytes "help" && !reading.isLiteral && reading.waiting.isNone then
            .error (helpTopic rest)
          else match reading.take none argument with
            | .ok next => splitCommand next rest
            | .error stop => .error stop

/-- A command comes with what it needs. -/
inductive CommandRequest where
  | routine (name environment : String) (root : Option PathName) (action : String)
  | table (table environment : String) (root : Option PathName) (includeStandard : Bool)
      (maxResults : Option Nat)
  | environments (discover : Bool)
  deriving DecidableEq, Repr

/-- This is the root that a command names. -/
def CommandRequest.root? : CommandRequest → Option PathName
  | .routine _ _ root _ => root
  | .table _ _ root _ _ => root
  | .environments _ => none

/-- An invocation says what to do, with which configuration, and how to show the answer. -/
structure Invocation where
  configuration : Option PathName
  isJson : Bool
  request : CommandRequest
  deriving DecidableEq, Repr

/-- This is the value of an option that takes text. -/
def ArgumentReading.textOf (reading : ArgumentReading) (option : CommandOption) :
    Option String :=
  (reading.options.lookup option).bind readUtf8

/-- The request of a command is made from its options and operands. -/
def ArgumentReading.request (reading : ArgumentReading) (command : Subcommand) :
    CommandRequest :=
  let operand := (reading.operands.head?.bind readUtf8).getD ""
  let environment := (reading.textOf .environment).getD "auto"
  let root := reading.options.lookup .root
  match command with
  | .routine => .routine operand environment root ((reading.textOf .action).getD "locate")
  | .table =>
      .table operand environment root (reading.options.lookup .includeStandard).isSome
        ((reading.textOf .maxResults).bind fun value => readCount value.toList)
  | .environments => .environments (reading.options.lookup .discover).isSome

/-- What a command says about a common option wins over what was said before the command. What
stands last before the command is examined after the command has been read. -/
def Invocation.read (arguments : List Bytes) : Except ArgumentStop Invocation := do
  let (reading, command, rest) ← splitCommand .start arguments
  let inner ← rest.foldlM (ArgumentReading.take (some command)) .start
  let behind ← inner.finish (some command)
  let before ← reading.examine
  pure {
    configuration :=
      (behind.options.lookup .configuration).or (before.options.lookup .configuration)
    isJson := (behind.options.lookup .json).isSome || (before.options.lookup .json).isSome
    request := behind.request command }

end RoutineAtlas
