/-
Module: Bytemark.CommandLine.Arguments
Purpose: Reading the arguments of the program.
Trusted boundary: none
Main exports: Command, Invocation, UsageError, Refusal, Argument, Collecting, Invocation.ofArguments
-/
import Bytemark.CommandLine.Switch

namespace Bytemark

/-!
Arguments are read from left to right.  A switch can stand anywhere behind its
command, the shared ones also in front of it, and each of them once on either
side.  Two dashes alone end the switches.  The first argument that is wrong, or
that asks for help, decides.
-/

/-- A command with all it was given. -/
inductive Command where
  | detect (file : String)
  | cat (file : String)
  | lines (file : String) (number : Bool)
  | count (file : String) (grep : Option String)
  | page (file : String) (offset size : Int) (grep : Option String) (json : Bool)
  | tail (file : String) (last : Nat) (grep : Option String)
  | write (file : String) (append : Bool) (encoding : Option Encoding) (text : List String)
deriving Repr, Inhabited, DecidableEq

/-- The file of a command. -/
def Command.file : Command → String
  | detect file => file
  | cat file => file
  | lines file _ => file
  | count file _ => file
  | page file _ _ _ _ => file
  | tail file _ _ => file
  | write file _ _ _ => file

/-- What the program was asked to do. -/
structure Invocation where
  /-- The configuration file, if it is not to be searched for. -/
  config : Option String
  /-- An encoding that goes before the one of the configuration. -/
  defaultEncoding : Option Encoding
  command : Command
deriving Repr, Inhabited, DecidableEq

/-- Why arguments have no meaning. -/
inductive UsageError where
  | noCommand
  | unknownCommand (word : String)
  | unknownSwitch (argument : String)
  | missingValue (switch : Switch)
  | unwantedValue (switch : Switch)
  | invalidValue (switch : Switch) (value : String)
  | repeated (switch : Switch)
  | emptyFile
  | missingOperand (command : CommandName)
  | unexpectedOperand (argument : String)
deriving Repr, Inhabited, DecidableEq

/-- The wording of an error. -/
def UsageError.message : UsageError → String
  | noCommand => "a command is required"
  | unknownCommand word => s!"unknown command '{word}'"
  | unknownSwitch argument => s!"unexpected argument '{argument}'"
  | missingValue switch => s!"a value is required for '--{switch.long}'"
  | unwantedValue switch => s!"'--{switch.long}' takes no value"
  | invalidValue switch value => s!"invalid value '{value}' for '--{switch.long}'"
  | repeated switch => s!"'--{switch.long}' cannot be used more than once"
  | emptyFile => "the name of the file is empty"
  | missingOperand command => s!"'{command.label}' needs more arguments"
  | unexpectedOperand argument => s!"unexpected argument '{argument}'"

/-- Why arguments lead to no command. -/
inductive Refusal where
  | usage (reason : UsageError)
  /-- Help was asked for. -/
  | help
  /-- The version was asked for. -/
  | version
deriving Repr, Inhabited, DecidableEq

/-- The shapes of arguments. -/
inductive Argument where
  /-- Two dashes alone. -/
  | stop
  | long (name : String) (value : Option String)
  | short (letters : List Char)
  | plain
deriving Repr, Inhabited, DecidableEq

/-- The shape of an argument.  A single dash is a plain one. -/
def Argument.ofText (text : String) : Argument :=
  match text.toList with
  | ['-', '-'] => .stop
  | '-' :: '-' :: rest =>
      let (name, value) := rest.span (· != '=')
      .long (String.ofList name)
        (if value.isEmpty then none else some (String.ofList (value.drop 1)))
  | '-' :: c :: rest => .short (c :: rest)
  | _ => .plain

/-- Whether an argument is a number with a minus sign. -/
def isNegativeNumber (text : String) : Bool :=
  match text.toList with
  | '-' :: digits => !digits.isEmpty && digits.all Char.isDigit
  | _ => false

/-- Arguments as far as they were read. -/
structure Collecting where
  /-- The command, once its name was read. -/
  command : Option CommandName
  choices : List Choice := []
  /-- Arguments that are no switches, last first. -/
  operands : List String := []
  /-- A switch whose value comes next. -/
  pending : Option Switch := none
  /-- Whether the switches have ended. -/
  stopped : Bool := false
deriving Repr, Inhabited, DecidableEq

namespace Collecting

/-- The switches that can be used here. -/
def switches (state : Collecting) : List Switch :=
  match state.command with
  | some command => Switch.ofCommand command
  | none => Switch.shared

/-- Adds a choice; a switch can be used once. -/
def choose (state : Collecting) (choice : Choice) : Except Refusal Collecting :=
  if state.choices.any fun other => other.switch == choice.switch then
    .error (.usage (.repeated choice.switch))
  else .ok { state with choices := choice :: state.choices, pending := none }

/-- Gives a switch its value. -/
def give (state : Collecting) (switch : Switch) (value : String) :
    Except Refusal Collecting :=
  match switch.read value with
  | some choice => state.choose choice
  | none => .error (.usage (.invalidValue switch value))

/-- Adds an argument that is no switch: a file, and texts where they are
wanted. -/
def addOperand (state : Collecting) (argument : String) : Except Refusal Collecting :=
  match state.command, state.operands with
  | none, _ => .error (.usage (.unexpectedOperand argument))
  | some _, [] =>
      if argument.isEmpty then .error (.usage .emptyFile)
      else .ok { state with operands := [argument] }
  | some .write, operands => .ok { state with operands := argument :: operands }
  | some _, _ => .error (.usage (.unexpectedOperand argument))

/-- Reads a name behind two dashes. -/
def takeLong (state : Collecting) (name : String) (value : Option String) :
    Except Refusal Collecting :=
  match state.switches.find? fun switch => switch.long == name with
  | some switch =>
      match switch.choice?, value with
      | some choice, none => state.choose choice
      | some _, some _ => .error (.usage (.unwantedValue switch))
      | none, some value => state.give switch value
      | none, none => .ok { state with pending := some switch }
  | none =>
      if name == "help" && value.isNone then .error .help
      else if name == "version" && value.isNone && state.command.isNone then .error .version
      else .error (.usage (.unknownSwitch ("--" ++ name)))

/-- Reads the letters behind one dash.  What follows the letter of a switch
with a value is the value. -/
def takeShort (state : Collecting) : List Char → Except Refusal Collecting
  | [] => .ok state
  | c :: rest =>
      match state.switches.find? fun switch => switch.short? == some c with
      | some switch =>
          match switch.choice? with
          | some choice => do
              let state ← state.choose choice
              state.takeShort rest
          | none =>
              match rest with
              | [] => .ok { state with pending := some switch }
              | '=' :: value => state.give switch (String.ofList value)
              | value => state.give switch (String.ofList value)
      | none =>
          if c == 'h' then .error .help
          else if c == 'V' && state.command.isNone then .error .version
          else .error (.usage (.unknownSwitch ("-" ++ c.toString)))

/-- Reads one argument. -/
def take (state : Collecting) (argument : String) : Except Refusal Collecting :=
  if state.stopped then state.addOperand argument
  else
    match state.pending with
    | some switch =>
        let fits :=
          Argument.ofText argument == .plain ||
            (switch.takesNegative && isNegativeNumber argument)
        if fits then state.give switch argument
        else .error (.usage (.missingValue switch))
    | none =>
        match Argument.ofText argument with
        | .stop => .ok { state with stopped := true }
        | .long name value => state.takeLong name value
        | .short letters => state.takeShort letters
        | .plain => state.addOperand argument

/-- Whether the next argument is the name of a command. -/
def awaitsCommand (state : Collecting) : Bool :=
  state.command.isNone && state.pending.isNone && !state.stopped

/-- The command that was collected. -/
def toCommand (state : Collecting) (name : CommandName) : Except Refusal Command :=
  let choices := state.choices
  let grep := choices.findSome? fun choice => match choice with
    | .grep sought => some sought
    | _ => none
  match state.operands.reverse with
  | [] => .error (.usage (.missingOperand name))
  | file :: text =>
      match name with
      | .detect => .ok (.detect file)
      | .cat => .ok (.cat file)
      | .lines => .ok (.lines file (choices.contains .number))
      | .count => .ok (.count file grep)
      | .page =>
          let offset := choices.findSome? fun choice => match choice with
            | .offset lines => some lines
            | _ => none
          let size := choices.findSome? fun choice => match choice with
            | .size lines => some lines
            | _ => none
          .ok (.page file (offset.getD 0) (size.getD 20) grep (choices.contains .json))
      | .tail =>
          let last := choices.findSome? fun choice => match choice with
            | .last lines => some lines
            | _ => none
          .ok (.tail file (last.getD 10) grep)
      | .write =>
          let encoding := choices.findSome? fun choice => match choice with
            | .encoding encoding => some encoding
            | _ => none
          if text.isEmpty then .error (.usage (.missingOperand name))
          else .ok (.write file (choices.contains .append) encoding text)

/-- The invocation that was collected.  Switches in front of the command give
way to the same ones behind it. -/
def toInvocation (state : Collecting) (inFront : List Choice) (name : CommandName) :
    Except Refusal Invocation := do
  if let some switch := state.pending then
    .error (.usage (.missingValue switch))
  let command ← state.toCommand name
  let choices := state.choices ++ inFront
  let config := choices.findSome? fun choice => match choice with
    | .config path => some path
    | _ => none
  let defaultEncoding := choices.findSome? fun choice => match choice with
    | .defaultEncoding encoding => some encoding
    | _ => none
  .ok { config, defaultEncoding, command }

end Collecting

namespace Invocation

/-- The command that asks for help, possibly on one of the others. -/
def helpWord : String := "help"

/-- Reads the arguments behind the word `help`. -/
def ofHelpArguments : List String → Refusal
  | [] => .help
  | [topic] =>
      if topic == helpWord || (CommandName.ofLabel topic).isSome then .help
      else .usage (.unknownCommand topic)
  | _ :: extra :: _ => .usage (.unknownCommand extra)

/-- Reads arguments up to the name of the command, and all behind it. -/
def readFrom (state : Collecting) : List String → Except Refusal Invocation
  | [] =>
      match state.pending with
      | some switch => .error (.usage (.missingValue switch))
      | none => .error (.usage .noCommand)
  | argument :: rest =>
      if state.awaitsCommand && Argument.ofText argument == .plain then
        match CommandName.ofLabel argument with
        | some name => do
            let inside : Collecting := { command := some name }
            let inside ← rest.foldlM Collecting.take inside
            inside.toInvocation state.choices name
        | none =>
            if argument == helpWord then .error (ofHelpArguments rest)
            else .error (.usage (.unknownCommand argument))
      else do
        let state ← state.take argument
        readFrom state rest

/-- Reads all arguments. -/
def ofArguments (arguments : List String) : Except Refusal Invocation :=
  readFrom { command := none } arguments

end Invocation

end Bytemark
