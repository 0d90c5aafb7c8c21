/-
**Arguments of the command line.**

Switches that every command knows may stand before the command or after it, the others only after
the command they belong to. A switch is spelled out after two dashes, or by its letter after one,
where several letters may share the dash. A value follows as the next argument or, after the name
and an equals sign or right after the letter, within the same one. `Invocation.read` reads all
arguments or says how they are misused.

A value that follows as the next argument is looked at only when the next switch or the end is
reached, so an unknown switch behind it is reported first.
-/

import FirmwareTables.Identifier.Signature

namespace FirmwareTables.CommandLine

/-- How arguments are misused, or what they ask for in place of a command. -/
inductive Misuse where
  /-- There are no arguments. -/
  | nothing
  /-- The usage is asked for. -/
  | help
  /-- The version is asked for. -/
  | version
  /-- There is no command. -/
  | noCommand
  /-- There is no such command. -/
  | unknownCommand
  /-- There is no such switch, or an argument has no place. -/
  | unknownArgument
  /-- A switch is given twice. -/
  | repeated
  /-- A value is lacking or none of those possible. -/
  | invalidValue
  /-- A value cannot be read. -/
  | unreadableValue
  /-- A switch that has no value is given one. -/
  | surplusValue
  /-- A switch that has to be given is not. -/
  | required
  deriving DecidableEq

/-- The words for misused arguments. -/
def Misuse.message : Misuse → String
  | nothing => "a command is needed"
  | help => "commands: dump, names, generators, build"
  | version => "version 0.1.0"
  | noCommand => "a command is needed after the switches"
  | unknownCommand => "there is no such command"
  | unknownArgument => "unexpected argument"
  | repeated => "a switch is given more than once"
  | invalidValue => "a value is lacking or not possible"
  | unreadableValue => "a value cannot be read"
  | surplusValue => "a switch without value is given one"
  | required => "the platform has to be given"

/-- How commands print. -/
inductive Format where
  /-- Lines to be read. -/
  | text
  /-- One JSON value. -/
  | json
  deriving DecidableEq

/-- The format with a name. -/
def Format.ofName? (name : String) : Option Format :=
  if name == "text" then some text else if name == "json" then some json else none

/-- What a switch is for. -/
inductive Switch where
  /-- More messages. -/
  | verbose
  /-- How to print. -/
  | format
  /-- The usage. -/
  | help
  /-- The version. -/
  | version
  /-- The file of the description. -/
  | platform
  /-- Also objects without instances. -/
  | all
  /-- The directory for tables. -/
  | out
  /-- The tables to build. -/
  | signature
  deriving DecidableEq

namespace Switch

/-- The name of a switch. -/
def name : Switch → String
  | verbose => "verbose"
  | format => "format"
  | help => "help"
  | version => "version"
  | platform => "platform"
  | all => "all"
  | out => "out"
  | signature => "signature"

/-- The letter of a switch. -/
def letter? : Switch → Option Char
  | verbose => some 'v'
  | format => none
  | help => some 'h'
  | version => some 'V'
  | platform => some 'p'
  | all => some 'a'
  | out => some 'o'
  | signature => some 's'

/-- Whether a switch has a value. -/
def takesValue : Switch → Bool
  | format | platform | out | signature => true
  | _ => false

end Switch

/-- The commands by name. -/
inductive Verb where
  /-- Shows how many objects there are. -/
  | dump
  /-- Shows the names of objects. -/
  | names
  /-- Shows the generators. -/
  | generators
  /-- Builds tables. -/
  | build
  deriving DecidableEq

/-- The command with a name. -/
def Verb.ofName? (name : String) : Option Verb :=
  if name == "dump" then some dump
  else if name == "names" then some names
  else if name == "generators" then some generators
  else if name == "build" then some build
  else none

/-- The switches known before the command, or after it. -/
def switches : Option Verb → List Switch
  | none => [.verbose, .format, .help, .version]
  | some .dump => [.platform, .all, .verbose, .format, .help]
  | some .build => [.platform, .out, .signature, .verbose, .format, .help]
  | some _ => [.verbose, .format, .help]

/-- A command with what it needs. -/
inductive Command where
  /-- Shows how many objects a description provides. -/
  | dump (platform : String) (all : Bool)
  /-- Shows the names of objects. -/
  | names
  /-- Shows the generators. -/
  | generators
  /-- Builds the tables of a description. -/
  | build (platform : String) (out : Option String) (signature : Option Signature)
  deriving DecidableEq

/-- The switches given so far. -/
structure Given where
  /-- The switches. -/
  seen : List Switch
  /-- How to print. -/
  format : Option Format
  /-- The file of the description. -/
  platform : Option String
  /-- The directory for tables. -/
  out : Option String
  /-- The tables to build. -/
  signature : Option Signature

namespace Given

/-- Nothing is given. -/
def empty : Given := ⟨[], none, none, none, none⟩

/-- Takes the value of a switch. -/
def putValue (given : Given) (switch : Switch) (value : String) : Except Misuse Given :=
  match switch with
  | .format =>
    match Format.ofName? value with
    | some format => .ok { given with format := some format }
    | none => .error .invalidValue
  | .signature =>
    match Signature.read value with
    | .ok signature => .ok { given with signature := some signature }
    | .error _ => .error .unreadableValue
  | .platform =>
    if value.isEmpty then .error .invalidValue else .ok { given with platform := some value }
  | .out => if value.isEmpty then .error .invalidValue else .ok { given with out := some value }
  | _ => .ok given

/-- Takes a switch. -/
def put (given : Given) (switch : Switch) (value : Option String) : Except Misuse Given :=
  if switch = .help then .error .help
  else if switch = .version then .error .version
  else if switch.takesValue && value.isNone then .error .invalidValue
  else if given.seen.contains switch then .error .repeated
  else { given with seen := switch :: given.seen }.putValue switch (value.getD "")

/-- The command that switches are given for. -/
def command (given : Given) (verb : Verb) : Except Misuse Command :=
  match verb, given.platform with
  | .names, _ => .ok .names
  | .generators, _ => .ok .generators
  | .dump, some platform => .ok (.dump platform (given.seen.contains .all))
  | .build, some platform => .ok (.build platform given.out given.signature)
  | _, none => .error .required

end Given

/-- How far the arguments are read. -/
structure State where
  /-- The switches that are taken. -/
  given : Given
  /-- A switch that is not taken yet, with its value if that was read. -/
  pending : Option (Switch × Option String)

namespace State

/-- Nothing is read. -/
def start : State := ⟨.empty, none⟩

/-- Whether the next argument may be the value of a switch. -/
def awaits (state : State) : Bool :=
  match state.pending with
  | some (_, none) => true
  | _ => false

/-- Takes the switch that is pending. -/
def settle (state : State) : Except Misuse Given :=
  match state.pending with
  | some (switch, value) => state.given.put switch value
  | none => .ok state.given

/-- Reads a switch with the value in the same argument, if there is one. -/
def enter (state : State) (switch : Switch) (value : Option String) : Except Misuse State := do
  let given ← state.settle
  if switch.takesValue && value.isNone then return ⟨given, some (switch, none)⟩
  else return ⟨← given.put switch value, none⟩

/-- Reads a switch by its name. -/
def enterName (state : State) (known : List Switch) (spelled : List Char) :
    Except Misuse State :=
  let name := spelled.takeWhile (· != '=')
  let value := match spelled.dropWhile (· != '=') with
    | [] => none
    | _ :: value => some (String.ofList value)
  match known.find? fun switch => switch.name == String.ofList name with
  | none => .error .unknownArgument
  | some switch =>
    if value.isSome && !switch.takesValue then .error .surplusValue
    else state.enter switch value

/-- Reads switches by their letters. -/
def enterLetters (known : List Switch) : List Char → State → Except Misuse State
  | [], state => .ok state
  | letter :: rest, state =>
    match known.find? fun switch => switch.letter? == some letter with
    | none => .error .unknownArgument
    | some switch =>
      if switch.takesValue then
        state.enter switch (match rest with
          | [] => none
          | '=' :: value => some (String.ofList value)
          | value => some (String.ofList value))
      else do enterLetters known rest (← state.enter switch none)

end State

/-- What is wrong with an argument that is no switch, no command and no value. -/
def misplaced (verb : Option Verb) (afterDashes : Bool) (argument : String) : Misuse :=
  if verb.isSome then .unknownArgument
  else if afterDashes && (argument == "help" || (Verb.ofName? argument).isSome) then
    .unknownArgument
  else .unknownCommand

/-- What comes of asking for the usage of a command. -/
def helpOn : List String → Misuse
  | [] => .help
  | [name] => if name == "help" || (Verb.ofName? name).isSome then .help else .unknownCommand
  | _ => .unknownCommand

/-- Reads the arguments before the command, or after it. -/
def readArguments (verb : Option Verb) :
    (afterDashes : Bool) → State → List String → Except Misuse (Given × Command)
  | _, state, [] => do
    let given ← state.settle
    match verb with
    | some verb => return (given, ← given.command verb)
    | none => throw (if given.seen.isEmpty then .nothing else .noCommand)
  | true, _, argument :: _ => .error (misplaced verb true argument)
  | false, state, argument :: rest => do
    if verb.isNone && !state.awaits && argument == "help" then throw (helpOn rest)
    match if verb.isNone && !state.awaits then Verb.ofName? argument else none with
    | some inner =>
      let (given, command) ← readArguments (some inner) false .start rest
      let outer ← state.settle
      return ({ given with format := given.format <|> outer.format }, command)
    | none =>
      match argument.toList with
      | ['-', '-'] => readArguments verb true state rest
      | '-' :: '-' :: spelled =>
        readArguments verb false (← state.enterName (switches verb) spelled) rest
      | '-' :: letter :: letters =>
        let state ← State.enterLetters (switches verb) (letter :: letters) state
        readArguments verb false state rest
      | _ =>
        match state.pending with
        | some (switch, none) =>
          readArguments verb false { state with pending := some (switch, some argument) } rest
        | _ => throw (misplaced verb false argument)

/-- A command and how it prints. -/
structure Invocation where
  /-- The command. -/
  command : Command
  /-- How it prints. -/
  format : Format
  deriving DecidableEq

/-- Reads the arguments of the command line. -/
def Invocation.read (arguments : List String) : Except Misuse Invocation := do
  let (given, command) ← readArguments none false .start arguments
  return ⟨command, given.format.getD .text⟩

end FirmwareTables.CommandLine
