import Courier.Address.Reader
import Courier.Host.Acceptor
import Courier.Settings.Document

/-!
# The command line

Arguments are read from left to right. The first that asks for help, or that cannot be used, decides
what becomes of the whole line; an option is given once, with its value behind it or after an equals
sign.
-/

namespace Courier.Daemon

/-- What help is given on. -/
inductive Topic
  | program
  | serve
  | help
deriving DecidableEq, Repr

/-- An option that has a value. -/
inductive Flag
  | config
  | listen
deriving DecidableEq, Repr

/-- What the daemon serves with. -/
structure Options where
  /-- The file that settings are read from. -/
  config : Option String := none
  /-- Where to listen, whatever the settings say. -/
  listen : Option SocketAddress := none
deriving DecidableEq, Repr

inductive Command
  | explain (topic : Topic)
  | serve (options : Options)
deriving DecidableEq, Repr

/-- Why a command line cannot be used. -/
inductive UsageError
  | commandMissing
  | commandUnknown (name : String)
  | unexpected (argument : String)
  | valueMissing (flag : Flag)
  | repeated (flag : Flag)
  | notAnAddress (text : String)
deriving DecidableEq, Repr

namespace Flag

def name : Flag → String
  | config => "config"
  | listen => "listen"

def ofName? (name : String) : Option Flag := [config, listen].find? (·.name = name)

end Flag

namespace Topic

/-- The subcommands, each of which is a topic. -/
def ofName? : String → Option Topic
  | "serve" => some serve
  | "help" => some help
  | _ => none

def text : Topic → String
  | program => "Usage: ferryd <serve | help>"
  | serve => "Usage: ferryd serve [--config <FILE>] [--listen <ADDRESS>]"
  | help => "Usage: ferryd help [serve]"

end Topic

namespace UsageError

def message : UsageError → String
  | commandMissing => Topic.program.text
  | commandUnknown name => s!"unknown command: {name}"
  | unexpected argument => s!"unexpected argument: {argument}"
  | valueMissing flag => s!"no value for --{flag.name}"
  | repeated flag => s!"--{flag.name} is given twice"
  | notAnAddress text => s!"not an address: {text}"

end UsageError

/-- The shapes of an argument. -/
inductive Argument
  /-- Two hyphens: no option follows. -/
  | terminator
  /-- An option with a long name, and a value after an equals sign. -/
  | long (name : String) (value : Option String)
  /-- Options with names of one letter. -/
  | short (first : Char) (rest : List Char)
  | word (text : String)
deriving DecidableEq, Repr

namespace Argument

def ofString (text : String) : Argument :=
  match text.toList with
  | ['-', '-'] => terminator
  | '-' :: '-' :: chars =>
    let value := match chars.dropWhile (· ≠ '=') with
      | _ :: value => some (String.ofList value)
      | [] => none
    long (String.ofList (chars.takeWhile (· ≠ '='))) value
  | '-' :: first :: rest => short first rest
  | _ => word text

/-- Whether the argument asks for help; behind the letter for it others are not looked at. -/
def asksForHelp : Argument → Bool
  | long "help" none => true
  | short 'h' _ => true
  | _ => false

end Argument

namespace Options

/-- The options with one more. -/
def add (options : Options) : Flag → String → Except UsageError Options
  | .config, value =>
    if options.config.isSome then .error (.repeated .config)
    else if value = "" then .error (.valueMissing .config)
    else .ok { options with config := some value }
  | .listen, value =>
    if options.listen.isSome then .error (.repeated .listen)
    else match SocketAddress.parse? value.toList with
      | some address => .ok { options with listen := some address }
      | none => .error (.notAnAddress value)

/-- The settings that result from the options and the contents of the file that they name. -/
def settings (options : Options) (contents : Except Fault Bytes) :
    Except Settings.Failure Settings :=
  let found := if options.config.isSome then Settings.ofFile contents else .ok {}
  found.map fun settings => { settings with listen := options.listen.getD settings.listen }

end Options

namespace Command

/-- Reads what follows the name of the command that serves. -/
def ofServe (options : Options) : List String → Except UsageError Command
  | [] => .ok (serve options)
  | text :: rest =>
    let argument := Argument.ofString text
    if argument.asksForHelp then .ok (explain .serve)
    else match argument with
      | .terminator =>
        match rest with
        | [] => .ok (serve options)
        | extra :: _ => .error (.unexpected extra)
      | .long name value =>
        match Flag.ofName? name, value, rest with
        | none, _, _ => .error (.unexpected text)
        | some flag, some value, rest =>
          match options.add flag value with
          | .ok options => ofServe options rest
          | .error e => .error e
        | some flag, none, value :: rest =>
          match Argument.ofString value with
          | .word value =>
            match options.add flag value with
            | .ok options => ofServe options rest
            | .error e => .error e
          | _ => .error (.valueMissing flag)
        | some flag, none, [] => .error (.valueMissing flag)
      | _ => .error (.unexpected text)

/-- Reads what follows the name of the command that helps. -/
def ofHelp : List String → Except UsageError Command
  | [] => .ok (explain .program)
  | name :: rest =>
    match Topic.ofName? name, rest with
    | some topic, [] => .ok (explain topic)
    | some _, extra :: _ => .error (.commandUnknown extra)
    | none, _ => .error (.commandUnknown name)

def parse : List String → Except UsageError Command
  | [] => .error .commandMissing
  | "serve" :: rest => ofServe {} rest
  | "help" :: rest => ofHelp rest
  | text :: _ =>
    let argument := Argument.ofString text
    if argument.asksForHelp then .ok (explain .program)
    else match argument with
      | .word name => .error (.commandUnknown name)
      | _ => .error (.unexpected text)

end Command

/-- What ends the daemon early. -/
inductive Failure
  | usage (error : UsageError)
  | settings (failure : Settings.Failure)
  | server (failure : ServerFailure)
deriving DecidableEq, Repr

namespace Failure

def exitCode : Failure → UInt32
  | usage _ => 2
  | settings _ | server _ => 1

/-- What is printed about a failure. -/
def message : Failure → String
  | usage error => "error: " ++ error.message
  | settings failure => "Error: " ++ failure.message
  | server failure => "Error: " ++ failure.message

end Failure

end Courier.Daemon
