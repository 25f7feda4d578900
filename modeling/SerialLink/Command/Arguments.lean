import SerialLink.Command.Values
import SerialLink.Line.Config

/-!
# Commands

The commands with their arguments, read from the words of a command line.
-/

namespace SerialLink

open Words

/-- Where a link comes from and what is set for its line. -/
structure LinkArguments where
  device : Option String := none
  socket : Option String := none
  config : Option String := none
  baudRate : Option UInt32 := none
  dataBits : Option Line.DataBits := none
  parity : Option Line.Parity := none
  stopBits : Option Line.StopBits := none
  flowControl : Option Line.FlowControl := none
  deriving DecidableEq, Repr

/-- What is to be done. -/
inductive Command where
  | listen (link : LinkArguments) (count : Option Nat) (idleTimeout : Option Nat)
  | decode (file : String) (series strict : Bool)
  | encode (out : Option String) (append : Bool) (noise : Nat) (message : Message)
  | simulate (link : LinkArguments) (interval : Nat) (count : Option Nat)
  | version (extended : Bool)
  deriving DecidableEq

/-- A command and the format of its output, if one was asked for. -/
structure Invocation where
  command : Command
  format : Option Format
  deriving DecidableEq

namespace CommandLine

/-- The arguments that every level takes. -/
def shared : List Argument := [
  .of "format" format,
  .of "log-format" (oneOf [("text", ()), ("json", ())]),
  .of "log-level" (oneOf [("error", ()), ("warn", ()), ("info", ()), ("debug", ()), ("trace", ())])]

/-- The options of a link. -/
def linkOptions : List Argument := [
  .of "socket" path, .of "config" path,
  { Argument.of "baud" baudRate with fallback := some "BUSPLOT_BAUD" },
  .of "data-bits" (setting Line.DataBits.read), .of "parity" (setting Line.Parity.read),
  .of "stop-bits" (setting Line.StopBits.read), .of "flow-control" (setting Line.FlowControl.read)]

/-- The device of a link. -/
def device : Argument :=
  { Argument.of "device" path with fallback := some "BUSPLOT_DEVICE" }

/-- A count as large as a word of the machine. -/
def count : ValueOf Nat := natural (UInt64.size - 1)

/-- The level above all commands. -/
def top : Level where
  options := shared
  subcommands := ["listen", "decode", "encode", "simulate", "version", "help"]
  hasVersion := true

/-- The level of `listen`. -/
def listen : Level where
  options := shared ++ linkOptions ++ [.of "count" count, .of "idle-timeout-ms" count]
  positionals := [device]

/-- The level of `decode`. -/
def decode : Level where
  options := shared ++ [.flag "series", .flag "strict"]
  positionals := [.of "file" path]

/-- The level of `encode`. -/
def encode : Level where
  options := shared ++ [.of "out" path, .flag "append", .of "garbage" count]
  subcommands := ["alias", "update", "remove", "apply", "help"]

/-- The level of `simulate`. -/
def simulate : Level where
  options := shared ++ linkOptions ++ [.of "interval-ms" count, .of "count" count]
  positionals := [device]

/-- The level of `version`. -/
def version : Level where
  options := shared ++ [.flag "extended"]

/-- The level of a message to encode. -/
def messageLevel : MessageKind → Level
  | .label => { options := shared, positionals := [.of "id" variableId, .of "text" text] }
  | .update =>
    { options := shared
      positionals := [.of "id" variableId, { Argument.of "value" number with hyphens := .numbers }] }
  | .remove => { options := shared, positionals := [.of "id" variableId] }
  | .apply =>
    let term (name : String) : Argument :=
      { Argument.of name (explained ControlTerm.read) with hyphens := .all }
    { options := shared ++ [term "p", term "i", term "d"] }

/-- The link of some arguments; a device may be left out only where there is a socket or a
configuration. -/
def linkOf (given : Given) : Except Fault LinkArguments :=
  let link : LinkArguments := {
    device := value? given "device" path
    socket := value? given "socket" path
    config := value? given "config" path
    baudRate := value? given "baud" baudRate
    dataBits := value? given "data-bits" (setting Line.DataBits.read)
    parity := value? given "parity" (setting Line.Parity.read)
    stopBits := value? given "stop-bits" (setting Line.StopBits.read)
    flowControl := value? given "flow-control" (setting Line.FlowControl.read) }
  if link.device.isNone && link.socket.isNone && link.config.isNone then
    .error .missingRequiredArgument
  else .ok link

/-- The message of a kind from its arguments. -/
def messageOf (kind : MessageKind) (given : Given) : Except Fault Message := do
  match kind with
  | .label => return .label (← required given "id" variableId) (.ofText (← required given "text" text))
  | .update => return .update (← required given "id" variableId) (← required given "value" number)
  | .remove => return .remove (← required given "id" variableId)
  | .apply =>
    let term (name : String) := required given name (explained ControlTerm.read)
    return .apply (← term "p") (← term "i") (← term "d")

/-- What a level gives and the format asked for at it or below, of which the lower one counts. -/
abbrev Parsed (α : Type) := α × Option Format

/-- Reads a level without subcommands. -/
def readLevel {α : Type} (environment : Given) (level : Level) (build : Given → Except Fault α)
    (words : List String) : Except Stop (Parsed α) := do
  let (progress, _) ← level.takeAll {} words
  let given ← (level.finish environment progress).mapError .refused
  let value ← (build given).mapError .refused
  return (value, value? given "format" format)

/-- Reads a level that ends in a subcommand, which is read first. -/
def readBranch {α β : Type} (environment : Given) (level : Level)
    (branch : String → List String → Except Stop (Parsed α)) (build : Given → α → Except Fault β)
    (words : List String) : Except Stop (Parsed β) := do
  let (progress, rest) ← level.takeAll {} words
  match rest with
  | none =>
    let _ ← (level.finish environment progress).mapError Stop.refused
    .error (.refused .noSubcommand)
  | some (name, words) =>
    let (inner, lower) ← branch name words
    let given ← (level.finish environment progress).mapError .refused
    let value ← (build given inner).mapError .refused
    return (value, lower.or (value? given "format" format))

/-- The subcommands of the level that a word names. -/
def subcommandsOf (name : String) : List String :=
  if name = "encode" then encode.subcommands else []

/-- What comes of the words behind `help` at a level with these subcommands: each must name a
subcommand of the level before. -/
def helpOn (subcommands : List String) : List String → Stop
  | [] => .help
  | name :: words =>
    if name ∈ subcommands then helpOn (subcommandsOf name) words else .refused .noSubcommand

/-- The kind of message that a word of `encode` names. -/
def kindOf? (name : String) : Option MessageKind :=
  [("alias", MessageKind.label), ("update", .update), ("remove", .remove), ("apply", .apply)].lookup name

/-- Reads the message of `encode`. -/
def readMessage (environment : Given) (name : String) (words : List String) :
    Except Stop (Parsed Message) :=
  match kindOf? name with
  | some kind => readLevel environment (messageLevel kind) (messageOf kind) words
  | none => .error (helpOn encode.subcommands words)

/-- Reads a command. -/
def readCommand (environment : Given) (name : String) (words : List String) :
    Except Stop (Parsed Command) :=
  if name = "listen" then
    readLevel environment listen (fun given => do
      let link ← linkOf given
      return .listen link (value? given "count" count) (value? given "idle-timeout-ms" count)) words
  else if name = "decode" then
    readLevel environment decode (fun given => do
      let file ← required given "file" path
      return .decode file (isGiven given "series") (isGiven given "strict")) words
  else if name = "encode" then
    readBranch environment encode (readMessage environment) (fun given message =>
      let out := value? given "out" path
      let append := isGiven given "append"
      if append && out.isNone then .error .missingRequiredArgument
      else .ok (.encode out append ((value? given "garbage" count).getD 0) message)) words
  else if name = "simulate" then
    readLevel environment simulate (fun given => do
      let link ← linkOf given
      return .simulate link ((value? given "interval-ms" count).getD 1) (value? given "count" count))
      words
  else if name = "version" then
    readLevel environment version (fun given => return .version (isGiven given "extended")) words
  else .error (helpOn top.subcommands words)

/-- Reads a command line. -/
def read (environment : Given) (words : List String) : Except Stop Invocation := do
  let (command, format) ←
    readBranch environment top (readCommand environment) (fun _ command => .ok command) words
  return ⟨command, format⟩

end CommandLine

end SerialLink
