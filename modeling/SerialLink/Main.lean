import Mathlib.Tactic.DeprecateTo
import SerialLink.Command.Run

/-!
# The program

Looks at the paths that a command names, runs the command over what was found there, and then prints,
writes and ends as its outcome says. Only files are opened here: a socket refuses to connect, and no
device is a terminal.
-/

namespace SerialLink

/-- The paths that a command reads. -/
def Command.sources : Command → List String
  | .decode file .. => [file]
  | .listen link .. | .simulate link .. => link.config.toList
  | .encode .. | .version .. => []

/-- The paths that a command opens in another way, the device of its line aside. -/
def Command.targets : Command → List String
  | .encode out .. => out.toList.map Host.withoutEnd
  | .listen link .. | .simulate link .. => link.socket.toList
  | .decode .. | .version .. => []

/-- The device of the line of a command, as far as its configuration can be read. -/
def Command.device? (host : Host) : Command → Option String
  | .listen link .. | .simulate link .. => (link.lineConfig host).toOption.map (·.device)
  | _ => none

/-- The time from the start of a simulation to a round, with no time spent on sending. -/
def Command.elapsed : Command → Nat → Float32
  | .simulate _ interval _, n => Float32.ofNat (n * interval) / 1000.0
  | _, _ => 0.0

/-- The host that shows what was found at some paths, and nothing elsewhere. -/
def Host.ofFound (found : List (String × Except Errno Place)) : Host where
  lookup path := (found.lookup path).getD (.error .noEntry)

namespace Program

/-- The number behind a failure to look at a path. -/
def errno : IO.Error → Errno
  | .noFileOrDirectory .. => .noEntry
  | .permissionDenied .. => .permission
  | .inappropriateType .. => .notDirectory
  | .invalidArgument .. => .invalidArgument
  | .resourceExhausted .. => .noSpace
  | _ => .inputOutput

/-- The path of the directory that a path lies in. -/
def around (path : String) : String :=
  String.intercalate "/" ((path.splitOn "/").dropLast ++ ["."])

/-- What stands at a path; its contents are read if it is a file, or if `reading` says so. -/
def look (reading : Bool) (path : String) : IO (Except Errno Place) := do
  let read : IO (Except Errno Place) := do
    match ← (IO.FS.readBinFile path).toBaseIO with
    | .ok bytes => return .ok (.file bytes.toList)
    | .error cause => return .error (errno cause)
  match ← (System.mkFilePath [path]).metadata.toBaseIO with
  | .ok data =>
    match data.type with
    | .dir => return .ok .directory
    | .file => read
    | _ => if reading then read else return .ok (.device false)
  | .error (.noFileOrDirectory ..) =>
    match ← (System.mkFilePath [around path]).metadata.toBaseIO with
    | .ok _ => return .ok .vacant
    | .error cause => return .error (errno cause)
  | .error cause => return .error (errno cause)

/-- Looks at the paths of a command. -/
def hostOf (command : Command) : IO Host := do
  let sources ← command.sources.mapM fun path => return (path, ← look true path)
  let targets ← command.targets.mapM fun path => return (path, ← look false path)
  let found := sources ++ targets
  let device := (command.device? (.ofFound found)).toList
  return .ofFound (found ++ (← device.mapM fun path => return (path, ← look false path)))

/-- The variables of the environment that stand in for arguments. -/
def environment : IO Words.Given :=
  ["BUSPLOT_DEVICE", "BUSPLOT_BAUD"].filterMapM fun name =>
    return (← IO.getEnv name).map fun value => (name, value)

/-- Writes the file of an outcome; where that fails, the failure is the outcome. -/
def write (outcome : Outcome) : IO Outcome := do
  match outcome.written with
  | none => return outcome
  | some (path, bytes) =>
    let writing := IO.FS.withFile path .write fun file => do
      file.write ⟨bytes.toArray⟩
      file.flush
    match ← writing.toBaseIO with
    | .ok () => return outcome
    | .error cause =>
      return .failed (.ofIo ("failed writing " ++ path) (errno cause).failure) ""

/-- Prints what an outcome has to say, and gives its exit code. -/
def finish (outcome : Outcome) : IO UInt32 := do
  IO.print outcome.output
  match outcome.message with
  | some message => IO.eprintln ("error: " ++ message)
  | none => pure ()
  return UInt32.ofNat outcome.code

/-- The time of day in microseconds since the Unix epoch. -/
def now : IO UInt64 :=
  return UInt64.ofInt ((← Std.Time.Timestamp.now).toNanosecondsSinceUnixEpoch.val / 1000)

/-- Runs a command; all that was found is handled at the moment at which it begins. -/
def perform (given : Words.Given) (i : Invocation) : IO UInt32 := do
  let host ← hostOf i.command
  let format := if ← (← IO.getStdout).isTty then Format.pretty else .json
  let moment ← now
  finish (← write (CommandLine.execute
    ⟨host, given, format, fun _ => moment, i.command.elapsed, 1000000⟩ i))

end Program

end SerialLink

open SerialLink in
/-- Reads the command line and runs it. -/
def main (words : List String) : IO UInt32 := do
  let given ← Program.environment
  match CommandLine.read given words with
  | .ok i => Program.perform given i
  | .error stop =>
    let message := match stop with
      | .refused fault => some fault.message
      | _ => none
    Program.finish { CommandLine.stopped stop with message := message }
