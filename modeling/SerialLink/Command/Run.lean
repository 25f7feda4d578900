import SerialLink.Command.Capture
import SerialLink.Command.Listen
import SerialLink.Command.Simulate

/-!
# Running a command line

A command line is read and the command it names is run in its surroundings. One that is refused ends
with a code of its own before anything is done.
-/

namespace SerialLink

/-- What a command line meets. -/
structure Surroundings where
  host : Host
  environment : Words.Given := []
  /-- the format of output when none is asked for -/
  format : Format := .json
  /-- the moments at which messages are handled, in turn, in microseconds since the Unix epoch -/
  clock : Nat → UInt64 := fun _ => 0
  /-- seconds from the start of a simulation to each of its rounds -/
  elapsed : Nat → Float32 := fun _ => 0.0
  /-- rounds after which a simulation is interrupted -/
  maxRounds : Nat := 1000000

namespace CommandLine

/-- The exit code of a command line that is refused. -/
def refusedCode : Nat := 2

/-- The name and the version of the program. -/
def release : String := "busplot 0.1.0"

/-- The release line by line. -/
def extendedRelease : String :=
  "name: busplot\nversion: 0.1.0\nbuild_target: unknown\nbuild_profile: unknown\ntarget_os: linux\n" ++
    "target_arch: x86_64\nserial: termios\n"

/-- How the program is called. -/
def usage : String :=
  "Usage: busplot [--format json|table|pretty] COMMAND\n\n" ++
    "  listen [DEVICE] [--socket PATH] [--config PATH] [--count N] [--idle-timeout-ms N]\n" ++
    "  decode FILE [--series] [--strict]\n" ++
    "  encode [--out PATH [--append]] [--garbage N] alias|update|remove|apply ...\n" ++
    "  simulate [DEVICE] [--socket PATH] [--config PATH] [--interval-ms N] [--count N]\n" ++
    "  version [--extended]\n"

/-- Runs a command. -/
def execute (around : Surroundings) (i : Invocation) : Outcome :=
  let format := i.format.getD around.format
  Outcome.ofExcept <| match i.command with
    | .listen link count idle => Command.runListen around.host around.clock format link count idle
    | .decode file series strict =>
      Command.runDecode around.host around.clock format file series strict
    | .encode out append noise m => Command.runEncode around.host format out append noise m
    | .simulate link _ count =>
      Command.runSimulate around.host around.elapsed around.maxRounds format link count
    | .version extended =>
      .ok { output := if extended then extendedRelease else Format.line release }

/-- The outcome of a command line that names nothing to run. -/
def stopped : Words.Stop → Outcome
  | .refused _ => { code := refusedCode }
  | .version => { output := Format.line release }
  | .help => { output := usage }

/-- Runs the words of a command line. -/
def run (around : Surroundings) (words : List String) : Outcome :=
  match read around.environment words with
  | .ok i => execute around i
  | .error stop => stopped stop

end CommandLine

end SerialLink
