import SerialLink.Command.Arguments
import SerialLink.Command.Failure
import SerialLink.Engine.Basic

/-!
# The link of a command

The settings of a line come from the arguments, then from the configuration file, then from the
defaults, each on its own; they are judged once they are merged. A socket is preferred to a line.
-/

namespace SerialLink.LinkArguments

/-- A configuration in which the arguments replace what they name. -/
def merged (a : LinkArguments) (c : LineConfig) : LineConfig where
  device := a.device.getD c.device
  baudRate := a.baudRate.getD c.baudRate
  dataBits := a.dataBits.getD c.dataBits
  parity := a.parity.getD c.parity
  stopBits := a.stopBits.getD c.stopBits
  flowControl := a.flowControl.getD c.flowControl
  pollInterval := c.pollInterval

/-- The configuration file of the arguments, or the defaults. -/
def base (a : LinkArguments) (host : Host) : Except Failure LineConfig :=
  match a.config with
  | none => .ok {}
  | some path =>
    match host.textOf path with
    | .error cause => .error (.within ("failed reading " ++ path) Failure.usage cause.text)
    | .ok text =>
      (LineConfig.read text).mapError fun _ => ⟨Failure.usage, "invalid config " ++ path⟩

/-- The configuration of the line. -/
def lineConfig (a : LinkArguments) (host : Host) : Except Failure LineConfig := do
  let c := a.merged (← a.base host)
  c.validate.mapError (Failure.ofTransport "invalid serial settings")
  return c

/-- Attaches the link to an engine, and tells its name. -/
def attach {σ : Type} (a : LinkArguments) (host : Host) (e : Engine σ) :
    Except Failure (String × Engine σ) := do
  let failed := Failure.ofCall "connect failed"
  match a.socket with
  | some path =>
    let link ← (host.connect path).mapError (Failure.ofTransport "connect failed")
    let (id, e) := e.meet link
    let (result, e) := e.connect id
    result.mapError failed
    return (path, e)
  | none =>
    let c ← a.lineConfig host
    let (result, e) := e.connectLine host c
    result.mapError failed
    return (c.device, e)

end SerialLink.LinkArguments
