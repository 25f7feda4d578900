import SerialLink.Document.Basic
import SerialLink.Document.Reader
import SerialLink.Line.Settings
import SerialLink.Transport.Fault

/-!
# Configuration of a serial line

A device with its line speed, settings and poll interval. As a document it is a record of all its
fields; a document may leave any of them out. Whether it can be used is seen afterwards, so that a
part of it may still be replaced.
-/

namespace SerialLink

/-- How a serial device is used. -/
structure LineConfig where
  device : String := ""
  baudRate : UInt32 := 115200
  dataBits : Line.DataBits := .eight
  parity : Line.Parity := .none
  stopBits : Line.StopBits := .one
  flowControl : Line.FlowControl := .none
  /-- milliseconds after which a waiting read looks whether the port was closed -/
  pollInterval : UInt64 := 100
  deriving DecidableEq, Repr

namespace LineConfig

/-- Why a configuration can be used with no device. -/
def refusal (c : LineConfig) : Option String :=
  if c.device = "" then some "device path must not be empty"
  else if c.baudRate = 0 then some "baud rate must be greater than zero"
  else if c.pollInterval = 0 then some "poll interval must be greater than zero"
  else none

/-- A configuration that can be used. -/
def validate (c : LineConfig) : Except Transport.Fault Unit :=
  match c.refusal with
  | some reason => .error (.invalidConfig reason)
  | none => .ok ()

/-- The poll interval in microseconds. -/
def pollMicroseconds (c : LineConfig) : Nat :=
  c.pollInterval.toNat * 1000

/-- The configuration as a document. -/
def document (c : LineConfig) : Document :=
  .record [
    ("device", .text c.device),
    ("baud_rate", .number c.baudRate.toNat),
    ("data_bits", .number c.dataBits.size),
    ("parity", .text c.parity.text),
    ("stop_bits", .number c.stopBits.size),
    ("flow_control", .text c.flowControl.text),
    ("poll_interval_ms", .number c.pollInterval.toNat)]

/-- A setting that is read from a number below 256. -/
def sized {β : Type} (ofSize : Nat → Except String β) : Document.ReaderOf β :=
  (Document.readNat 255).refine fun n =>
    (ofSize n).mapError fun reason => (Transport.Fault.invalidConfig reason).message

open Document in
/-- The fields of a configuration in their order. -/
def fields : List (Member LineConfig) := [
  .of "device" readText fun v c => { c with device := v },
  .of "baud_rate" (readNat (UInt32.size - 1)) fun v c => { c with baudRate := UInt32.ofNat v },
  .of "data_bits" (sized Line.DataBits.ofSize) fun v c => { c with dataBits := v },
  .of "parity" (readWord Line.Parity.ofText?) fun v c => { c with parity := v },
  .of "stop_bits" (sized Line.StopBits.ofSize) fun v c => { c with stopBits := v },
  .of "flow_control" (readWord Line.FlowControl.ofText?) fun v c => { c with flowControl := v },
  .of "poll_interval_ms" (readNat (UInt64.size - 1)) fun v c => { c with pollInterval := UInt64.ofNat v }]

/-- Reads a configuration from a document. -/
def read (text : String) : Except Document.Refusal LineConfig :=
  Document.readAll (Document.readRecord fields {}) text

end LineConfig

end SerialLink
