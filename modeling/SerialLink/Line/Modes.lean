import SerialLink.Line.Config

/-!
# Modes of a terminal device

A serial line is used raw: what arrives is passed on byte by byte, and nothing is added to what is
sent. `raw` switches the device's own processing off; `configured` then sets what a configuration
asks for. Modes that neither names stay as they were.
-/

namespace SerialLink.Line

/-- The line speeds of a device in bits per second, each with the code under which the device knows
it. -/
def speeds : List (Nat × Nat) := [
  (50, 1), (75, 2), (110, 3), (134, 4), (150, 5), (200, 6), (300, 7), (600, 8), (1200, 9),
  (1800, 10), (2400, 11), (4800, 12), (9600, 13), (19200, 14), (38400, 15), (57600, 4097),
  (115200, 4098), (230400, 4099), (460800, 4100), (921600, 4103)]

/-- The code of a line speed. -/
def speedCode? (rate : UInt32) : Option Nat :=
  speeds.lookup rate.toNat

/-- How bytes are processed on their way in. -/
structure InputModes where
  ignoreBreak : Bool := false
  breakInterrupts : Bool := false
  ignoreParityErrors : Bool := false
  markParityErrors : Bool := false
  checkParity : Bool := false
  stripEighthBit : Bool := false
  newlineToReturn : Bool := false
  ignoreReturn : Bool := false
  returnToNewline : Bool := true
  /-- received stop and start characters hold back the output -/
  heedStops : Bool := true
  /-- stop and start characters are sent to hold back the input -/
  sendStops : Bool := false
  /-- any character starts the output again -/
  anyStarts : Bool := false
  deriving DecidableEq, Repr

/-- What a terminal does for its user. -/
structure LocalModes where
  echo : Bool := true
  echoNewline : Bool := false
  byLine : Bool := true
  signals : Bool := true
  extensions : Bool := true
  deriving DecidableEq, Repr

/-- How the device drives the line. -/
structure ControlModes where
  dataBits : DataBits := .eight
  parity : Bool := false
  oddParity : Bool := false
  twoStopBits : Bool := false
  handshake : Bool := false
  receiver : Bool := true
  ignoreModemLines : Bool := false
  deriving DecidableEq, Repr

/-- The modes of a device; as given, those of a new terminal. -/
structure Modes where
  input : InputModes := {}
  processOutput : Bool := true
  user : LocalModes := {}
  control : ControlModes := {}
  /-- bytes that a read waits for -/
  minimum : UInt8 := 1
  /-- tenths of a second that a read waits -/
  patience : UInt8 := 0
  inputSpeed : Nat := 15
  outputSpeed : Nat := 15
  deriving DecidableEq, Repr

namespace Modes

/-- All processing switched off. Whether parity is checked and how output is started and input held
back is left alone. -/
def raw (m : Modes) : Modes :=
  { m with
    input := { m.input with
      ignoreBreak := false, breakInterrupts := false, markParityErrors := false
      stripEighthBit := false, newlineToReturn := false, ignoreReturn := false
      returnToNewline := false, heedStops := false }
    processOutput := false
    user := ⟨false, false, false, false, false⟩
    control := { m.control with dataBits := .eight, parity := false } }

/-- The modes with the parity set. -/
def withParity (m : Modes) : Parity → Modes
  | .none =>
    { m with
      control := { m.control with parity := false, oddParity := false }
      input := { m.input with checkParity := false } }
  | .odd =>
    { m with
      control := { m.control with parity := true, oddParity := true }
      input := { m.input with checkParity := true } }
  | .even =>
    { m with
      control := { m.control with parity := true, oddParity := false }
      input := { m.input with checkParity := true } }

/-- The modes with the flow control set. -/
def withFlowControl (m : Modes) : FlowControl → Modes
  | .none =>
    { m with
      control := { m.control with handshake := false }
      input := { m.input with heedStops := false, sendStops := false, anyStarts := false } }
  | .hardware =>
    { m with
      control := { m.control with handshake := true }
      input := { m.input with heedStops := false, sendStops := false, anyStarts := false } }
  | .software =>
    { m with
      control := { m.control with handshake := false }
      input := { m.input with heedStops := true, sendStops := true } }

/-- A poll interval in tenths of a second, rounded up, and at least one and at most 255 of them. -/
def tenths (milliseconds : UInt64) : UInt8 :=
  UInt8.ofNat (min 255 (max 1 ((milliseconds.toNat + 99) / 100)))

/-- The modes set as a configuration asks for, with the code of its line speed. -/
def configured (m : Modes) (c : LineConfig) (speed : Nat) : Modes :=
  let m := m.raw
  let m := { m with
    control := { m.control with receiver := true, ignoreModemLines := true, dataBits := c.dataBits } }
  let m := m.withParity c.parity
  let m := { m with control := { m.control with twoStopBits := c.stopBits == StopBits.two } }
  let m := m.withFlowControl c.flowControl
  { m with
    minimum := 0, patience := tenths c.pollInterval, inputSpeed := speed, outputSpeed := speed }

end Modes

end SerialLink.Line
