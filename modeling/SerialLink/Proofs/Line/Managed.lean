import Mathlib.Data.List.Induction
import SerialLink.Line.Modes

/-!
# Modes that a configuration decides

A line that is opened gets every mode that some configuration asks for from its own, whatever the
device was set to before, but for one: software flow control says nothing of whether any character
starts the output again, and all other flow control forbids it (`managed_configured`). So two devices
agree on these modes once they are opened the same way, except that this one mode outlives software
flow control (`managed_configured_eq_iff`, `any_start_outlives_software_flow_control`). It never comes
from here: it is there after any openings just if it was there before and all of them asked for
software flow control (`anyStarts_opened`).
-/

namespace SerialLink.Line

/-- The modes that configurations are about. -/
structure Managed where
  receiver : Bool
  ignoreModemLines : Bool
  dataBits : DataBits
  parity : Bool
  oddParity : Bool
  checkParity : Bool
  twoStopBits : Bool
  handshake : Bool
  heedStops : Bool
  sendStops : Bool
  anyStarts : Bool
  minimum : UInt8
  patience : UInt8
  inputSpeed : Nat
  outputSpeed : Nat
  deriving DecidableEq, Repr

/-- What a configuration asks for, with the code of its line speed, and with the one mode that it may
leave open. -/
def Managed.asked (c : LineConfig) (speed : Nat) (anyStarts : Bool) : Managed where
  receiver := true
  ignoreModemLines := true
  dataBits := c.dataBits
  parity := c.parity != Parity.none
  oddParity := c.parity == Parity.odd
  checkParity := c.parity != Parity.none
  twoStopBits := c.stopBits == StopBits.two
  handshake := c.flowControl == FlowControl.hardware
  heedStops := c.flowControl == FlowControl.software
  sendStops := c.flowControl == FlowControl.software
  anyStarts := anyStarts
  minimum := 0
  patience := Modes.tenths c.pollInterval
  inputSpeed := speed
  outputSpeed := speed

namespace Modes

/-- The modes of a device that configurations are about. -/
def managed (m : Modes) : Managed where
  receiver := m.control.receiver
  ignoreModemLines := m.control.ignoreModemLines
  dataBits := m.control.dataBits
  parity := m.control.parity
  oddParity := m.control.oddParity
  checkParity := m.input.checkParity
  twoStopBits := m.control.twoStopBits
  handshake := m.control.handshake
  heedStops := m.input.heedStops
  sendStops := m.input.sendStops
  anyStarts := m.input.anyStarts
  minimum := m.minimum
  patience := m.patience
  inputSpeed := m.inputSpeed
  outputSpeed := m.outputSpeed

variable (m m' : Modes) (c : LineConfig) (speed : Nat)

theorem managed_configured :
    (m.configured c speed).managed =
      Managed.asked c speed (c.flowControl == FlowControl.software && m.input.anyStarts) := by
  cases parity : c.parity <;> cases flow : c.flowControl <;>
    simp [configured, withParity, withFlowControl, managed, Managed.asked, raw, parity, flow]

/-- Two devices that are opened the same way agree afterwards, unless the flow control is by software
and they differed in what may start the output. -/
theorem managed_configured_eq_iff :
    (m.configured c speed).managed = (m'.configured c speed).managed ↔
      (c.flowControl = .software → m.input.anyStarts = m'.input.anyStarts) := by
  rw [managed_configured, managed_configured]
  cases c.flowControl with
  | none | hardware => exact iff_of_true rfl nofun
  | software => simp [Managed.asked]

/-- A new device and one on which any character could start the output do not come to agree by being
opened with software flow control. -/
theorem any_start_outlives_software_flow_control :
    let c : LineConfig := { device := "/dev/ttyS0", flowControl := .software }
    let used : Modes := { input := { anyStarts := true } }
    c.validate = .ok () ∧ speedCode? c.baudRate = some 4098 ∧
      (configured {} c 4098).managed ≠ (used.configured c 4098).managed :=
  ⟨rfl, rfl, fun same => Bool.false_ne_true (congrArg Managed.anyStarts same)⟩

/-- The modes behind a number of openings, each with the code of its line speed. -/
def opened (m : Modes) (openings : List (LineConfig × Nat)) : Modes :=
  openings.foldl (fun m (c, speed) => m.configured c speed) m

@[simp] theorem opened_snoc (openings : List (LineConfig × Nat)) :
    m.opened (openings ++ [(c, speed)]) = (m.opened openings).configured c speed := by
  simp [opened]

theorem anyStarts_configured :
    (m.configured c speed).input.anyStarts =
      (c.flowControl == FlowControl.software && m.input.anyStarts) :=
  congrArg Managed.anyStarts (m.managed_configured c speed)

/-- No opening allows any character to start the output; one without software flow control forbids
it. -/
theorem anyStarts_opened (openings : List (LineConfig × Nat)) :
    (m.opened openings).input.anyStarts =
      (openings.all (·.1.flowControl == FlowControl.software) && m.input.anyStarts) := by
  induction openings using List.reverseRecOn with
  | nil => rfl
  | append_singleton openings last ih =>
    obtain ⟨c, speed⟩ := last
    rw [opened_snoc, anyStarts_configured, ih, List.all_append, List.all_cons, List.all_nil,
      Bool.and_true, ← Bool.and_assoc, Bool.and_comm (c.flowControl == _)]

/-- After any openings of a device the last one alone tells the modes, as long as any character could
not start the output at first. -/
theorem managed_opened (fresh : m.input.anyStarts = false) (openings : List (LineConfig × Nat)) :
    (m.opened (openings ++ [(c, speed)])).managed = Managed.asked c speed false := by
  rw [opened_snoc, managed_configured, anyStarts_opened, fresh, Bool.and_false, Bool.and_false]

end Modes

end SerialLink.Line
