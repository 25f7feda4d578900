import SerialLink.Command.Link
import SerialLink.Proofs.Document.Alike
import SerialLink.Proofs.Text.Utf8

/-!
# The settings of a line

A configuration file says something of some settings and nothing of the others (`LineConfig.Part`);
reading it over any defaults fills in what it leaves out (`read_laidOver`). The arguments of a command are
laid over what the file says, and the settings are judged once they are merged, so that a setting of
the file is never judged where an argument replaces it (`settings_by_precedence`).
-/

namespace SerialLink

open Document

namespace LineConfig

/-! ## What a configuration file says -/

/-- Some settings of a line. -/
structure Part where
  device : Option String := none
  baudRate : Option UInt32 := none
  dataBits : Option Line.DataBits := none
  parity : Option Line.Parity := none
  stopBits : Option Line.StopBits := none
  flowControl : Option Line.FlowControl := none
  pollInterval : Option UInt64 := none
  deriving DecidableEq

namespace Part

/-- The settings that a file may name, in the order of the fields of a configuration. -/
def fields : List (Member Part) := [
  .of "device" readText fun v p => { p with device := some v },
  .of "baud_rate" (readNat (UInt32.size - 1)) fun v p => { p with baudRate := some (UInt32.ofNat v) },
  .of "data_bits" (sized Line.DataBits.ofSize) fun v p => { p with dataBits := some v },
  .of "parity" (readWord Line.Parity.ofText?) fun v p => { p with parity := some v },
  .of "stop_bits" (sized Line.StopBits.ofSize) fun v p => { p with stopBits := some v },
  .of "flow_control" (readWord Line.FlowControl.ofText?) fun v p => { p with flowControl := some v },
  .of "poll_interval_ms" (readNat (UInt64.size - 1)) fun v p =>
    { p with pollInterval := some (UInt64.ofNat v) }]

/-- The settings that a text names. -/
def read (text : String) : Except Refusal Part :=
  readAll (readRecord fields {}) text

/-- A configuration in which some settings are replaced. -/
def laidOver (d : LineConfig) (p : Part) : LineConfig where
  device := p.device.getD d.device
  baudRate := p.baudRate.getD d.baudRate
  dataBits := p.dataBits.getD d.dataBits
  parity := p.parity.getD d.parity
  stopBits := p.stopBits.getD d.stopBits
  flowControl := p.flowControl.getD d.flowControl
  pollInterval := p.pollInterval.getD d.pollInterval

theorem fields_alike (d : LineConfig) :
    List.Forall₂ (Member.Alike (laidOver d)) fields LineConfig.fields :=
  .cons (.of "device" _ fun _ _ => rfl) <|
  .cons (.of "baud_rate" _ fun _ _ => rfl) <|
  .cons (.of "data_bits" _ fun _ _ => rfl) <|
  .cons (.of "parity" _ fun _ _ => rfl) <|
  .cons (.of "stop_bits" _ fun _ _ => rfl) <|
  .cons (.of "flow_control" _ fun _ _ => rfl) <|
  .cons (.of "poll_interval_ms" _ fun _ _ => rfl) .nil

/-- Whatever the defaults are, a text is read as they are with the settings that it names. -/
theorem read_laidOver (d : LineConfig) (text : String) :
    readAll (readRecord LineConfig.fields d) text = (read text).map (laidOver d) :=
  readAll_alike (fields_alike d) {} text

end Part

/-! ## Settings that can be used -/

/-- A configuration that names a device, a rate and an interval. -/
structure Usable (c : LineConfig) : Prop where
  device : c.device ≠ ""
  baudRate : c.baudRate ≠ 0
  pollInterval : c.pollInterval ≠ 0

theorem validate_of_usable {c : LineConfig} (usable : c.Usable) : c.validate = .ok () := by
  have accepted : c.refusal = none := by
    rw [refusal, if_neg usable.device, if_neg usable.baudRate, if_neg usable.pollInterval]
  rw [validate, accepted]

theorem refusal_of_not_usable {c : LineConfig} (unusable : ¬ c.Usable) :
    ∃ reason, c.refusal = some reason := by
  unfold refusal
  split
  · exact ⟨_, rfl⟩
  split
  · exact ⟨_, rfl⟩
  split
  · exact ⟨_, rfl⟩
  · next device baudRate pollInterval => exact absurd ⟨device, baudRate, pollInterval⟩ unusable

end LineConfig

/-- A file that holds the byte form of a text is read as that text. -/
theorem Host.textOf_of_file {host : Host} {path text : String}
    (stands : host.find path = .ok (.file (Utf8.encode text.toList))) : host.textOf path = .ok text := by
  have feed : host.feedOf path = .ok (Feed.ofBytes (Utf8.encode text.toList)) := by
    rw [feedOf, stands]
    rfl
  have bytes : host.bytesOf path = .ok (Utf8.encode text.toList) := by
    rw [bytesOf, feed]
    simp only [bind, Except.bind]
    split
    · next failed =>
      unfold Feed.ofBytes at failed
      split at failed <;> cases failed
    · rw [Feed.bytes_ofBytes]
  have valid : Utf8.isValid (Utf8.encode text.toList) = true := by
    rw [Utf8.isValid, Utf8.decode_encode, beq_self_eq_true]
  simp only [textOf, bytes, bind, Except.bind, valid, if_true, Utf8.decode_encode, String.ofList_toList]

namespace LinkArguments

variable {a : LinkArguments} {host : Host} {file : LineConfig.Part}

/-- What is said by the configuration file of the arguments; without one, nothing. -/
inductive Configured (a : LinkArguments) (host : Host) : LineConfig.Part → Prop where
  | absent (noFile : a.config = none) : Configured a host {}
  | file {path text : String} {part : LineConfig.Part} (named : a.config = some path)
      (stored : host.textOf path = .ok text) (held : LineConfig.Part.read text = .ok part) :
      Configured a host part

/-- Each setting from the arguments, else from the file, else from the defaults. The interval is no
argument. -/
def settings (a : LinkArguments) (file : LineConfig.Part) : LineConfig :=
  let default : LineConfig := {}
  { device := (a.device.or file.device).getD default.device
    baudRate := (a.baudRate.or file.baudRate).getD default.baudRate
    dataBits := (a.dataBits.or file.dataBits).getD default.dataBits
    parity := (a.parity.or file.parity).getD default.parity
    stopBits := (a.stopBits.or file.stopBits).getD default.stopBits
    flowControl := (a.flowControl.or file.flowControl).getD default.flowControl
    pollInterval := file.pollInterval.getD default.pollInterval }

theorem merged_laidOver (a : LinkArguments) (file : LineConfig.Part) :
    a.merged (file.laidOver {}) = a.settings file := by
  simp only [merged, LineConfig.Part.laidOver, settings, Option.getD_or]

/-- A file that is read as a configuration says some settings. -/
theorem exists_configured
    (parses : ∀ path, a.config = some path →
      ∃ text c, host.textOf path = .ok text ∧ LineConfig.read text = .ok c) :
    ∃ file, a.Configured host file := by
  cases named : a.config with
  | none => exact ⟨_, .absent named⟩
  | some path =>
    obtain ⟨text, c, stored, read⟩ := parses path named
    rw [LineConfig.read, LineConfig.Part.read_laidOver] at read
    cases held : LineConfig.Part.read text with
    | error reason => rw [held] at read; cases read
    | ok part => exact ⟨part, .file named stored held⟩

theorem base_of_configured (configured : a.Configured host file) : a.base host = .ok (file.laidOver {}) := by
  cases configured with
  | absent noFile =>
    rw [base, noFile]
    rfl
  | file named stored held =>
    simp only [base, named, stored, LineConfig.read, LineConfig.Part.read_laidOver, held]
    rfl

theorem lineConfig_of_usable (configured : a.Configured host file) (usable : (a.settings file).Usable) :
    a.lineConfig host = .ok (a.settings file) := by
  simp only [lineConfig, base_of_configured configured, bind, Except.bind, merged_laidOver,
    LineConfig.validate_of_usable usable, Except.mapError]
  rfl

theorem lineConfig_of_not_usable (configured : a.Configured host file)
    (unusable : ¬ (a.settings file).Usable) :
    ∃ failure, a.lineConfig host = .error failure ∧ failure.code = 64 := by
  obtain ⟨reason, refused⟩ := LineConfig.refusal_of_not_usable unusable
  simp only [lineConfig, base_of_configured configured, bind, Except.bind, merged_laidOver,
    LineConfig.validate, refused, Except.mapError]
  exact ⟨_, rfl, rfl⟩

/-- Where the configuration file can be read, if there is one, each setting is that of the arguments,
else that of the file, else the default one. The settings are the configuration of the line exactly if
they can be used, and otherwise the command ends with the code 64; what the file says of the device or
of the rate does no harm where an argument replaces it. -/
theorem settings_by_precedence (a : LinkArguments) (host : Host)
    (parses : ∀ path, a.config = some path →
      ∃ text c, host.textOf path = .ok text ∧ LineConfig.read text = .ok c) :
    ∃ file, a.Configured host file ∧
      (a.lineConfig host = .ok (a.settings file) ↔ (a.settings file).Usable) ∧
      (¬ (a.settings file).Usable →
        ∃ failure, a.lineConfig host = .error failure ∧ failure.code = 64) ∧
      (∀ device, a.device = some device → device ≠ "" → (a.settings file).baudRate ≠ 0 →
        (a.settings file).pollInterval ≠ 0 → a.lineConfig host = .ok (a.settings file)) ∧
      ∀ rate, a.baudRate = some rate → rate ≠ 0 → (a.settings file).device ≠ "" →
        (a.settings file).pollInterval ≠ 0 → a.lineConfig host = .ok (a.settings file) := by
  obtain ⟨file, configured⟩ := exists_configured parses
  refine ⟨file, configured, ⟨?_, lineConfig_of_usable configured⟩,
    lineConfig_of_not_usable configured, ?_, ?_⟩
  · intro accepted
    by_contra unusable
    obtain ⟨failure, refused, _⟩ := lineConfig_of_not_usable configured unusable
    rw [accepted] at refused
    cases refused
  · intro device given used rate interval
    have replaced : (a.settings file).device = device := by
      simp [settings, given]
    exact lineConfig_of_usable configured ⟨replaced ▸ used, rate, interval⟩
  · intro rate given used device interval
    have replaced : (a.settings file).baudRate = rate := by
      simp [settings, given]
    exact lineConfig_of_usable configured ⟨device, replaced ▸ used, interval⟩

/-- A file with an empty name for the device and with a rate of zero, both of which are replaced. -/
theorem settings_by_precedence_over_spoiled_file :
    let text := "\x7b \"parity\": \"odd\", \"baud_rate\": 0, \"device\": \"\" \x7d"
    let host : Host := ⟨fun _ => .ok (.file (Utf8.encode text.toList))⟩
    let a : LinkArguments :=
      { device := some "/dev/ttyUSB0", config := some "line.json", baudRate := some 9600 }
    LineConfig.read text = .ok { baudRate := 0, parity := .odd } ∧
      a.lineConfig host = .ok { device := "/dev/ttyUSB0", baudRate := 9600, parity := .odd } := by
  intro text host a
  have stored : host.textOf "line.json" = .ok text := Host.textOf_of_file rfl
  have read : LineConfig.read text = .ok { baudRate := 0, parity := .odd } := by
    unfold text
    rfl
  have parses (path : String) (named : a.config = some path) :
      ∃ text c, host.textOf path = .ok text ∧ LineConfig.read text = .ok c := by
    obtain rfl : "line.json" = path := Option.some.inj named
    exact ⟨text, _, stored, read⟩
  obtain ⟨file, configured, -, -, harmless, -⟩ := settings_by_precedence a host parses
  refine ⟨read, ?_⟩
  have based : a.base host = .ok { baudRate := 0, parity := .odd } := by
    simp only [base, stored, read, a]
    rfl
  have filled : file.laidOver {} = { baudRate := 0, parity := .odd } :=
    Except.ok.inj ((base_of_configured configured).symm.trans based)
  have merged : a.settings file = { device := "/dev/ttyUSB0", baudRate := 9600, parity := .odd } := by
    rw [← merged_laidOver, filled]
    rfl
  rw [merged] at harmless
  exact harmless _ rfl (by decide) (by decide) (by decide)

end LinkArguments

end SerialLink
