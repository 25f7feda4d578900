import SerialLink.Engine.Config
import SerialLink.Line.Config
import SerialLink.Proofs.Document.Parts

/-!
# Configurations read back

The configurations of a line and of an engine read back from what they are written as, and any of
their fields, in any order and however they are spelled, read as those fields with the defaults for
the others (`configurations_read_back`). The fields go through readers of their own: numbers at their
full width, bit counts by the numbers they stand for, choices by their words and texts as they are.
-/

namespace SerialLink

open Document

theorem Document.reads_of_set {α β : Type} {read : ReaderOf β} {d : Document} {b : β}
    (reads : Reads read d b) (name : String) (set : β → α → α) {change : α → α}
    (same : ∀ a, set b a = change a) : Reads (Member.of name read set).read d change := by
  have changed : set b = change := funext same
  exact changed ▸ reads_of reads name set

namespace LineConfig

/-- The configuration `d` with the named fields of `c`. -/
def named (c : LineConfig) (names : List String) (d : LineConfig) : LineConfig where
  device := if "device" ∈ names then c.device else d.device
  baudRate := if "baud_rate" ∈ names then c.baudRate else d.baudRate
  dataBits := if "data_bits" ∈ names then c.dataBits else d.dataBits
  parity := if "parity" ∈ names then c.parity else d.parity
  stopBits := if "stop_bits" ∈ names then c.stopBits else d.stopBits
  flowControl := if "flow_control" ∈ names then c.flowControl else d.flowControl
  pollInterval := if "poll_interval_ms" ∈ names then c.pollInterval else d.pollInterval

variable (c : LineConfig)

theorem blends_named : Blends c.named where
  none _ := by simp [named]
  both first later d := by simp only [named, ite_mem_append]

theorem reads_dataBits : Reads (sized Line.DataBits.ofSize) (.number c.dataBits.size) c.dataBits := by
  cases c.dataBits <;> exact reads_refine (reads_nat (by decide) (by decide)) rfl

theorem reads_stopBits : Reads (sized Line.StopBits.ofSize) (.number c.stopBits.size) c.stopBits := by
  cases c.stopBits <;> exact reads_refine (reads_nat (by decide) (by decide)) rfl

theorem reads_parity : Reads (readWord Line.Parity.ofText?) (.text c.parity.text) c.parity := by
  cases c.parity <;> exact reads_word (by decide)

theorem reads_flowControl :
    Reads (readWord Line.FlowControl.ofText?) (.text c.flowControl.text) c.flowControl := by
  cases c.flowControl <;> exact reads_word (by decide)

/-- Each field of the written configuration is read as it was. -/
theorem knows_entries : ∀ p ∈ c.document.entries, Knows fields (fun p => c.named [p.1]) p := by
  have baud := reads_nat (Nat.le_sub_one_of_lt c.baudRate.toNat_lt) (show UInt32.size - 1 < _ by decide)
  have poll := reads_nat (Nat.le_sub_one_of_lt c.pollInterval.toNat_lt) (show UInt64.size - 1 < _ by decide)
  simp only [document, entries, List.forall_mem_cons]
  refine ⟨⟨_, rfl, reads_of_set (reads_text _) _ _ ?_⟩, ⟨_, rfl, reads_of_set baud _ _ ?_⟩,
    ⟨_, rfl, reads_of_set c.reads_dataBits _ _ ?_⟩, ⟨_, rfl, reads_of_set c.reads_parity _ _ ?_⟩,
    ⟨_, rfl, reads_of_set c.reads_stopBits _ _ ?_⟩, ⟨_, rfl, reads_of_set c.reads_flowControl _ _ ?_⟩,
    ⟨_, rfl, reads_of_set poll _ _ ?_⟩, ?_⟩
  all_goals simp [named]

/-- Some fields of a written configuration, in any order and however they are spelled, are read as
they were, with the defaults for the others. -/
theorem read_of_picked {picked : List (String × Document)} (part : picked.Subperm c.document.entries)
    {text : String} (holds : Holds text picked) :
    LineConfig.read text = .ok (c.named (picked.map Prod.fst) {}) :=
  read_of_part c.blends_named c.knows_entries (by simp [document, entries]) part holds {}

theorem read_render : LineConfig.read c.document.render = .ok c := by
  have plain : ∀ p ∈ c.document.entries, p.2.IsPlain := by
    simp [document, entries, IsPlain]
  have whole : c.named (c.document.entries.map Prod.fst) {} = c := by
    simp [document, entries, named]
  have read := c.read_of_picked (List.Subperm.refl _) (holds_render plain)
  rw [whole] at read
  exact read

end LineConfig

namespace EngineConfig

/-- The configuration `d` with the named fields of `c`. -/
def named (c : EngineConfig) (names : List String) (d : EngineConfig) : EngineConfig where
  workerName := if "thread_name" ∈ names then c.workerName else d.workerName
  maxReadErrors := if "max_consecutive_read_errors" ∈ names then c.maxReadErrors else d.maxReadErrors

variable (c : EngineConfig)

theorem blends_named : Blends c.named where
  none _ := by simp [named]
  both first later d := by simp only [named, ite_mem_append]

/-- Each field of the written configuration is read as it was. -/
theorem knows_entries : ∀ p ∈ c.document.entries, Knows fields (fun p => c.named [p.1]) p := by
  have limit := reads_nat (Nat.le_sub_one_of_lt c.maxReadErrors.toNat_lt)
    (show UInt32.size - 1 < _ by decide)
  simp only [document, entries, List.forall_mem_cons]
  refine ⟨⟨_, rfl, reads_of_set (reads_text _) _ _ ?_⟩, ⟨_, rfl, reads_of_set limit _ _ ?_⟩, ?_⟩
  all_goals simp [named]

/-- Some fields of a written configuration, in any order and however they are spelled, are read as
they were, with the defaults for the others. -/
theorem read_of_picked {picked : List (String × Document)} (part : picked.Subperm c.document.entries)
    {text : String} (holds : Holds text picked) :
    EngineConfig.read text = .ok (c.named (picked.map Prod.fst) {}) :=
  read_of_part c.blends_named c.knows_entries (by simp [document, entries]) part holds {}

theorem read_render : EngineConfig.read c.document.render = .ok c := by
  have plain : ∀ p ∈ c.document.entries, p.2.IsPlain := by
    simp [document, entries, IsPlain]
  have whole : c.named (c.document.entries.map Prod.fst) {} = c := by
    simp [document, entries, named]
  have read := c.read_of_picked (List.Subperm.refl _) (holds_render plain)
  rw [whole] at read
  exact read

end EngineConfig

/-- A configuration of a line and one of an engine read back from what they are written as. Some of
their fields, in any order and however they are spelled, read as those fields of the configuration and
the others of the default one. -/
theorem configurations_read_back (line : LineConfig) (engine : EngineConfig) :
    LineConfig.read line.document.render = .ok line ∧
    EngineConfig.read engine.document.render = .ok engine ∧
    ∀ (picked : List (String × Document)) (text : String), Holds text picked →
      (picked.Subperm line.document.entries →
        LineConfig.read text = .ok (line.named (picked.map Prod.fst) {})) ∧
      (picked.Subperm engine.document.entries →
        EngineConfig.read text = .ok (engine.named (picked.map Prod.fst) {})) := by
  refine ⟨line.read_render, engine.read_render, fun picked text holds => ⟨?_, ?_⟩⟩
  · intro part
    exact line.read_of_picked part holds
  · intro part
    exact engine.read_of_picked part holds

/-- Two fields in another order, with gaps and with an escaped character. -/
example : LineConfig.read "\x7b \"parity\" : \"odd\",\n\"device\": \"\\u002fdev/tty\" \x7d" =
    .ok { device := "/dev/tty", parity := .odd } := by
  rfl

end SerialLink
