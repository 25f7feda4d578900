import Mathlib.Data.List.Forall2
import SerialLink.Command.Run
import SerialLink.Proofs.Dispatch.Registration
import SerialLink.Proofs.Display.Printing
import SerialLink.Proofs.Engine.Turns
import SerialLink.Proofs.Message.Bijection
import SerialLink.Proofs.Scan.Delivery
import SerialLink.Proofs.Series.Summaries

/-!
# Decoding captures

`decode` shows records, which its handlers keep, series, which they keep beside them, and counts,
which the scanner keeps. A handler is told of one message and adds one record, of which it tells the
store (`Tap.dispatch_handlers`); every frame that the scanner delivers carries a message
(`exists_message_of_delivered`), so the handlers of a whole scan leave as many records as there were
frames, each stamped with the moment at which it was handled, and the store that these lead to
(`Tap.dispatchAll_handlers`). A capture is read to its end, since no read of it fails inside a frame
(`readFailed_of_capture`). The three parts of the output therefore agree, and each is printed as it
has to be (`decode_agrees_with_scan`).
-/

namespace SerialLink

/-! ## Frames and the messages that they carry -/

namespace MessageKind

/-- All kinds of message, in the order in which a tap registers them. -/
def kinds : List MessageKind :=
  [.label, .update, .remove, .apply]

/-- The lengths of body that the kinds require under their commands. -/
def sizes : CommandSizes := fun command =>
  (kinds.find? (·.command == command)).map size

theorem exists_of_sizes {command : UInt16} {n : Nat} (known : sizes command = some n) :
    ∃ kind : MessageKind, kind.command = command ∧ kind.size = n := by
  obtain ⟨kind, found, size⟩ := Option.map_eq_some_iff.1 known
  exact ⟨kind, by simpa using List.find?_some found, size⟩

end MessageKind

/-- A frame with the command and the body of a message. -/
structure Wire.Frame.Carries (f : Wire.Frame) (m : Message) : Prop where
  command : f.command = m.kind.command
  body : f.body = m.body

/-- A frame of a known command and of the length that its kind requires carries a message. -/
theorem exists_message_of_delivered {before behind : List UInt8} {f : Wire.Frame}
    (delivered : Scan.Delivered MessageKind.sizes before behind f) : ∃ m, f.Carries m := by
  obtain ⟨kind, command, size⟩ := MessageKind.exists_of_sizes delivered.registered
  obtain ⟨m, rfl, body⟩ := MessageKind.exists_body size.symm
  exact ⟨m, command.symm, body.symm⟩

/-! ## What a tap keeps -/

/-- The records of messages that are handled one after the other, by the clock. -/
def Record.handled (clock : Nat → UInt64) (messages : List Message) : List Record :=
  messages.mapIdx fun i m => .ofMessage (clock i) m

theorem Record.length_handled (clock : Nat → UInt64) (messages : List Message) :
    (handled clock messages).length = messages.length :=
  List.length_mapIdx

theorem Record.handled_snoc (clock : Nat → UInt64) (messages : List Message) (m : Message) :
    handled clock (messages ++ [m]) =
      handled clock messages ++ [.ofMessage (clock messages.length) m] :=
  List.mapIdx_concat

namespace Tap

/-- What a tap does about the messages of a kind. -/
def reader : MessageKind → Dispatch.Reader Tap
  | .apply => ⟨applied, fun _ => false⟩
  | _ => follower.reader

/-- The handlers of a tap. -/
def handlers : Dispatch.Table Tap :=
  ⟨MessageKind.kinds.map fun kind => .ofReader kind (reader kind)⟩

theorem table_eq : table = .ok handlers := rfl

/-- A tap that was told of a message keeps a record of it, and has told its store of the record. -/
def take (m : Message) (t : Tap) : Tap :=
  let r := Record.ofMessage t.now m
  { t with store := t.store.heard r, records := t.records ++ [r] }

theorem act_reader (m : Message) (t : Tap) : (reader m.kind).act m t = t.take m := by
  cases m <;> rfl

theorem lookup_handlers (kind : MessageKind) :
    handlers.lookup kind.command = some (.ofReader kind (reader kind)) := by
  cases kind <;> rfl

theorem sizes_handlers : handlers.sizes = MessageKind.sizes := by
  funext command
  simp only [Dispatch.Table.sizes, Dispatch.Table.lookup, handlers, MessageKind.sizes,
    List.find?_map, Option.map_map]
  rfl

/-- The handler of a frame that carries a message takes the message and succeeds. -/
theorem dispatch_handlers {f : Wire.Frame} {m : Message} (carries : f.Carries m) (t : Tap) :
    handlers.dispatch f t = (.done, t.take m) := by
  have quiet : (reader m.kind).panics m = false := by
    cases m <;> rfl
  rw [Dispatch.Table.dispatch, carries.command, lookup_handlers]
  show (reader m.kind).handler m.kind f.body t = _
  rw [carries.body, Dispatch.Reader.handler_body, quiet, act_reader]
  rfl

/-- A tap that was told of some messages and of nothing before. -/
def behind (clock : Nat → UInt64) (messages : List Message) : Tap where
  store := .replayed (Record.handled clock messages)
  records := Record.handled clock messages
  clock := clock

theorem behind_snoc (clock : Nat → UInt64) (messages : List Message) (m : Message) :
    behind clock (messages ++ [m]) = (behind clock messages).take m := by
  have now : (behind clock messages).now = clock messages.length :=
    congrArg clock (Record.length_handled clock messages)
  rw [take, now, behind, Record.handled_snoc, SeriesStore.replayed_snoc]
  rfl

/-- The handlers of some frames that carry messages keep a record of each, tell the store of the
records, and succeed. -/
theorem dispatchAll_handlers {frames : List Wire.Frame} (known : ∀ f ∈ frames, ∃ m, f.Carries m)
    (clock : Nat → UInt64) :
    ∃ messages, List.Forall₂ Wire.Frame.Carries frames messages ∧
      handlers.failures frames { clock := clock } = 0 ∧
      (handlers.dispatchAll frames { clock := clock }).2 = behind clock messages := by
  induction frames using List.reverseRecOn with
  | nil => exact ⟨[], .nil, rfl, rfl⟩
  | append_singleton frames f ih =>
    obtain ⟨messages, carried, none, state⟩ := ih fun f member => known f (by simp [member])
    obtain ⟨m, carries⟩ := known f (by simp)
    refine ⟨messages ++ [m], List.rel_append carried (.cons carries .nil), ?_, ?_⟩
    · rw [Dispatch.Table.failures, Dispatch.Table.dispatchAll_snoc, dispatch_handlers carries,
        List.countP_append, ← Dispatch.Table.failures, none]
      rfl
    · rw [Dispatch.Table.dispatchAll_snoc, dispatch_handlers carries, state, behind_snoc]

theorem calmOn_handlers {frames : List Wire.Frame} (known : ∀ f ∈ frames, ∃ m, f.Carries m) :
    handlers.CalmOn frames := by
  intro f member t
  obtain ⟨m, carries⟩ := known f member
  rw [dispatch_handlers carries]
  simp

end Tap

/-! ## What is counted -/

namespace Scan

variable {sizes : CommandSizes} {t : Transport}

/-- A frame was dropped. -/
def Cycle.discards (c : Cycle) : Bool :=
  match c.result with
  | .ok (.discarded _) => true
  | _ => false

theorem frames_eq_events (cycles : List Cycle) :
    frames cycles = (events cycles).filterMap Event.frame? := by
  rw [frames, events, List.filterMap_filterMap]
  congr 1
  funext c
  rcases c with ⟨fault | e, scanner, t⟩ <;> rfl

theorem mem_events_iff {cycles : List Cycle} {e : Event} :
    e ∈ events cycles ↔ ∃ c ∈ cycles, c.result = .ok e := by
  rw [events, List.mem_filterMap]
  refine exists_congr fun c => and_congr_right fun _ => ?_
  rcases c with ⟨fault | e', scanner, t⟩ <;> simp [Except.toOption]

/-- As many frames are counted as were delivered. -/
theorem frames_scannerBehind (sizes : CommandSizes) (t : Transport) :
    (scannerBehind {} (Scanner.cycles sizes {} t)).stats.frames =
      (frames (Scanner.cycles sizes {} t)).length := by
  have counted := @measure_scannerBehind sizes {} t Stats.frames (·.frame?.isSome)
    (fun _ _ => rfl) (fun stats e => by rcases e with f | (_ | _ | _ | _) <;> rfl)
    (Scanner.cycles sizes {} t).length
  rw [← cycles_eq_run] at counted
  rw [counted, frames_eq_events, List.length_filterMap_eq_countP]
  exact Nat.zero_add _

/-- Something is counted as dropped when a cycle has dropped a frame. -/
theorem discarded_scannerBehind (sizes : CommandSizes) (t : Transport) :
    (scannerBehind {} (Scanner.cycles sizes {} t)).stats.discarded ≠ 0 ↔
      ∃ c ∈ Scanner.cycles sizes {} t, c.discards := by
  have count (stats : Stats) (e : Event) :
      (stats.count e).discarded = stats.discarded + if e.frame?.isNone then 1 else 0 := by
    rcases e with f | (_ | _ | _ | _) <;>
      simp only [Stats.count, Stats.discarded, Event.frame?, Option.isNone_some,
        Option.isNone_none, if_true, Bool.false_eq_true, if_false] <;>
      omega
  have counted := @measure_scannerBehind sizes {} t Stats.discarded (·.frame?.isNone)
    (fun _ _ => rfl) count (Scanner.cycles sizes {} t).length
  rw [← cycles_eq_run] at counted
  have none : Stats.discarded {} = 0 := rfl
  rw [counted, none, Nat.zero_add, ← Nat.pos_iff_ne_zero, List.countP_pos_iff]
  constructor
  · rintro ⟨e, member, dropped⟩
    obtain ⟨c, taken, ends⟩ := mem_events_iff.1 member
    refine ⟨c, taken, ?_⟩
    cases e with
    | frame f => cases dropped
    | discarded reason => rw [Cycle.discards, ends]
  · rintro ⟨c, taken, discards⟩
    unfold Cycle.discards at discards
    split at discards
    · next reason ends => exact ⟨.discarded reason, mem_events_iff.2 ⟨c, taken, ends⟩, rfl⟩
    · cases discards

/-- A cycle that delivers a frame of a message kind delivers a message. -/
theorem carries_of_cycles : ∀ f ∈ frames (Scanner.cycles MessageKind.sizes {} t),
    ∃ m, f.Carries m := by
  intro f member
  obtain ⟨c, taken, ends⟩ := List.mem_filterMap.1 member
  rw [cycles_eq_run] at taken
  exact exists_message_of_delivered (delivered_of_mem_run taken (Cycle.frame?_eq_some_iff.1 ends))

end Scan

/-! ## Captures -/

/-- A capture is a replay, either of bytes or of a call that fails. -/
theorem Host.replay_of_capture {host : Host} {file : String} {t : Transport}
    (readable : host.capture file = .ok t) :
    ∃ feed, t = Transport.replay file feed ∧
      (feed.Smooth ∨ ∃ cause, feed = [.failed cause]) := by
  unfold capture at readable
  split at readable
  · cases readable
  · next feed found =>
    cases readable
    refine ⟨feed, rfl, ?_⟩
    unfold feedOf at found
    cases there : host.find file with
    | error cause =>
      rw [there] at found
      cases found
    | ok place =>
      rw [there] at found
      cases place with
      | file bytes =>
        cases found
        exact .inl (Feed.smooth_ofBytes bytes)
      | directory =>
        cases found
        exact .inr ⟨_, rfl⟩
      | device | terminal =>
        cases found
        exact .inl fun e member => absurd member List.not_mem_nil
      | listener | detached | vacant => cases found

/-- No read of a capture fails inside a frame: where its first call fails, no marker was found. -/
theorem Host.readFailed_of_capture {host : Host} {file : String} {t : Transport}
    (readable : host.capture file = .ok t) (sizes : CommandSizes) :
    ∀ c ∈ Scanner.cycles sizes {} t, c.readFailed = false := by
  obtain ⟨feed, rfl, smooth | ⟨cause, rfl⟩⟩ := replay_of_capture readable
  · have steady : (Transport.replay file feed).Steady := ⟨fun _ => rfl, rfl, smooth⟩
    exact Scan.readFailed_of_steady steady
  · intro c member
    have fails : (Transport.replay file [.failed cause]).readExact 1 =
        some (.error (.io cause), Transport.replay file []) := rfl
    have step : Scanner.step sizes {} (.replay file [.failed cause]) =
        some (Scan.brokenOff {} .seekingMarker 0 (.io cause) (.replay file [])) :=
      Scan.step_of_breaks (.seeking (.nil _) fails)
    rw [Scanner.cycles_of_error step rfl] at member
    obtain rfl := List.mem_singleton.1 member
    rfl

namespace Command

variable {host : Host} {file : String} {t : Transport}

/-- The engine that a capture has been attached to for `decode`. -/
def opened (clock : Nat → UInt64) (t : Transport) : Engine Tap where
  state := { clock := clock }
  table := Tap.handlers
  links := [.capture t]
  attached := some 0
  writer := some 0
  connected := true

/-- The same once its worker has begun. -/
def decoding (clock : Nat → UInt64) (t : Transport) : Engine Tap :=
  { opened clock t with frozen := true, worker := .running {} }

/-- What `decode` shows of what it has. -/
def decoded (format : Format) (file : String) (series : Bool) (tap : Tap)
    (report : Session.Report) : String :=
  String.join (tap.records.map (·.shown format)) ++
    (if series then tap.store.shown format else "") ++ report.shown file format

/-- How `decode` ends, with `strict` or without. -/
def verdict (file : String) (strict : Bool) (report : Session.Report) (output : String) : Outcome :=
  if strict && report.stats.discarded != 0 then
    let lost := toString report.stats.discarded ++ " frame(s) discarded"
    .failed (.within file Failure.damaged lost) output
  else { output := output }

theorem output_verdict (file : String) (strict : Bool) (report : Session.Report)
    (output : String) : (verdict file strict report output).output = output := by
  unfold verdict
  split <;> rfl

theorem code_verdict (file : String) (strict : Bool) (report : Session.Report) (output : String) :
    (verdict file strict report output).code =
      if strict = true ∧ report.stats.discarded ≠ 0 then 60 else 0 := by
  unfold verdict
  cases strict with
  | false => rfl
  | true =>
    by_cases none : report.stats.discarded = 0
    · simp [none, Failure.success]
    · simp [none, Outcome.failed, Failure.within, Failure.damaged]

/-- What `decode` has is what its worker has left. -/
theorem receiveCapture_of_finished {clock : Nat → UInt64} {report : Session.Report}
    (readable : host.capture file = .ok t) (isOpen : t.isOpen = true)
    (finished : (decoding clock t).settle.worker = .finished report) :
    receiveCapture host clock file = .ok ((decoding clock t).settle.state, report) := by
  have met : Engine.meet { state := { clock := clock }, table := Tap.handlers } (.capture t) =
      (0, { state := { clock := clock }, table := Tap.handlers, links := [.capture t] }) := rfl
  have connected :
      Engine.connect
          { state := { clock := clock }, table := Tap.handlers, links := [.capture t] } 0 =
        (.ok (), opened clock t) := by
    simp [Engine.connect, Engine.unlessReceiving, Engine.collect, Engine.link?, Link.capture,
      isOpen, opened]
  have started : (opened clock t).start = (.ok (), decoding clock t) := rfl
  have joined : (decoding clock t).settle.join =
      some (.ok report, (decoding clock t).settle.collect.2) := by
    rw [Engine.join, finished]
  have kept : (decoding clock t).settle.collect.2.state = (decoding clock t).settle.state := by
    rw [Engine.collect, finished]
  simp only [receiveCapture, readable, Tap.table_eq, met, connected, started, joined, kept,
    Except.mapError, bind, Except.bind, Option.getD_some]
  rfl

/-- `decode` shows what it has. -/
theorem runDecode_of_received {clock : Nat → UInt64} {tap : Tap} {report : Session.Report}
    (received : receiveCapture host clock file = .ok (tap, report)) (format : Format)
    (series strict : Bool) :
    runDecode host clock format file series strict =
      .ok (verdict file strict report (decoded format file series tap report)) := by
  simp only [runDecode, received, bind, Except.bind]
  rw [verdict]
  split <;> rfl

/-- What `decode` has of a capture: the messages that its handlers were told of, what they kept, and
the report beside it. -/
structure Decoded (clock : Nat → UInt64) (t : Transport) (messages : List Message) (tap : Tap)
    (report : Session.Report) : Prop where
  /-- the messages are those that the delivered frames carry, in order -/
  carried :
    List.Forall₂ Wire.Frame.Carries (Scan.frames (Scanner.cycles MessageKind.sizes {} t)) messages
  /-- there is one record for each, of the moment at which it was handled -/
  records : tap.records = Record.handled clock messages
  /-- the series are those that an empty store comes to when it is told of the records -/
  store : tap.store = .replayed tap.records
  /-- the counts are the scanner's -/
  stats : report.stats = (Scan.scannerBehind {} (Scanner.cycles MessageKind.sizes {} t)).stats
  frames : report.stats.frames = tap.records.length
  failures : report.handlerFailures = 0

/-- The worker of `decode` reads the capture to its end, and leaves records of its frames and the
store that they lead to. -/
theorem exists_decoded (readable : host.capture file = .ok t) (clock : Nat → UInt64) :
    ∃ messages tap report, receiveCapture host clock file = .ok (tap, report) ∧
      Decoded clock t messages tap report := by
  have unbroken := Host.readFailed_of_capture readable Tap.handlers.sizes
  obtain ⟨feed, rfl, -⟩ := Host.replay_of_capture readable
  have known := @Scan.carries_of_cycles (.replay file feed)
  rw [← Tap.sizes_handlers] at known
  obtain ⟨last, fault, final, -, ran⟩ :=
    Session.run_of_none_failed rfl (Tap.calmOn_handlers known) unbroken
      ({} : EngineConfig).maxReadErrors.toNat { clock := clock }
  obtain ⟨messages, carried, failures, state⟩ := Tap.dispatchAll_handlers known clock
  rw [Session.ending, failures, state] at ran
  obtain ⟨finished, kept, -, -⟩ :=
    Engine.settle_of_run (e := decoding clock (.replay file feed)) rfl rfl ran
  have received := receiveCapture_of_finished readable rfl finished
  rw [kept] at received
  rw [Tap.sizes_handlers] at carried final
  have scanner : last.scanner =
      Scan.scannerBehind {} (Scanner.cycles MessageKind.sizes {} (.replay file feed)) := by
    rw [Scan.scannerBehind, final]
    rfl
  refine ⟨messages, _, _, received, carried, rfl, rfl, congrArg Scanner.stats scanner, ?_, rfl⟩
  show last.scanner.stats.frames = (Record.handled clock messages).length
  rw [scanner, Scan.frames_scannerBehind, carried.length_eq, Record.length_handled]

/-! ## What is printed -/

/-- The text is what `decode` prints: a print for each record, one for the series if asked for, and
one for the report. -/
inductive Prints (format : Format) (file : String) (records : List Record)
    (report : Session.Report) : Bool → String → Prop where
  | plain {texts : List String} {told : String}
      (each : List.Forall₂ (·.Prints format) records texts) (counts : report.Prints file format told) :
      Prints format file records report false (String.join texts ++ told)
  | series {texts : List String} {summary told : String}
      (each : List.Forall₂ (·.Prints format) records texts)
      (summed : VariableSummary.Prints (SeriesStore.replayed records).summaries format summary)
      (counts : report.Prints file format told) :
      Prints format file records report true (String.join texts ++ summary ++ told)

theorem prints_decoded {tap : Tap} (store : tap.store = .replayed tap.records) (format : Format)
    (file : String) (report : Session.Report) (series : Bool) :
    Prints format file tap.records report series (decoded format file series tap report) := by
  have each : List.Forall₂ (·.Prints format) tap.records (tap.records.map (·.shown format)) :=
    List.forall₂_map_right_iff.2 (List.forall₂_same.2 fun r _ => r.prints_shown format)
  have counts := report.prints_shown file format
  rw [decoded]
  cases series with
  | false =>
    rw [if_neg Bool.false_ne_true, String.append_empty]
    exact .plain each counts
  | true =>
    rw [if_pos rfl, store]
    exact .series each (SeriesStore.prints_shown _ format) counts

/-- **Decoding agrees with the scan and with itself.** Let a capture be readable, whatever its bytes
are. `decode` has a record of each frame that its scan delivers, of the message that the frame
carries and of the moment at which it was handled, in their order; the report counts as many frames
and no handler that failed. It prints each record, then the series if asked for, then the report.
The series are those that an empty store comes to when it is told of these records: in ascending
order, one for each variable that a record tells something of since it was last removed, and no
other, with the last of its names, how many values it had from then on, the last of them, and two of
them that bound the others. The exit code is 60 when losses are to be told and the scan has dropped
a frame, and 0 otherwise. -/
theorem decode_agrees_with_scan {around : Surroundings} {file : String} {t : Transport}
    (readable : around.host.capture file = .ok t) (asked : Option Format) (series strict : Bool) :
    let cycles := Scanner.cycles MessageKind.sizes {} t
    let outcome := CommandLine.execute around ⟨.decode file series strict, asked⟩
    ∃ messages tap report,
      receiveCapture around.host around.clock file = .ok (tap, report) ∧
      Decoded around.clock t messages tap report ∧
      Prints (asked.getD around.format) file tap.records report series outcome.output ∧
      VariableSummary.Summarize (SeriesStore.replayed tap.records).summaries tap.records ∧
      (outcome.code = 60 ↔ strict ∧ ∃ c ∈ cycles, c.discards) ∧
      (outcome.code = 60 ∨ outcome.code = 0) := by
  intro cycles outcome
  obtain ⟨messages, tap, report, received, decodes⟩ := exists_decoded readable around.clock
  have left : outcome = verdict file strict report
      (decoded (asked.getD around.format) file series tap report) := by
    show Outcome.ofExcept
      (runDecode around.host around.clock (asked.getD around.format) file series strict) = _
    rw [runDecode_of_received received]
    rfl
  have lost : report.stats.discarded ≠ 0 ↔ ∃ c ∈ cycles, c.discards := by
    rw [decodes.stats]
    exact Scan.discarded_scannerBehind MessageKind.sizes t
  refine ⟨messages, tap, report, received, decodes, ?_, SeriesStore.summarize_replayed _, ?_, ?_⟩
  · rw [left, output_verdict]
    exact prints_decoded decodes.store _ file report series
  · rw [left, code_verdict, ← lost]
    split
    · next told => exact iff_of_true rfl told
    · next other => exact iff_of_false (by decide) other
  · rw [left, code_verdict]
    split
    · exact .inl rfl
    · exact .inr rfl

/-- A variable is removed and comes back without its name, under a clock that goes on; behind it
stand a command that is not known, noise and a frame that is cut off at the end. -/
theorem decode_agrees_with_scan_of_cut_capture :
    let messages : List Message :=
      [.label 7 (.ofText "old"), .update 7 ⟨0x3F800000⟩, .remove 7, .update 7 ⟨0x40000000⟩,
        .label 3 (.ofText "new")]
    let frames := messages.flatMap fun m => Wire.frameBytes m.kind.command m.body
    let bytes := frames ++ Wire.frameBytes 0x99 [1] ++ [0, 1] ++ [Wire.marker, 6, 0x20]
    let around : Surroundings := { host := ⟨fun _ => .ok (.file bytes)⟩, clock := UInt64.ofNat }
    let outcome := CommandLine.execute around ⟨.decode "bus" true true, none⟩
    around.host.capture "bus" = .ok (.replay "bus" (Feed.ofBytes bytes)) ∧
      (∃ messages tap report, receiveCapture around.host UInt64.ofNat "bus" = .ok (tap, report) ∧
        Decoded UInt64.ofNat (.replay "bus" (Feed.ofBytes bytes)) messages tap report ∧
        Prints .json "bus" tap.records report true outcome.output) ∧
      outcome.code = 60 := by
  intro messages frames bytes around outcome
  have readable : around.host.capture "bus" = .ok (.replay "bus" (Feed.ofBytes bytes)) := rfl
  obtain ⟨messages, tap, report, received, decodes, output, -, code, -⟩ :=
    decode_agrees_with_scan readable none true true
  refine ⟨readable, ⟨messages, tap, report, received, decodes, output⟩, code.2 ⟨rfl, ?_⟩⟩
  decide +kernel

end Command

end SerialLink
