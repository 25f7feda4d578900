import SerialLink.Proofs.Scan.Course

/-!
# How cycles are accounted for

A cycle breaks off when one of its reads fails. `Breaks` says with which read, by the place that the
cycle has reached: it passes over bytes one by one, then has a marker, then a header. The place and
the fault settle how the cycle ends (`step_of_breaks`), and a cycle that ends in an error or in a
failed read has broken off (`breaks_of_error`, `breaks_of_readFailed`). The counts are then a matter
of one cycle (`accounted_of_step`) and of an induction over the run
(`measure_scannerBehind`).
-/

namespace SerialLink

namespace Scan

variable {sizes : CommandSizes} {s : Scanner} {t t' t₁ : Transport} {noise : List UInt8}
  {c : Cycle} {fault : Transport.Fault} {place : State}

/-! ## The read that fails -/

/-- Bytes that are read one by one on the way to a marker. -/
inductive Passes : Transport → List UInt8 → Transport → Prop where
  | nil (t : Transport) : Passes t [] t
  | cons {b : UInt8} {noise : List UInt8} {t t₁ t₂ : Transport} (other : b ≠ Wire.marker)
      (read : t.readExact 1 = some (.ok [b], t₁)) (later : Passes t₁ noise t₂) :
      Passes t (b :: noise) t₂

/-- A cycle's read that fails: the place that the cycle has reached by then, the bytes that it has
passed over, the fault, and what the read leaves. -/
inductive Breaks (sizes : CommandSizes) (t : Transport) :
    State → List UInt8 → Transport.Fault → Transport → Prop where
  | seeking {noise : List UInt8} {fault : Transport.Fault} {t₁ t' : Transport}
      (passed : Passes t noise t₁) (read : t₁.readExact 1 = some (.error fault, t')) :
      Breaks sizes t .seekingMarker noise fault t'
  | header {noise : List UInt8} {fault : Transport.Fault} {t₁ t₂ t' : Transport}
      (passed : Passes t noise t₁) (marked : t₁.readExact 1 = some (.ok [Wire.marker], t₂))
      (read : t₂.readExact Wire.headerSize = some (.error fault, t')) :
      Breaks sizes t .readingHeader noise fault t'
  /-- the read of the body and the checksum, be it to check them or to pass over them -/
  | body {noise : List UInt8} {fault : Transport.Fault} {h : Wire.Header} {t₁ t₂ t₃ t' : Transport}
      (passed : Passes t noise t₁) (marked : t₁.readExact 1 = some (.ok [Wire.marker], t₂))
      (headed : t₂.readExact Wire.headerSize = some (.ok h.bytes, t₃))
      (entry : sizes h.command = none ∨ sizes h.command = some h.bodySize)
      (read : t₃.readExact (h.bodySize + Checksum.size) = some (.error fault, t')) :
      Breaks sizes t (.readingBody h) noise fault t'

/-- The places inside a frame, with the part of the frame that is read there. -/
inductive Inside : State → Stage → Prop where
  | header : Inside .readingHeader .header
  | body (h : Wire.Header) : Inside (.readingBody h) .body

/-- Behind bytes that are passed over it is sought as from there. -/
theorem Passes.seek (passed : Passes t noise t₁) :
    seek t = (seek t₁).map fun a => { a with skipped := a.skipped + noise.length } := by
  induction passed with
  | nil t => simp
  | cons other read _ ih =>
    rw [seek_of_other other read, ih, Option.map_map]
    rfl

/-- What seeking finds, it finds with one read behind the bytes that it has passed over. -/
theorem passes_of_seek {a : Approach} (sought : seek t = some a) :
    ∃ noise t₁, Passes t noise t₁ ∧ noise.length = a.skipped ∧
      t₁.readExact 1 = some (a.result.map fun _ => [Wire.marker], a.transport) := by
  fun_induction Scan.seek t generalizing a with
  | case1 => simp at sought
  | case2 t fault t' read =>
    cases sought
    exact ⟨[], t, .nil t, rfl, read⟩
  | case3 t t' read =>
    cases sought
    exact ⟨[], t, .nil t, rfl, read⟩
  | case4 t bytes t' read differs ih =>
    obtain ⟨a', later, rfl⟩ := Option.map_eq_some_iff.1 sought
    obtain ⟨noise, t₁, passed, count, found⟩ := ih later
    obtain ⟨b, rfl⟩ := List.length_eq_one_iff.1 (Transport.bytes_of_readExact read).2
    have other : b ≠ Wire.marker := fun is => differs (by rw [is])
    exact ⟨b :: noise, t₁, .cons other read passed, by simp [count], found⟩

/-! ## How a cycle ends that breaks off -/

/-- How a cycle ends whose read failed at a place. -/
def brokenOff (s : Scanner) (place : State) (skipped : Nat) (fault : Transport.Fault)
    (t : Transport) : Cycle :=
  let stats := s.stats.skip skipped
  match place with
  | .seekingMarker => ⟨.error (.ofTransport fault), ⟨.seekingMarker, stats⟩, t⟩
  | .readingHeader => readFailed .header fault ⟨.readingHeader, stats⟩ t
  | place => readFailed .body fault ⟨place, stats⟩ t

theorem step_of_breaks (breaks : Breaks sizes t place noise fault t') :
    s.step sizes t = some (brokenOff s place noise.length fault t') := by
  cases breaks with
  | seeking passed read =>
    refine step_of_course (.unmarked ?_)
    rw [passed.seek, seek_of_error read]
    simp
  | header passed marked read =>
    refine step_of_course (.headless ?_ read)
    rw [passed.seek, seek_of_marker marked]
    simp
  | body passed marked headed entry read =>
    refine step_of_course (.bodiless ?_ headed entry read)
    rw [passed.seek, seek_of_marker marked]
    simp

/-- A cycle breaks off with one of its reads, or goes on to an event that is no failed read. -/
theorem breaks_or_event_of_step (step : s.step sizes t = some c) :
    (∃ place noise fault, Breaks sizes t place noise fault c.transport ∧
      c = brokenOff s place noise.length fault c.transport) ∨
    ∃ e n, (∀ stage reason, e ≠ .discarded (.readFailed stage reason)) ∧
      c = finished e (s.stats.skip n) c.transport := by
  cases course_of_step step with
  | unmarked sought =>
    obtain ⟨noise, t₁, passed, rfl, read⟩ := passes_of_seek sought
    exact .inl ⟨_, noise, _, .seeking passed read, rfl⟩
  | headless sought read =>
    obtain ⟨noise, t₁, passed, rfl, marked⟩ := passes_of_seek sought
    rw [transport_readFailed]
    exact .inl ⟨_, noise, _, .header passed marked read, rfl⟩
  | bodiless sought headed entry read =>
    obtain ⟨noise, t₁, passed, rfl, marked⟩ := passes_of_seek sought
    rw [transport_readFailed]
    exact .inl ⟨_, noise, _, .body passed marked headed entry read, rfl⟩
  | missized => exact .inr ⟨_, _, by simp, rfl⟩
  | unknown => exact .inr ⟨_, _, by simp, rfl⟩
  | @whole n t₁ t₂ t₃ h rest =>
    refine .inr ⟨eventOf h rest, n, ?_, rfl⟩
    intro stage reason
    simp only [eventOf]
    split <;> simp

/-- What a cycle comes to, by the read that it breaks off with, if it does, and by the place that it
has reached then. -/
structure Accounted (sizes : CommandSizes) (s : Scanner) (t : Transport) (c : Cycle) : Prop where
  /-- the transport is at its end, or a call has failed below while a marker was sought -/
  errors : ∀ fault, c.result = .error fault → fault = .connectionClosed ∨
    ∃ cause noise, fault = .transport (.io cause) ∧
      Breaks sizes t .seekingMarker noise (.io cause) c.transport
  /-- a call that fails while a marker is sought ends the cycle in an error -/
  sought : ∀ noise cause t', Breaks sizes t .seekingMarker noise (.io cause) t' →
    c.result = .error (.transport (.io cause))
  /-- so does the end of the transport, and inside a frame whatever fails once it is closed -/
  closed : ∀ place noise fault t', Breaks sizes t place noise fault t' →
    fault = .closed ∨ place ≠ .seekingMarker ∧ t'.isOpen = false →
      c.result = .error .connectionClosed
  /-- a call that fails inside a frame costs the frame as long as the transport is open -/
  costs : ∀ place stage noise cause t', Breaks sizes t place noise (.io cause) t' →
    Inside place stage → t'.isOpen = true →
      c.result = .ok (.discarded (.readFailed stage (Transport.Fault.io cause).message))
  /-- nothing else does -/
  failed : ∀ stage reason, c.result = .ok (.discarded (.readFailed stage reason)) →
    ∃ place noise cause, Breaks sizes t place noise (.io cause) c.transport ∧ Inside place stage ∧
      c.transport.isOpen = true ∧ reason = (Transport.Fault.io cause).message
  /-- behind an event a marker is sought again -/
  again : ∀ e, c.result = .ok e → c.scanner.state = .seekingMarker
  /-- behind an error the scanner is where it broke off, and has counted what it passed over -/
  reached : ∀ fault, c.result = .error fault →
    ∃ noise cause, Breaks sizes t c.scanner.state noise cause c.transport ∧
      c.scanner.stats = s.stats.skip noise.length

theorem Breaks.seeking_or_inside (breaks : Breaks sizes t place noise fault t') :
    place = .seekingMarker ∨ ∃ stage, Inside place stage := by
  cases breaks with
  | seeking => exact .inl rfl
  | header => exact .inr ⟨_, .header⟩
  | @body _ _ h => exact .inr ⟨_, .body h⟩

theorem Breaks.closed_or_io (breaks : Breaks sizes t place noise fault t') :
    fault = .closed ∨ ∃ cause, fault = .io cause := by
  cases breaks with
  | seeking _ read | header _ _ read | body _ _ _ _ read =>
    exact (Transport.fault_of_readExact read).imp_right fun ⟨cause, same, _⟩ => ⟨cause, same⟩

/-- Inside a frame it is the transport that decides what a failed read costs. -/
theorem Inside.brokenOff {stage : Stage} (inside : Inside place stage) (skipped : Nat) :
    brokenOff s place skipped fault t =
      if fault.isClosed || !t.isOpen then
        ⟨.error .connectionClosed, ⟨place, s.stats.skip skipped⟩, t⟩
      else
        finished (.discarded (.readFailed stage fault.message)) (s.stats.skip skipped) t := by
  cases inside <;> rfl

/-- The cycle that breaks off with a read is the one that takes place. -/
theorem eq_brokenOff (step : s.step sizes t = some c)
    (breaks : Breaks sizes t place noise fault t') :
    c = brokenOff s place noise.length fault t' :=
  Option.some.inj (step.symm.trans (step_of_breaks breaks))

theorem result_of_costs {stage : Stage} {cause : IoFailure} (step : s.step sizes t = some c)
    (breaks : Breaks sizes t place noise (.io cause) t') (inside : Inside place stage)
    (isOpen : t'.isOpen = true) :
    c.result = .ok (.discarded (.readFailed stage (Transport.Fault.io cause).message)) := by
  rw [eq_brokenOff step breaks, inside.brokenOff, isOpen]
  rfl

theorem result_of_closed (step : s.step sizes t = some c)
    (breaks : Breaks sizes t place noise fault t')
    (closed : fault = .closed ∨ place ≠ .seekingMarker ∧ t'.isOpen = false) :
    c.result = .error .connectionClosed := by
  rw [eq_brokenOff step breaks]
  rcases breaks.seeking_or_inside with rfl | ⟨stage, inside⟩
  · rcases closed with rfl | ⟨other, -⟩
    · rfl
    · exact absurd rfl other
  · rw [inside.brokenOff, if_pos]
    rcases closed with rfl | ⟨-, shut⟩
    · rfl
    · simp [shut]

/-- An error tells where the cycle broke off, and which read was the one that failed. -/
theorem breaks_of_error {f : Wire.Fault} (step : s.step sizes t = some c)
    (ends : c.result = .error f) :
    ∃ noise fault, Breaks sizes t c.scanner.state noise fault c.transport ∧
      c.scanner.stats = s.stats.skip noise.length ∧
      (f = .connectionClosed ∨
        c.scanner.state = .seekingMarker ∧ ∃ cause, fault = .io cause ∧ f = .transport fault) := by
  rcases breaks_or_event_of_step step with ⟨place, noise, fault, breaks, same⟩ | ⟨e, n, -, same⟩
  · rcases breaks.seeking_or_inside with rfl | ⟨stage, inside⟩
    · rw [same] at ends ⊢
      refine ⟨noise, fault, breaks, rfl, ?_⟩
      obtain rfl : Wire.Fault.ofTransport fault = f := Except.error.inj ends
      rcases breaks.closed_or_io with rfl | ⟨cause, rfl⟩
      · exact .inl rfl
      · exact .inr ⟨rfl, cause, rfl, rfl⟩
    · rw [inside.brokenOff] at same
      split at same
      · rw [same] at ends ⊢
        exact ⟨noise, fault, breaks, rfl, .inl (Except.error.inj ends).symm⟩
      · rw [same] at ends
        cases ends
  · rw [same] at ends
    cases ends

/-- A read that failed inside a frame is told only of a cycle that broke off there. -/
theorem breaks_of_readFailed {stage : Stage} {reason : String} (step : s.step sizes t = some c)
    (ends : c.result = .ok (.discarded (.readFailed stage reason))) :
    ∃ place noise cause, Breaks sizes t place noise (.io cause) c.transport ∧ Inside place stage ∧
      c.transport.isOpen = true ∧ reason = (Transport.Fault.io cause).message := by
  rcases breaks_or_event_of_step step with ⟨place, noise, fault, breaks, same⟩ | ⟨e, n, other, same⟩
  · rcases breaks.seeking_or_inside with rfl | ⟨stage', inside⟩
    · rw [same] at ends
      cases ends
    · rw [inside.brokenOff] at same
      split at same
      · rw [same] at ends
        cases ends
      · next passes =>
        have isOpen : c.transport.isOpen = true := by
          cases shut : c.transport.isOpen with
          | true => rfl
          | false => simp [shut] at passes
        rw [same] at ends
        cases ends
        rcases breaks.closed_or_io with rfl | ⟨cause, rfl⟩
        · exact absurd rfl passes
        · exact ⟨place, noise, cause, breaks, inside, isOpen, rfl⟩
  · rw [same] at ends
    exact absurd (Except.ok.inj ends) (other stage reason)

/-- An event is counted behind what was passed over, and a marker is sought next. -/
theorem scanner_of_event {e : Event} (step : s.step sizes t = some c) (ends : c.result = .ok e) :
    ∃ n, c.scanner = ⟨.seekingMarker, (s.stats.skip n).count e⟩ := by
  rcases breaks_or_event_of_step step with ⟨place, noise, fault, breaks, same⟩ | ⟨e', n, -, same⟩
  · rcases breaks.seeking_or_inside with rfl | ⟨stage, inside⟩
    · rw [same] at ends
      cases ends
    · rw [inside.brokenOff] at same
      split at same
      · rw [same] at ends
        cases ends
      · rw [same] at ends ⊢
        cases ends
        exact ⟨noise.length, rfl⟩
  · rw [same] at ends ⊢
    cases ends
    exact ⟨n, rfl⟩

theorem accounted_of_step (step : s.step sizes t = some c) : Accounted sizes s t c where
  errors f ends := by
    obtain ⟨noise, fault, breaks, -, closed | ⟨place, cause, rfl, rfl⟩⟩ := breaks_of_error step ends
    · exact .inl closed
    · exact .inr ⟨cause, noise, rfl, place ▸ breaks⟩
  sought noise cause t' breaks := by
    rw [eq_brokenOff step breaks]
    rfl
  closed _ _ _ _ breaks closed := result_of_closed step breaks closed
  costs _ _ _ _ _ breaks inside isOpen := result_of_costs step breaks inside isOpen
  failed _ _ ends := breaks_of_readFailed step ends
  again e ends := by
    obtain ⟨n, scanner⟩ := scanner_of_event step ends
    rw [scanner]
  reached f ends := by
    obtain ⟨noise, fault, breaks, stats, -⟩ := breaks_of_error step ends
    exact ⟨noise, fault, breaks, stats⟩

/-! ## Runs -/

/-- The kinds of event. -/
inductive Event.Kind where
  | frame | unknownCommand | sizeMismatch | checksumMismatch | readFailed
  deriving DecidableEq, Repr

/-- The kind of an event. -/
def Event.kind : Event → Kind
  | .frame _ => .frame
  | .discarded (.unknownCommand ..) => .unknownCommand
  | .discarded (.sizeMismatch ..) => .sizeMismatch
  | .discarded (.checksumMismatch ..) => .checksumMismatch
  | .discarded (.readFailed ..) => .readFailed

/-- How many events of a kind were counted. -/
def Stats.of (s : Stats) : Event.Kind → Nat
  | .frame => s.frames
  | .unknownCommand => s.unknownCommand
  | .sizeMismatch => s.sizeMismatch
  | .checksumMismatch => s.checksumMismatch
  | .readFailed => s.readFailures

theorem Stats.of_count (s : Stats) (e : Event) (kind : Event.Kind) :
    (s.count e).of kind = s.of kind + if e.kind = kind then 1 else 0 := by
  rcases e with f | (_ | _ | _ | _) <;> cases kind <;> rfl

theorem Stats.total_count (s : Stats) (e : Event) :
    (s.count e).frames + (s.count e).discarded = s.frames + s.discarded + 1 := by
  rcases e with f | (_ | _ | _ | _) <;> simp only [count, discarded] <;> omega

/-- The events that some cycles end with, in order. -/
def events (cycles : List Cycle) : List Event :=
  cycles.filterMap (·.result.toOption)

/-- The scanner behind some cycles. -/
def scannerBehind (s : Scanner) (cycles : List Cycle) : Scanner :=
  (cycles.getLast?.map Cycle.scanner).getD s

/-- The transport behind some cycles. -/
def transportBehind (t : Transport) (cycles : List Cycle) : Transport :=
  (cycles.getLast?.map Cycle.transport).getD t

theorem scannerBehind_cons (s : Scanner) (c : Cycle) (cycles : List Cycle) :
    scannerBehind s (c :: cycles) = scannerBehind c.scanner cycles := by
  unfold scannerBehind
  rw [List.getLast?_cons]
  cases cycles.getLast? <;> rfl

theorem transportBehind_cons (t : Transport) (c : Cycle) (cycles : List Cycle) :
    transportBehind t (c :: cycles) = transportBehind c.transport cycles := by
  unfold transportBehind
  rw [List.getLast?_cons]
  cases cycles.getLast? <;> rfl

/-- Each cycle of a run is the next one behind those before it. -/
theorem step_of_run {n : Nat} {older newer : List Cycle}
    (split : s.run sizes n t = older ++ c :: newer) :
    (scannerBehind s older).step sizes (transportBehind t older) = some c := by
  induction older generalizing n s t with
  | nil =>
    cases n with
    | zero => cases split
    | succ n =>
      unfold Scanner.run at split
      split at split
      · cases split
      · next first step =>
        cases split
        exact step
  | cons first older ih =>
    cases n with
    | zero => cases split
    | succ n =>
      unfold Scanner.run at split
      split at split
      · cases split
      · next first' step =>
        obtain ⟨rfl, later⟩ := List.cons.inj split
        rw [scannerBehind_cons, transportBehind_cons]
        exact ih later

/-- The cycles up to the first error are those of a caller who asks for as many. -/
theorem cycles_eq_run (sizes : CommandSizes) (s : Scanner) (t : Transport) :
    s.cycles sizes t = s.run sizes (s.cycles sizes t).length t := by
  induction size : t.feed.bytes.length using Nat.strongRecOn generalizing s t with
  | ind size ih =>
    cases step : s.step sizes t with
    | none =>
      rw [Scanner.cycles_of_none step]
      rfl
    | some c =>
      cases ends : c.result with
      | error fault =>
        rw [Scanner.cycles_of_error step ends, List.length_singleton, Scanner.run, step]
        rfl
      | ok e =>
        have shorter := Scanner.length_bytes_step step ends
        rw [Scanner.cycles_of_event step ends, List.length_cons, Scanner.run, step]
        exact congrArg (c :: ·) (ih _ (size ▸ shorter) c.scanner c.transport rfl)

/-- What every read keeps holds where a cycle begins. -/
theorem Kept.transportBehind {R : Transport → Transport → Prop} (kept : Kept R) {n : Nat}
    {older newer : List Cycle} (split : s.run sizes n t = older ++ newer) :
    R t (transportBehind t older) := by
  induction older generalizing n s t with
  | nil => exact kept.refl t
  | cons first older ih =>
    cases n with
    | zero => cases split
    | succ n =>
      unfold Scanner.run at split
      split at split
      · cases split
      · next first' step =>
        obtain ⟨rfl, later⟩ := List.cons.inj split
        rw [transportBehind_cons]
        exact kept.trans (kept.step step) (ih later)

/-- Each cycle of a scan is one that begins where the reads before it have led. -/
theorem Kept.mem_cycles {R : Transport → Transport → Prop} (kept : Kept R)
    (member : c ∈ s.cycles sizes t) :
    ∃ (s' : Scanner) (t' : Transport), R t t' ∧ s'.step sizes t' = some c := by
  obtain ⟨older, newer, split⟩ := List.append_of_mem member
  rw [cycles_eq_run] at split
  exact ⟨_, _, kept.transportBehind split, step_of_run split⟩

/-- What every read keeps holds at the read that a cycle breaks off with. -/
theorem Kept.breaks {R : Transport → Transport → Prop} (kept : Kept R)
    (breaks : Breaks sizes t place noise fault t') :
    ∃ t₁ n, R t t₁ ∧ t₁.readExact n = some (.error fault, t') := by
  have passes {t t₁ : Transport} {noise : List UInt8} (passed : Passes t noise t₁) : R t t₁ := by
    induction passed with
    | nil t => exact kept.refl t
    | cons _ read _ ih => exact kept.trans (kept.reads read) ih
  cases breaks with
  | seeking passed read => exact ⟨_, _, passes passed, read⟩
  | header passed marked read =>
    exact ⟨_, _, kept.trans (passes passed) (kept.reads marked), read⟩
  | body passed marked headed _ read =>
    exact ⟨_, _, kept.trans (kept.trans (passes passed) (kept.reads marked)) (kept.reads headed),
      read⟩

/-- A measure of the counts that what is passed over does not change grows by what the events of a
run add to it. -/
theorem measure_scannerBehind (measure : Stats → Nat) (adds : Event → Bool)
    (skip : ∀ stats n, measure (stats.skip n) = measure stats)
    (count : ∀ stats e, measure (stats.count e) = measure stats + if adds e then 1 else 0) (n : Nat) :
    measure (scannerBehind s (s.run sizes n t)).stats =
      measure s.stats + (events (s.run sizes n t)).countP adds := by
  induction n generalizing s t with
  | zero => rfl
  | succ n ih =>
    unfold Scanner.run
    split
    · rfl
    · next c step =>
      rw [scannerBehind_cons, ih]
      cases ends : c.result with
      | error f =>
        have none : events (c :: c.scanner.run sizes n c.transport) =
            events (c.scanner.run sizes n c.transport) := by
          simp [events, ends, Except.toOption]
        obtain ⟨noise, fault, -, stats, -⟩ := breaks_of_error step ends
        rw [none, stats, skip]
      | ok e =>
        have one : events (c :: c.scanner.run sizes n c.transport) =
            e :: events (c.scanner.run sizes n c.transport) := by
          simp [events, ends, Except.toOption]
        obtain ⟨m, scanner⟩ := scanner_of_event step ends
        rw [one, List.countP_cons, scanner, count, skip]
        omega

/-- A run counts each event under its kind. -/
theorem of_scannerBehind (kind : Event.Kind) (n : Nat) :
    (scannerBehind s (s.run sizes n t)).stats.of kind =
      s.stats.of kind + (events (s.run sizes n t)).countP (·.kind = kind) := by
  have skip (stats : Stats) (n : Nat) : (stats.skip n).of kind = stats.of kind := by
    cases kind <;> rfl
  exact measure_scannerBehind (·.of kind) (·.kind = kind) skip
    (fun stats e => by simp [Stats.of_count]) n

/-- **Every cycle is accounted for.** Over every feed and for every caller who goes on whatever the
cycles end with, each cycle takes place and is what its reads make of it: it breaks off with an
error that tells the end of the transport, or a failure while a marker was sought; a failure inside
a frame, be it in one that is passed over, costs the frame unless the transport is closed. Behind an
event the scanner seeks a marker, and behind an error it stands where it broke off and has counted
nothing but what it passed over. Each count is the number of events of its kind, and together they
are as many as there were events. -/
theorem cycles_are_accounted (sizes : CommandSizes) (name : String) (feed : Feed) (n : Nat) :
    let t := Transport.replay name feed
    let cycles := Scanner.run sizes n {} t
    let stats := (scannerBehind {} cycles).stats
    cycles.length = n ∧
    (∀ older c newer, cycles = older ++ c :: newer →
      Accounted sizes (scannerBehind {} older) (transportBehind t older) c) ∧
    (∀ kind, stats.of kind = (events cycles).countP (·.kind = kind)) ∧
    stats.frames + stats.discarded = (events cycles).length := by
  refine ⟨Scanner.length_run n rfl, ?_, ?_, ?_⟩
  · intro older c newer split
    exact accounted_of_step (step_of_run split)
  · intro kind
    have none : Stats.of {} kind = 0 := by cases kind <;> rfl
    rw [of_scannerBehind, none, Nat.zero_add]
  · have counted := @measure_scannerBehind sizes {} (Transport.replay name feed)
      (fun stats => stats.frames + stats.discarded) (fun _ => true) (fun _ _ => rfl)
      (fun stats e => by simp [Stats.total_count]) n
    rw [counted, List.countP_true]
    exact Nat.zero_add _

/-- A read that fails in an unknown frame is a failed read and no unknown command; the frame behind
it is broken off by the owner, and that is no event. -/
example :
    let feed : Feed :=
      [.data [0xA5, 2, 1, 0, 7], .failed ⟨.other, "lost"⟩, .data [0xA5, 2], .closed,
        .failed ⟨.other, "lost"⟩]
    let cycles := Scanner.run (fun _ => none) 3 {} (.replay "line" feed)
    (events cycles).map Event.kind = [.readFailed] ∧
      (scannerBehind {} cycles).state = .seekingMarker := by
  decide +kernel

end Scan

end SerialLink
