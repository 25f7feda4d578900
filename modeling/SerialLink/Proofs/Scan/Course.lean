import SerialLink.Proofs.Transport.Reading
import SerialLink.Proofs.Wire.Layout
import SerialLink.Scan.Cycle

/-!
# What one cycle can do

`Course` lists the ways a cycle can go by what its reads come to, and there are no others
(`course_of_step`). Everything later about cycles is a case analysis of it. What every read keeps,
a cycle keeps (`Kept.step`): what it leaves is an end of the bytes that were there. A run is the
cycles of a caller who goes on whatever they end with.
-/

namespace SerialLink

namespace Scan

/-- A cycle that has read the header goes on to the body and the checksum, to check them or to pass
over them. -/
def GoesOn (sizes : CommandSizes) (h : Wire.Header) : Prop :=
  sizes h.command = none ∨ sizes h.command = some h.bodySize

theorem entry_of_not_goesOn {sizes : CommandSizes} {h : Wire.Header} (stops : ¬GoesOn sizes h) :
    ∃ expected, sizes h.command = some expected ∧ expected ≠ h.bodySize := by
  cases entry : sizes h.command with
  | none => exact absurd (.inl entry) stops
  | some expected => exact ⟨expected, rfl, fun same => stops (.inr (same ▸ entry))⟩

/-- The ways a cycle can go, each with what it leaves. -/
inductive Course (sizes : CommandSizes) (s : Scanner) (t : Transport) : Cycle → Prop where
  /-- no marker was found -/
  | unmarked {fault : Transport.Fault} {n : Nat} {t' : Transport}
      (sought : seek t = some ⟨.error fault, n, t'⟩) :
      Course sizes s t ⟨.error (.ofTransport fault), ⟨.seekingMarker, s.stats.skip n⟩, t'⟩
  /-- the read of the header failed -/
  | headless {fault : Transport.Fault} {n : Nat} {t₁ t₂ : Transport}
      (sought : seek t = some ⟨.ok (), n, t₁⟩)
      (read : t₁.readExact Wire.headerSize = some (.error fault, t₂)) :
      Course sizes s t (readFailed .header fault ⟨.readingHeader, s.stats.skip n⟩ t₂)
  /-- the header declares another length than its command requires -/
  | missized {n : Nat} {t₁ t₂ : Transport} {h : Wire.Header} {expected : Nat}
      (sought : seek t = some ⟨.ok (), n, t₁⟩)
      (headed : t₁.readExact Wire.headerSize = some (.ok h.bytes, t₂))
      (entry : sizes h.command = some expected) (differs : expected ≠ h.bodySize) :
      Course sizes s t
        (finished (.discarded (.sizeMismatch h.command expected h.bodySize)) (s.stats.skip n) t₂)
  /-- the read of the body and the checksum failed -/
  | bodiless {fault : Transport.Fault} {n : Nat} {t₁ t₂ t₃ : Transport} {h : Wire.Header}
      (sought : seek t = some ⟨.ok (), n, t₁⟩)
      (headed : t₁.readExact Wire.headerSize = some (.ok h.bytes, t₂))
      (entry : GoesOn sizes h)
      (read : t₂.readExact (h.bodySize + Checksum.size) = some (.error fault, t₃)) :
      Course sizes s t (readFailed .body fault ⟨.readingBody h, s.stats.skip n⟩ t₃)
  /-- the body and the checksum of an unknown command were passed over -/
  | unknown {n : Nat} {t₁ t₂ t₃ : Transport} {h : Wire.Header} {rest : List UInt8}
      (sought : seek t = some ⟨.ok (), n, t₁⟩)
      (headed : t₁.readExact Wire.headerSize = some (.ok h.bytes, t₂))
      (entry : sizes h.command = none)
      (read : t₂.readExact (h.bodySize + Checksum.size) = some (.ok rest, t₃)) :
      Course sizes s t
        (finished (.discarded (.unknownCommand h.command h.bodySize)) (s.stats.skip n) t₃)
  /-- a frame was read whole -/
  | whole {n : Nat} {t₁ t₂ t₃ : Transport} {h : Wire.Header} {rest : List UInt8}
      (sought : seek t = some ⟨.ok (), n, t₁⟩)
      (headed : t₁.readExact Wire.headerSize = some (.ok h.bytes, t₂))
      (entry : sizes h.command = some h.bodySize)
      (read : t₂.readExact (h.bodySize + Checksum.size) = some (.ok rest, t₃)) :
      Course sizes s t (finished (eventOf h rest) (s.stats.skip n) t₃)

/-! ## The event of a frame that was read whole -/

theorem eventOf_eq_frame_iff {h : Wire.Header} {rest : List UInt8} {f : Wire.Frame} :
    eventOf h rest = .frame f ↔
      Wire.checked h (rest.take h.bodySize) (Checksum.wordAt rest h.bodySize) = .ok f := by
  rw [Wire.checked_eq_ok_iff]
  simp only [eventOf]
  split
  · next agrees =>
    rw [Event.frame.injEq, eq_comm]
    exact (and_iff_right agrees).symm
  · next differs => exact iff_of_false (by simp) fun h => differs h.1

theorem eventOf_of_mismatch {h : Wire.Header} {rest : List UInt8} {computed received : UInt16}
    (rejected : Wire.checked h (rest.take h.bodySize) (Checksum.wordAt rest h.bodySize) =
      .error (.checksumMismatch computed received)) :
    eventOf h rest = .discarded (.checksumMismatch h.command computed received) := by
  obtain ⟨differs, same⟩ := Wire.checked_eq_error_iff.1 rejected
  cases same
  exact if_neg differs

/-! ## Seeking, read by read -/

theorem seek_of_none {t : Transport} (waits : t.readExact 1 = none) : seek t = none := by
  rw [seek]
  split <;> simp_all

theorem seek_of_error {t t' : Transport} {fault : Transport.Fault}
    (read : t.readExact 1 = some (.error fault, t')) : seek t = some ⟨.error fault, 0, t'⟩ := by
  rw [seek]
  split <;> simp_all

theorem seek_of_marker {t t' : Transport} (read : t.readExact 1 = some (.ok [Wire.marker], t')) :
    seek t = some ⟨.ok (), 0, t'⟩ := by
  rw [seek]
  split <;> simp_all

theorem seek_of_other {t t' : Transport} {b : UInt8} (other : b ≠ Wire.marker)
    (read : t.readExact 1 = some (.ok [b], t')) :
    seek t = (seek t').map fun a => { a with skipped := a.skipped + 1 } := by
  rw [seek]
  split <;> simp_all

/-! ## The ways of a cycle -/

/-- Behind a marker and a header the cycle is the rest of the frame. -/
theorem readFrame_of_header {sizes : CommandSizes} {stats : Stats} {t₁ t₂ : Transport}
    {h : Wire.Header} (headed : t₁.readExact Wire.headerSize = some (.ok h.bytes, t₂)) :
    readFrame sizes stats t₁ = readRest sizes h stats t₂ := by
  have same : Wire.Header.ofBytes h.bodyLength h.command.toUInt8 (h.command >>> 8).toUInt8 = h := by
    simp [Wire.Header.ofBytes]
  rw [readFrame, headed]
  simp only [Wire.Header.bytes, Checksum.wordBytes, same]

/-- Three bytes that were read are a header. -/
theorem exists_header {t₁ t₂ : Transport} {bytes : List UInt8}
    (read : t₁.readExact Wire.headerSize = some (.ok bytes, t₂)) :
    ∃ h : Wire.Header, bytes = h.bytes := by
  match bytes, (Transport.bytes_of_readExact read).2 with
  | [length, low, high], _ => exact ⟨.ofBytes length low high, by simp⟩

/-- Behind a marker the cycle is the frame. -/
theorem step_of_marker {sizes : CommandSizes} {s : Scanner} {t t₁ : Transport} {n : Nat}
    (sought : seek t = some ⟨.ok (), n, t₁⟩) :
    s.step sizes t = readFrame sizes (s.stats.skip n) t₁ := by
  rw [Scanner.step, sought]

theorem step_of_course {sizes : CommandSizes} {s : Scanner} {t : Transport} {c : Cycle}
    (course : Course sizes s t c) : s.step sizes t = some c := by
  cases course with
  | unmarked sought => rw [Scanner.step, sought]
  | headless sought read => rw [step_of_marker sought, readFrame, read]
  | missized sought headed entry differs =>
    rw [step_of_marker sought, readFrame_of_header headed, readRest, entry]
    exact if_pos differs
  | bodiless sought headed entry read =>
    rw [step_of_marker sought, readFrame_of_header headed, readRest]
    rcases entry with entry | entry
    · simp [entry, read]
    · simp [entry, read]
  | unknown sought headed entry read =>
    rw [step_of_marker sought, readFrame_of_header headed, readRest]
    simp [entry, read]
  | whole sought headed entry read =>
    rw [step_of_marker sought, readFrame_of_header headed, readRest]
    simp [entry, read]

theorem course_of_readRest {sizes : CommandSizes} {s : Scanner} {t t₁ t₂ : Transport} {n : Nat}
    {h : Wire.Header} {c : Cycle} (sought : seek t = some ⟨.ok (), n, t₁⟩)
    (headed : t₁.readExact Wire.headerSize = some (.ok h.bytes, t₂))
    (rest : readRest sizes h (s.stats.skip n) t₂ = some c) : Course sizes s t c := by
  unfold readRest at rest
  split at rest
  · next entry =>
    obtain ⟨⟨result, t₃⟩, read, rfl⟩ := Option.map_eq_some_iff.1 rest
    cases result with
    | error fault => exact .bodiless sought headed (.inl entry) read
    | ok bytes => exact .unknown sought headed entry read
  · next expected entry =>
    split at rest
    · next differs =>
      cases rest
      exact .missized sought headed entry differs
    · next agrees =>
      have known : sizes h.command = some h.bodySize := by rw [entry, Decidable.not_not.1 agrees]
      obtain ⟨⟨result, t₃⟩, read, rfl⟩ := Option.map_eq_some_iff.1 rest
      cases result with
      | error fault => exact .bodiless sought headed (.inr known) read
      | ok bytes => exact .whole sought headed known read

theorem course_of_step {sizes : CommandSizes} {s : Scanner} {t : Transport} {c : Cycle}
    (step : s.step sizes t = some c) : Course sizes s t c := by
  unfold Scanner.step at step
  split at step
  · simp at step
  · next a sought =>
    obtain ⟨result, n, t₁⟩ := a
    cases result with
    | error fault =>
      cases step
      exact .unmarked sought
    | ok _ =>
      replace step : readFrame sizes (s.stats.skip n) t₁ = some c := step
      cases read : t₁.readExact Wire.headerSize with
      | none => simp [readFrame, read] at step
      | some outcome =>
        obtain ⟨result, t₂⟩ := outcome
        cases result with
        | error fault =>
          simp only [readFrame, read, Option.some.injEq] at step
          subst step
          exact .headless sought read
        | ok bytes =>
          obtain ⟨h, rfl⟩ := exists_header read
          rw [readFrame_of_header read] at step
          exact course_of_readRest sought read step

/-! ## What a cycle leaves of the bytes -/

/-- A marker that is found stands behind bytes that are none, and they are counted. -/
theorem bytes_of_seek {t t' : Transport} {n : Nat} (h : seek t = some ⟨.ok (), n, t'⟩) :
    ∃ noise, Wire.marker ∉ noise ∧ noise.length = n ∧
      t.feed.bytes = noise ++ Wire.marker :: t'.feed.bytes := by
  fun_induction seek t generalizing n with
  | case1 => simp at h
  | case2 => simp at h
  | case3 t t₁ read =>
    cases h
    exact ⟨[], by simp, rfl, (Transport.bytes_of_readExact read).1⟩
  | case4 t bytes t₁ read other ih =>
    obtain ⟨⟨result, m, t₂⟩, ha, same⟩ := Option.map_eq_some_iff.1 h
    cases same
    obtain ⟨noise, clean, size, split⟩ := ih ha
    obtain ⟨front, one⟩ := Transport.bytes_of_readExact read
    obtain ⟨b, rfl⟩ := List.length_eq_one_iff.1 one
    have differs : Wire.marker ≠ b := fun same => other (by rw [same])
    refine ⟨b :: noise, by simp [differs, clean], by simp [size], ?_⟩
    rw [front, split]
    rfl

/-- A relation between a transport and a later one that every read keeps. -/
structure Kept (R : Transport → Transport → Prop) : Prop where
  trans : ∀ {t t₁ t₂}, R t t₁ → R t₁ t₂ → R t t₂
  reads : ∀ {t t₁ n result}, t.readExact n = some (result, t₁) → R t t₁

theorem Kept.refl {R : Transport → Transport → Prop} (kept : Kept R) (t : Transport) : R t t := by
  have same : t.readExact 0 = some (.ok [], t) := if_pos rfl
  exact kept.reads same

theorem Kept.seek {R : Transport → Transport → Prop} (kept : Kept R) {t : Transport} {a : Approach}
    (h : seek t = some a) : R t a.transport := by
  fun_induction Scan.seek t generalizing a with
  | case1 => simp at h
  | case2 t fault t₁ read =>
    cases h
    exact kept.reads read
  | case3 t t₁ read =>
    cases h
    exact kept.reads read
  | case4 t bytes t₁ read _ ih =>
    obtain ⟨b, hb, rfl⟩ := Option.map_eq_some_iff.1 h
    have later := ih hb
    exact kept.trans (kept.reads read) later

/-- What every read keeps, a cycle keeps. -/
theorem Kept.step {R : Transport → Transport → Prop} (kept : Kept R) {sizes : CommandSizes}
    {s : Scanner} {t : Transport} {c : Cycle} (h : s.step sizes t = some c) : R t c.transport := by
  cases course_of_step h with
  | unmarked sought => exact kept.seek sought
  | headless sought read =>
    rw [transport_readFailed]
    exact kept.trans (kept.seek sought) (kept.reads read)
  | missized sought headed => exact kept.trans (kept.seek sought) (kept.reads headed)
  | bodiless sought headed _ read =>
    rw [transport_readFailed]
    exact kept.trans (kept.trans (kept.seek sought) (kept.reads headed)) (kept.reads read)
  | unknown sought headed _ read | whole sought headed _ read =>
    exact kept.trans (kept.trans (kept.seek sought) (kept.reads headed)) (kept.reads read)

/-- What is left are the last bytes of those that were there. -/
theorem kept_suffix : Kept fun t t' => t'.feed.bytes <:+ t.feed.bytes where
  trans first second := second.trans first
  reads := Transport.suffix_readExact

theorem kept_live : Kept fun t t' => t'.live = t.live where
  trans first second := second.trans first
  reads := Transport.live_readExact

/-! ## Transports that never wait -/

theorem seek_isSome {t : Transport} (quiet : t.live = false) : (seek t).isSome := by
  fun_induction seek t with
  | case1 t waits =>
    have := Transport.readExact_isSome quiet 1
    simp [waits] at this
  | case2 => rfl
  | case3 => rfl
  | case4 t bytes t₁ read _ ih =>
    rw [Option.isSome_map]
    exact ih (Transport.live_readExact read ▸ quiet)

/-- A cycle takes place whatever the transport does, if it never waits. -/
theorem step_isSome {sizes : CommandSizes} {s : Scanner} {t : Transport} (quiet : t.live = false) :
    (s.step sizes t).isSome := by
  obtain ⟨⟨result, n, t₁⟩, sought⟩ := Option.isSome_iff_exists.1 (seek_isSome quiet)
  have quiet₁ : t₁.live = false := (kept_live.seek sought).trans quiet
  cases result with
  | error fault => rw [step_of_course (.unmarked sought)]; rfl
  | ok _ =>
    obtain ⟨⟨result, t₂⟩, read⟩ :=
      Option.isSome_iff_exists.1 (Transport.readExact_isSome quiet₁ Wire.headerSize)
    have quiet₂ : t₂.live = false := (Transport.live_readExact read).trans quiet₁
    cases result with
    | error fault => rw [step_of_course (.headless sought read)]; rfl
    | ok bytes =>
      obtain ⟨h, rfl⟩ := exists_header read
      rw [step_of_marker sought, readFrame_of_header read, readRest]
      have := Transport.readExact_isSome quiet₂ (h.bodySize + Checksum.size)
      split
      · rwa [Option.isSome_map]
      · split
        · rfl
        · rwa [Option.isSome_map]

end Scan

/-! ## Runs -/

namespace Scanner

theorem cycles_of_none {sizes : CommandSizes} {s : Scanner} {t : Transport}
    (waits : s.step sizes t = none) : s.cycles sizes t = [] := by
  rw [cycles]
  split <;> simp_all

theorem cycles_of_error {sizes : CommandSizes} {s : Scanner} {t : Transport} {c : Scan.Cycle}
    {fault : Wire.Fault} (step : s.step sizes t = some c) (ends : c.result = .error fault) :
    s.cycles sizes t = [c] := by
  rw [cycles]
  split <;> simp_all
  split <;> simp_all

theorem cycles_of_event {sizes : CommandSizes} {s : Scanner} {t : Transport} {c : Scan.Cycle}
    {e : Scan.Event} (step : s.step sizes t = some c) (goesOn : c.result = .ok e) :
    s.cycles sizes t = c :: c.scanner.cycles sizes c.transport := by
  rw [cycles]
  split <;> simp_all
  split <;> simp_all

/-- The cycles of a caller who goes on whatever they end with, `n` of them at most. -/
def run (sizes : CommandSizes) : Nat → Scanner → Transport → List Scan.Cycle
  | 0, _, _ => []
  | n + 1, s, t =>
    match s.step sizes t with
    | none => []
    | some c => c :: run sizes n c.scanner c.transport

/-- A caller of a transport that never waits gets as many cycles as it asks for. -/
theorem length_run {sizes : CommandSizes} (n : Nat) {s : Scanner} {t : Transport}
    (quiet : t.live = false) : (run sizes n s t).length = n := by
  induction n generalizing s t with
  | zero => rfl
  | succ n ih =>
    have takesPlace : (s.step sizes t).isSome := Scan.step_isSome quiet
    obtain ⟨c, step⟩ := Option.isSome_iff_exists.1 takesPlace
    rw [run, step, List.length_cons, ih ((Scan.kept_live.step step).trans quiet)]

end Scanner

end SerialLink
