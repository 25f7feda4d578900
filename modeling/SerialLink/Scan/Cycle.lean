import SerialLink.Scan.Basic
import SerialLink.Transport.Basic

/-!
# Scan cycles

A cycle passes over bytes until a marker, reads a header, and by the command's entry either skips
the body, drops the frame at once for its length, or reads body and checksum and compares. Only a
transport that can yield no more is an error; a read that fails on an open transport costs the frame
it was for. A cycle that would have to wait for bytes has not happened yet and is `none`.
-/

namespace SerialLink

namespace Scan

/-- The way to the next marker: the bytes passed over and where the transport is then. -/
structure Approach where
  result : Except Transport.Fault Unit
  skipped : Nat
  transport : Transport

/-- Reads up to and including the next marker. -/
def seek (t : Transport) : Option Approach :=
  match _ : t.readExact 1 with
  | none => none
  | some (.error fault, t') => some ⟨.error fault, 0, t'⟩
  | some (.ok bytes, t') =>
    if bytes = [Wire.marker] then some ⟨.ok (), 0, t'⟩
    else (seek t').map fun a => { a with skipped := a.skipped + 1 }
termination_by t.feed.bytes.length
decreasing_by
  have := Transport.bytes_of_readExact (by assumption)
  have := congrArg List.length this.1
  simp only [List.length_append] at this
  omega

/-- What a cycle leaves. -/
structure Cycle where
  result : Except Wire.Fault Event
  scanner : Scanner
  transport : Transport

/-- A cycle that ends with an event. -/
def finished (event : Event) (stats : Stats) (t : Transport) : Cycle :=
  ⟨.ok event, ⟨.seekingMarker, stats.count event⟩, t⟩

/-- A cycle whose read failed inside a frame. -/
def readFailed (stage : Stage) (fault : Transport.Fault) (s : Scanner) (t : Transport) : Cycle :=
  if fault.isClosed || !t.isOpen then ⟨.error .connectionClosed, s, t⟩
  else finished (.discarded (.readFailed stage fault.message)) s.stats t

/-- The event of a frame that was read whole, `rest` being its body and checksum. -/
def eventOf (header : Wire.Header) (rest : List UInt8) : Event :=
  let body := rest.take header.bodySize
  let received := Checksum.wordAt rest header.bodySize
  let computed := Checksum.compute (Wire.marker :: header.bytes ++ body)
  if computed = received then .frame ⟨header, body, received⟩
  else .discarded (.checksumMismatch header.command computed received)

/-- The part of a cycle behind the header. -/
def readRest (sizes : CommandSizes) (header : Wire.Header) (stats : Stats) (t : Transport) :
    Option Cycle :=
  let reading (event : List UInt8 → Event) : Option Cycle :=
    (t.readExact (header.bodySize + Checksum.size)).map fun
      | (.error fault, t) => readFailed .body fault ⟨.readingBody header, stats⟩ t
      | (.ok rest, t) => finished (event rest) stats t
  match sizes header.command with
  | none => reading fun _ => .discarded (.unknownCommand header.command header.bodySize)
  | some expected =>
    if expected ≠ header.bodySize then
      some (finished (.discarded (.sizeMismatch header.command expected header.bodySize)) stats t)
    else reading (eventOf header)

/-- The part of a cycle behind the marker. -/
def readFrame (sizes : CommandSizes) (stats : Stats) (t : Transport) : Option Cycle :=
  match t.readExact Wire.headerSize with
  | none => none
  | some (.error fault, t) => some (readFailed .header fault ⟨.readingHeader, stats⟩ t)
  | some (.ok bytes, t) =>
    match bytes with
    | [length, low, high] => readRest sizes (Wire.Header.ofBytes length low high) stats t
    | _ => none

end Scan

namespace Scanner

/-- One cycle. -/
def step (sizes : CommandSizes) (s : Scanner) (t : Transport) : Option Scan.Cycle :=
  match Scan.seek t with
  | none => none
  | some a =>
    let stats := s.stats.skip a.skipped
    match a.result with
    | .error fault => some ⟨.error (.ofTransport fault), ⟨.seekingMarker, stats⟩, a.transport⟩
    | .ok () => Scan.readFrame sizes stats a.transport

end Scanner

namespace Scan

/-- Seeking adds nothing to the feed, and a marker found is a byte less. -/
theorem length_bytes_seek {t : Transport} {a : Approach} (h : seek t = some a) :
    a.transport.feed.bytes.length ≤ t.feed.bytes.length ∧
      (a.result = .ok () → a.transport.feed.bytes.length < t.feed.bytes.length) := by
  fun_induction seek t generalizing a with
  | case1 => simp at h
  | case2 t fault t' hr =>
    cases h
    exact ⟨Transport.length_bytes_readExact_le hr, by simp⟩
  | case3 t t' hr =>
    cases h
    have := congrArg List.length (Transport.bytes_of_readExact hr).1
    simp only [List.length_append, List.length_cons, List.length_nil] at this
    exact ⟨by simp only; omega, fun _ => by simp only; omega⟩
  | case4 t bytes t' hr hne ih =>
    obtain ⟨b, hb, rfl⟩ := Option.map_eq_some_iff.1 h
    have := Transport.length_bytes_readExact_le hr
    obtain ⟨h1, h2⟩ := ih hb
    exact ⟨by simp only; omega, fun hok => by have := h2 hok; simp only; omega⟩

theorem transport_finished (event : Event) (stats : Stats) (t : Transport) :
    (finished event stats t).transport = t := rfl

theorem transport_readFailed (stage : Stage) (fault : Transport.Fault) (s : Scanner)
    (t : Transport) : (readFailed stage fault s t).transport = t := by
  unfold readFailed
  split <;> rfl

theorem length_bytes_readRest {sizes : CommandSizes} {header : Wire.Header} {stats : Stats}
    {t : Transport} {c : Cycle} (h : readRest sizes header stats t = some c) :
    c.transport.feed.bytes.length ≤ t.feed.bytes.length := by
  have reading : ∀ {event : List UInt8 → Event} {c : Cycle},
      ((t.readExact (header.bodySize + Checksum.size)).map fun
        | (.error fault, t) => readFailed .body fault ⟨.readingBody header, stats⟩ t
        | (.ok rest, t) => finished (event rest) stats t) = some c →
      c.transport.feed.bytes.length ≤ t.feed.bytes.length := by
    intro event c hc
    obtain ⟨⟨result, t'⟩, hr, rfl⟩ := Option.map_eq_some_iff.1 hc
    have := Transport.length_bytes_readExact_le hr
    cases result <;> simpa [transport_readFailed, transport_finished] using this
  unfold readRest at h
  split at h
  · exact reading h
  · split at h
    · cases h; simp [transport_finished]
    · exact reading h

theorem length_bytes_readFrame {sizes : CommandSizes} {stats : Stats} {t : Transport} {c : Cycle}
    (h : readFrame sizes stats t = some c) :
    c.transport.feed.bytes.length ≤ t.feed.bytes.length := by
  unfold readFrame at h
  split at h
  · simp at h
  · next hr =>
    cases h
    simpa [transport_readFailed] using Transport.length_bytes_readExact_le hr
  · next hr =>
    have := Transport.length_bytes_readExact_le hr
    split at h
    · have := length_bytes_readRest h
      omega
    · simp at h

end Scan

namespace Scanner

/-- A cycle that ends with an event has taken at least its marker. -/
theorem length_bytes_step {sizes : CommandSizes} {s : Scanner} {t : Transport} {c : Scan.Cycle}
    {event : Scan.Event} (h : s.step sizes t = some c) (hok : c.result = .ok event) :
    c.transport.feed.bytes.length < t.feed.bytes.length := by
  unfold step at h
  split at h
  · simp at h
  · next a ha =>
    split at h
    · cases h; simp at hok
    · next hr =>
      have := (Scan.length_bytes_seek ha).2 hr
      have := Scan.length_bytes_readFrame h
      omega

/-- The cycles up to and including the first error, or up to the one that has to wait. -/
def cycles (sizes : CommandSizes) (s : Scanner) (t : Transport) : List Scan.Cycle :=
  match _ : s.step sizes t with
  | none => []
  | some c =>
    match _ : c.result with
    | .error _ => [c]
    | .ok _ => c :: cycles sizes c.scanner c.transport
termination_by t.feed.bytes.length
decreasing_by exact length_bytes_step (by assumption) (by assumption)

/-- Cycles until one ends with a frame or an error. -/
def next (sizes : CommandSizes) (s : Scanner) (t : Transport) :
    Option (Except Wire.Fault Wire.Frame × Scanner × Transport) :=
  match _ : s.step sizes t with
  | none => none
  | some c =>
    match _ : c.result with
    | .error fault => some (.error fault, c.scanner, c.transport)
    | .ok (.frame frame) => some (.ok frame, c.scanner, c.transport)
    | .ok (.discarded _) => next sizes c.scanner c.transport
termination_by t.feed.bytes.length
decreasing_by exact length_bytes_step (by assumption) (by assumption)

end Scanner

end SerialLink
