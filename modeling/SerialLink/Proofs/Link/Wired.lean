import SerialLink.Proofs.Link.Exchange

/-!
# Frames on a stream

The frames of calls that are not refused are pieces of the bytes they are written to, whatever is in
their bodies (`Sending.Good.piece`), and the beginning of one is the beginning of no other piece
(`Torn.unfinished`). A stream that only its far end closes stays one under all that is done to it
(`Link.Wired`), and a cycle over it takes the piece that is ahead, or waits for the rest of it, or
finds the end.
-/

namespace SerialLink

/-! ## Calls -/

namespace Sending

variable {sizes : CommandSizes} {call : Sending}

/-- The call is not refused, and the host has no other length for its command. -/
structure Good (sizes : CommandSizes) (call : Sending) : Prop where
  accepted : call.request.Accepted
  fits : call.Fits sizes

/-- How the host's cycle over the frame ends. -/
def event (sizes : CommandSizes) (call : Sending) : Scan.Event :=
  if (sizes call.request.command).isSome then .frame call.request.frame
  else .discarded (.unknownCommand call.request.command call.request.body.length)

theorem Good.piece (good : call.Good sizes) :
    Scan.Piece sizes call.request.bytes (call.event sizes) := by
  unfold event
  rcases good.fits with unknown | known
  · rw [unknown]
    exact .of_unknown_request good.accepted unknown
  · rw [known]
    exact .of_request good.accepted known

/-- The frames of some calls. -/
def framesOf (calls : List Sending) : List UInt8 :=
  calls.flatMap fun call => call.request.bytes

@[simp] theorem framesOf_append (a b : List Sending) :
    framesOf (a ++ b) = framesOf a ++ framesOf b := by
  simp [framesOf]

@[simp] theorem framesOf_nil : framesOf [] = [] := rfl

@[simp] theorem framesOf_singleton (call : Sending) : framesOf [call] = call.request.bytes := by
  simp [framesOf]

/-- What the counts are behind the cycles over the frames of some calls. -/
def statsOf (sizes : CommandSizes) (calls : List Sending) : Scan.Stats where
  frames := calls.countP fun call => (sizes call.request.command).isSome
  unknownCommand := calls.countP fun call => (sizes call.request.command).isNone

theorem statsOf_snoc (calls : List Sending) (call : Sending) :
    statsOf sizes (calls ++ [call]) = (statsOf sizes calls).count (call.event sizes) := by
  cases entry : sizes call.request.command <;>
    simp [statsOf, event, Scan.Stats.count, entry]

end Sending

/-- The beginning of a frame, or nothing. -/
def Torn (sizes : CommandSizes) (bytes : List UInt8) : Prop :=
  bytes = [] ∨ ∃ (call : Sending) (rest : List UInt8), call.Good sizes ∧ rest ≠ [] ∧
    call.request.bytes = bytes ++ rest

/-- The beginning of a frame is no piece, nor does a piece stand in front of it. -/
theorem Torn.unfinished {sizes : CommandSizes} {bytes : List UInt8} (torn : Torn sizes bytes) :
    ∃ state, Scan.Unfinished sizes bytes state := by
  rcases torn with rfl | ⟨call, rest, good, more, split⟩
  · exact ⟨_, .nothing⟩
  · rcases List.eq_nil_or_concat bytes with rfl | ⟨front, b, rfl⟩
    · exact ⟨_, .nothing⟩
    · have valid := Wire.decode_bytes_append good.accepted []
      rw [List.append_nil] at valid
      have goesOn : Scan.GoesOn sizes call.request.frame.header := by
        rw [Scan.GoesOn, Wire.bodySize_frame good.accepted]
        exact good.fits
      have part : (front.concat b).length < call.request.bytes.length := by
        rw [split, List.length_append]
        have := List.length_pos_iff.2 more
        omega
      have unfinished := Scan.Unfinished.of_take valid (Wire.wireSize_frame _).symm goesOn
        (by simp) part
      rw [split, List.take_left] at unfinished
      exact ⟨_, unfinished⟩

/-! ## The link -/

namespace Link

/-- A stream that only the far end closes. -/
structure Wired (l : Link) : Prop where
  near : l.near.kind = .stream
  far : l.far.kind = .stream
  isOpen : l.far.isOpen = true → l.far.live = true ∧ l.near.Flowing ∧ l.near.live = true
  closed : l.far.isOpen = false → l.near.Steady

variable {l : Link}

theorem wired_pair : pair.Wired where
  near := rfl
  far := rfl
  isOpen _ := ⟨rfl, ⟨rfl, Feed.smooth_ofBytes []⟩, rfl⟩
  closed := nofun

/-- The link with more bytes on the way from the far end. -/
def carrying (l : Link) (bytes : List UInt8) : Link :=
  ⟨l.near.deliver bytes, { l.far with sent := l.far.sent ++ bytes }⟩

theorem Wired.write (wired : l.Wired) (isOpen : l.far.isOpen = true) (bytes : List UInt8) :
    l.write .far bytes = (.ok bytes.length, l.carrying bytes) := by
  obtain ⟨live, -, -⟩ := wired.isOpen isOpen
  have free : l.far.writeFault bytes = none := by
    rw [Transport.writeFault, wired.far, isOpen, live]
    simp
  simp [Link.write, endpoint, Transport.writeAll, free, update, End.other, carrying]

theorem Wired.write_closed (wired : l.Wired) (closed : l.far.isOpen = false)
    (bytes : List UInt8) : l.write .far bytes = (.error .closed, l) := by
  have fault : l.far.writeFault bytes = some .closed := by
    rw [Transport.writeFault, wired.far, closed]
    simp
  simp [Link.write, endpoint, Transport.writeAll, fault]

theorem Wired.carrying (wired : l.Wired) (isOpen : l.far.isOpen = true) (bytes : List UInt8) :
    (l.carrying bytes).Wired := by
  obtain ⟨live, flowing, liveNear⟩ := wired.isOpen isOpen
  refine ⟨wired.near, wired.far, fun _ => ⟨live, ⟨flowing.isOpen, ?_⟩, liveNear⟩, ?_⟩
  · exact flowing.smooth.snoc bytes
  · intro closed
    rw [Link.carrying, isOpen] at closed
    cases closed

theorem Wired.close_eq (wired : l.Wired) :
    l.close .far = ⟨l.near.hangUp, l.far.close.hangUp⟩ := by
  simp [Link.close, wired.near, update, Transport.hangUp, Transport.close]

/-- Closing the far end lets the near one read what is there. -/
theorem Wired.close (wired : l.Wired) : (l.close .far).Wired := by
  rw [wired.close_eq]
  refine ⟨wired.near, wired.far, nofun, fun _ => ?_⟩
  cases isOpen : l.far.isOpen with
  | true =>
    obtain ⟨-, flowing, -⟩ := wired.isOpen isOpen
    exact ⟨fun _ => flowing.isOpen, rfl, flowing.smooth⟩
  | false =>
    have steady := wired.closed isOpen
    exact ⟨steady.isOpen, rfl, steady.smooth⟩

theorem Wired.flowing (wired : l.Wired) (more : l.near.feed.bytes ≠ []) : l.near.Flowing := by
  cases isOpen : l.far.isOpen with
  | true => exact (wired.isOpen isOpen).2.1
  | false =>
    have steady := wired.closed isOpen
    exact ⟨steady.isOpen more, steady.smooth⟩

variable {sizes : CommandSizes} {s : Scanner} {c : Scan.Cycle}

theorem Wired.scan (wired : l.Wired) (step : s.step sizes l.near = some c) :
    Wired { l with near := c.transport } where
  near := (Scan.kept_kind.step step).trans wired.near
  far := wired.far
  isOpen isOpen := by
    obtain ⟨liveFar, flows⟩ := wired.isOpen isOpen
    exact ⟨liveFar, Scan.kept_flowing.step step flows⟩
  closed closed := Scan.kept_steady.step step (wired.closed closed)

/-- A cycle over a link that has a whole piece ahead. -/
theorem Wired.scan_piece (wired : l.Wired) {piece rest : List UInt8} {e : Scan.Event}
    (h : Scan.Piece sizes piece e) (split : l.near.feed.bytes = piece ++ rest)
    (step : s.step sizes l.near = some c) :
    c.result = .ok e ∧ c.scanner.stats = s.stats.count e ∧ c.transport.feed.bytes = rest := by
  have more : l.near.feed.bytes ≠ [] := by
    rw [split]
    exact List.append_ne_nil_of_left_ne_nil (List.length_pos_iff.1 h.length_pos) rest
  obtain ⟨t', step', -, left⟩ :=
    Scan.step_of_piece_flowing s (wired.flowing more) Scan.noise_nil h split
  cases step.symm.trans step'
  exact ⟨rfl, rfl, left⟩

/-- A cycle over a link that has the beginning of a frame ahead takes place only if no more can
come. -/
theorem Wired.scan_unfinished (wired : l.Wired) {tail : List UInt8} {state : Scan.State}
    (h : Scan.Unfinished sizes tail state) (split : l.near.feed.bytes = tail)
    (step : s.step sizes l.near = some c) :
    l.far.isOpen = false ∧ c.result = .error .connectionClosed ∧ c.scanner.stats = s.stats ∧
      c.transport.feed.bytes = [] := by
  cases isOpen : l.far.isOpen with
  | true =>
    obtain ⟨-, flowing, live⟩ := wired.isOpen isOpen
    have waits := Scan.step_eq_none s flowing live Scan.noise_nil h split
    rw [waits] at step
    cases step
  | false =>
    have steady := wired.closed isOpen
    have same : l.near.feed.bytes = (Transport.ofBytes tail).feed.bytes := by
      rw [split, Transport.bytes_feed_ofBytes]
    have ends := Scan.step_of_unfinished s Scan.noise_nil h
    have alike : Option.Rel (Scan.Cycle.Alike _) (s.step sizes l.near)
        (s.step sizes (.ofBytes tail)) :=
      Scan.lockstep_steady.step ⟨steady, Transport.steady_ofBytes tail, same⟩ s
    rw [step, ← List.nil_append tail, ends] at alike
    cases alike with
    | some told =>
      have stats : c.scanner.stats = s.stats := by
        rw [told.scanner]
        rfl
      exact ⟨rfl, told.result, stats, told.transport.2.2⟩

end Link

end SerialLink
