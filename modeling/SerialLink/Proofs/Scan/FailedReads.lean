import SerialLink.Proofs.Scan.Chunking
import SerialLink.Proofs.Scan.Yielding

/-!
# A failed read costs one frame

A read that fails throws away what it had, so a scanner goes on in the middle of the frame that the
read was for. As long as that frame holds no further marker, what is left of it is noise to the
scanner, and the next frame is found whole (`failed_reads_cost_one_frame`). A transport has some
bytes `Ahead` of whatever its feed does then, however these bytes are cut into chunks. A cycle that
finds all it takes among them goes as over these bytes alone (`yields_ahead`). One that finds the
beginning of a frame, and behind it a failure, ends with the failure, up to which everything is used
up (`step_of_failed`).
-/

namespace SerialLink

/-! ## Bytes that are ahead -/

theorem Feed.push_push (a b : List UInt8) (feed : Feed) :
    push a (push b feed) = push (a ++ b) feed := by
  rcases exists_data_or_push_eq_cons feed with ⟨more, rest, rfl⟩ | own
  · simp
  · by_cases none : b = []
    · rw [none, push_nil, List.append_nil]
    · have more : a ++ b ≠ [] := by simp [none]
      rw [own, own, cons_of_ne_nil none, cons_of_ne_nil more, push_data]

namespace Transport

/-- The transport is open, and before it meets the events of a feed it meets some bytes. -/
structure Ahead (t : Transport) (bytes : List UInt8) (f : Feed) : Prop where
  isOpen : t.isOpen = true
  unclosed : t.feed.Unclosed
  feed : t.feed.joined = Feed.push bytes f.joined

variable {t : Transport} {bytes : List UInt8} {f : Feed} {n : Nat}

/-- A chunk that comes next is ahead as well. -/
theorem Ahead.data {more : List UInt8} (ahead : t.Ahead bytes (.data more :: f)) :
    t.Ahead (bytes ++ more) f := by
  refine ⟨ahead.isOpen, ahead.unclosed, ?_⟩
  rw [ahead.feed, Feed.joined, Feed.push_push]

/-- What is read of a transport is what is read of the bytes and the feed behind them. -/
theorem Ahead.readExact_of_fill (ahead : t.Ahead bytes f) (wanted : 0 < n) {i : Intake}
    (filled : fill t.kind t.live n true (Feed.push bytes f.joined) = some i) :
    ∃ t', t.readExact n = some (i.result, t') ∧ t'.isOpen = i.isOpen ∧ t'.feed.Unclosed ∧
      t'.feed.joined = i.feed := by
  have same : fill t.kind t.live n true t.feed.joined =
      (fill t.kind t.live n true t.feed).map Intake.joined := fill_joined ahead.unclosed wanted
  rw [ahead.feed, filled] at same
  obtain ⟨j, first, rfl⟩ := Option.map_eq_some_iff.1 same.symm
  refine ⟨{ t with isOpen := j.isOpen, feed := j.feed }, ?_, rfl,
    (fills_of_fill first).unclosed ahead.unclosed, rfl⟩
  rw [Transport.readExact, if_neg (Nat.ne_of_gt wanted), if_pos ahead.isOpen, first]
  rfl

/-- A read takes the next of the bytes, as long as there are enough. -/
theorem Ahead.readExact (ahead : t.Ahead bytes f) (enough : n ≤ bytes.length) :
    ∃ t', t.readExact n = some (.ok (bytes.take n), t') ∧ t'.Ahead (bytes.drop n) f := by
  rcases Nat.eq_zero_or_pos n with rfl | wanted
  · exact ⟨t, rfl, ahead⟩
  · have filled : fill t.kind t.live n true (Feed.push bytes f.joined) =
        some ⟨.ok (bytes.take n), true, Feed.push (bytes.drop n) f.joined⟩ :=
      fill_push_of_le wanted enough fun _ _ => Feed.ne_nil_of_joined
    obtain ⟨t', read, isOpen, unclosed, left⟩ := ahead.readExact_of_fill wanted filled
    exact ⟨t', read, isOpen, unclosed, left⟩

/-- A read that wants more than stands before a failure uses it up and fails. -/
theorem Ahead.readExact_of_failed {cause : IoFailure} (ahead : t.Ahead bytes (.failed cause :: f))
    (short : bytes.length < n) :
    ∃ t', t.readExact n = some (.error (.io cause), t') ∧ t'.Ahead [] f := by
  have filled : fill t.kind t.live n true (Feed.push bytes (Feed.joined (.failed cause :: f))) =
      some ⟨.error (.io cause), true, f.joined⟩ := by
    rw [fill_push_of_lt short]
    rfl
  obtain ⟨t', read, isOpen, unclosed, left⟩ := ahead.readExact_of_fill (by omega) filled
  exact ⟨t', read, isOpen, unclosed, left.trans (Feed.push_nil _).symm⟩

/-- A read that wants more than there is finds the transport closed. -/
theorem Ahead.readExact_of_end (ahead : t.Ahead bytes []) (quiet : t.live = false)
    (short : bytes.length < n) : ∃ t', t.readExact n = some (.error .closed, t') := by
  have filled : fill t.kind t.live n true (Feed.push bytes (Feed.joined [])) =
      some ⟨.error .closed, openAfterEnd t.kind true, []⟩ := by
    rw [fill_push_of_lt short, quiet]
    rfl
  obtain ⟨t', read, -⟩ := ahead.readExact_of_fill (by omega) filled
  exact ⟨t', read⟩

end Transport

namespace Scan

/-! ## One cycle -/

variable {sizes : CommandSizes} {t : Transport} {noise : List UInt8} {f : Feed}

/-- A transport yields the bytes that are ahead. -/
theorem yields_ahead (f : Feed) : Yields fun t u => t.Ahead u.feed.bytes f := by
  intro t u u' n bytes ahead read
  obtain ⟨split, rfl⟩ := Transport.bytes_of_readExact read
  rw [split] at ahead
  have enough : bytes.length ≤ (bytes ++ u'.feed.bytes).length := by
    rw [List.length_append]
    omega
  obtain ⟨t', read', ahead'⟩ := ahead.readExact enough
  rw [List.take_left] at read'
  rw [List.drop_left] at ahead'
  exact ⟨t', read', ahead'⟩

theorem ahead_ofBytes {bytes : List UInt8} :
    t.Ahead (Transport.ofBytes bytes).feed.bytes f ↔ t.Ahead bytes f := by
  rw [Transport.bytes_feed_ofBytes]

/-- The part of a frame that a scanner is in. -/
def State.stage : State → Option Stage
  | seekingMarker => none
  | readingHeader => some .header
  | readingBody _ | verifyingChecksum _ => some .body

theorem readFailed_io {stage : Stage} {cause : IoFailure} (s : Scanner) (isOpen : t.isOpen = true) :
    readFailed stage (.io cause) s t =
      finished (.discarded (.readFailed stage (Transport.Fault.io cause).message)) s.stats t := by
  simp [readFailed, Transport.Fault.isClosed, isOpen]

/-- A failure behind the beginning of a frame costs the beginning, and nothing behind it. -/
theorem step_of_failed {tail : List UInt8} {state : State} {stage : Stage} {cause : IoFailure}
    (s : Scanner) (clean : Noise noise) (unfinished : Unfinished sizes tail state)
    (inside : state.stage = some stage) (ahead : t.Ahead (noise ++ tail) (.failed cause :: f)) :
    ∃ t', s.step sizes t = some (finished
        (.discarded (.readFailed stage (Transport.Fault.io cause).message))
        (s.stats.skip noise.length) t') ∧ t'.Ahead [] f := by
  have yields : Yields _ := yields_ahead (.failed cause :: f)
  cases unfinished with
  | nothing => cases inside
  | header short =>
    obtain rfl := Option.some.inj inside
    obtain ⟨t₁, sought, ahead₁⟩ := yields.seek (ahead_ofBytes.2 ahead) (seek_ofBytes clean _)
    obtain ⟨t', read, ahead'⟩ := (ahead_ofBytes.1 ahead₁).readExact_of_failed short
    refine ⟨t', ?_, ahead'⟩
    rw [step_of_course (.headless sought read), readFailed_io _ ahead'.isOpen]
  | @body h rest goesOn short =>
    obtain rfl := Option.some.inj inside
    obtain ⟨t₁, sought, ahead₁⟩ := yields.seek (ahead_ofBytes.2 ahead) (seek_ofBytes clean _)
    obtain ⟨t₂, headed, ahead₂⟩ :=
      yields ahead₁ (Transport.readExact_ofBytes h.length_bytes rest)
    obtain ⟨t', read, ahead'⟩ := (ahead_ofBytes.1 ahead₂).readExact_of_failed short
    refine ⟨t', ?_, ahead'⟩
    rw [step_of_course (.bodiless sought headed goesOn read), readFailed_io _ ahead'.isOpen]

/-- Noise before the end is passed over, and the end is found. -/
theorem seek_of_end (ahead : t.Ahead noise []) (quiet : t.live = false) (clean : Noise noise) :
    ∃ t', seek t = some ⟨.error .closed, noise.length, t'⟩ := by
  induction noise generalizing t with
  | nil =>
    obtain ⟨t', read⟩ := ahead.readExact_of_end quiet Nat.zero_lt_one
    exact ⟨t', seek_of_error read⟩
  | cons b noise ih =>
    obtain ⟨other, clean⟩ := noise_cons.1 clean
    obtain ⟨t₁, read, ahead₁⟩ := ahead.readExact (n := 1) (by simp)
    have quiet₁ : t₁.live = false := (Transport.live_readExact read).trans quiet
    obtain ⟨t', sought⟩ := ih ahead₁ quiet₁ clean
    refine ⟨t', ?_⟩
    rw [seek_of_other other read, sought]
    rfl

/-! ## Frames that reads fail inside -/

/-- A frame that is served behind noise. If a read fails inside it: how many of its bytes have been
served before, and the cause. -/
structure Served where
  noise : List UInt8
  bytes : List UInt8
  frame : Wire.Frame
  failure : Option (Nat × IoFailure) := none

namespace Served

/-- The frame is whole and valid, and its command is either unknown or known with the length of its
body. A read only fails behind its marker and before its last byte, and only if the frame holds no
other marker. -/
structure Fits (sizes : CommandSizes) (p : Served) : Prop where
  noise : Noise p.noise
  valid : Wire.decode p.bytes = .ok p.frame
  complete : p.bytes.length = p.frame.wireSize
  entry : sizes p.frame.command = none ∨ sizes p.frame.command = some p.frame.body.length
  inside : ∀ served cause, p.failure = some (served, cause) →
    0 < served ∧ served < p.bytes.length ∧ Noise p.bytes.tail

/-- What a reader meets. -/
def events (p : Served) : Feed :=
  match p.failure with
  | none => [.data (p.noise ++ p.bytes)]
  | some (served, cause) =>
    [.data (p.noise ++ p.bytes.take served), .failed cause, .data (p.bytes.drop served)]

/-- What a reader meets over some frames and noise behind the last. -/
def feed (parts : List Served) (last : List UInt8) : Feed :=
  parts.flatMap events ++ [.data last]

/-- How the cycle over the frame ends. -/
def event (sizes : CommandSizes) (p : Served) : Event :=
  match p.failure with
  | some (served, cause) =>
    .discarded (.readFailed (if served < 4 then .header else .body)
      (Transport.Fault.io cause).message)
  | none =>
    if (sizes p.frame.command).isSome then .frame p.frame
    else .discarded (.unknownCommand p.frame.command p.frame.body.length)

variable {p : Served}

/-- A frame that no read fails inside is a piece. -/
theorem Fits.piece (fits : p.Fits sizes) (whole : p.failure = none) :
    Piece sizes p.bytes (p.event sizes) := by
  unfold event
  rw [whole]
  rcases fits.entry with unknown | known
  · rw [unknown]
    exact .of_unknown fits.valid fits.complete unknown
  · rw [known]
    exact .frame fits.valid fits.complete known

/-- A cycle goes on behind the header. -/
theorem Fits.goesOn (fits : p.Fits sizes) : GoesOn sizes p.frame.header := by
  rw [GoesOn, ← Wire.length_body_of_decode fits.valid]
  exact fits.entry

end Served

/-- A cycle over a frame that is served tells what becomes of it, and leaves noise at most. -/
theorem step_of_served {p : Served} (fits : p.Fits sizes) (clean : Noise noise)
    (ahead : t.Ahead noise (p.events ++ f)) (s : Scanner) :
    ∃ c rest, s.step sizes t = some c ∧ c.result = .ok (p.event sizes) ∧ Noise rest ∧
      c.transport.Ahead rest f := by
  have cleanFront : Noise (noise ++ p.noise) := noise_append.2 ⟨clean, fits.noise⟩
  cases failure : p.failure with
  | none =>
    have met : p.events = [.data (p.noise ++ p.bytes)] := by rw [Served.events, failure]
    rw [met] at ahead
    have front : t.Ahead ((noise ++ p.noise) ++ (p.bytes ++ [])) f := by
      rw [List.append_nil, List.append_assoc]
      exact ahead.data
    have yields : Yields _ := yields_ahead f
    obtain ⟨t', step, ahead'⟩ :=
      yields.piece s cleanFront (fits.piece failure) (ahead_ofBytes.2 front)
    exact ⟨_, [], step, rfl, noise_nil, ahead'⟩
  | some hit =>
    obtain ⟨served, cause⟩ := hit
    obtain ⟨begun, part, single⟩ := fits.inside served cause failure
    have unfinished := Unfinished.of_take fits.valid fits.complete fits.goesOn begun part
    have met : p.events =
        [.data (p.noise ++ p.bytes.take served), .failed cause, .data (p.bytes.drop served)] := by
      rw [Served.events, failure]
    rw [met] at ahead
    have front : t.Ahead ((noise ++ p.noise) ++ p.bytes.take served)
        (.failed cause :: .data (p.bytes.drop served) :: f) := by
      rw [List.append_assoc]
      exact ahead.data
    have inside : State.stage (if served < 4 then .readingHeader else .readingBody p.frame.header) =
        some (if served < 4 then .header else .body) := by
      split
      · rfl
      · rfl
    obtain ⟨t', step, ahead'⟩ := step_of_failed s cleanFront unfinished inside front
    -- What is left of the frame holds no marker, so it is more noise for the cycles behind.
    have rest : Noise (p.bytes.drop served) := by
      have within : p.bytes.drop served <:+ p.bytes.tail := by
        rw [← List.drop_one]
        exact List.drop_suffix_drop_left p.bytes begun
      intro marked
      exact single (within.subset marked)
    refine ⟨_, _, step, ?_, rest, ahead'.data⟩
    rw [Served.event, failure]
    rfl

/-- The cycles over frames that are served, with noise in front of them that was left over. -/
theorem results_of_served {parts : List Served} {last : List UInt8}
    (fits : ∀ p ∈ parts, p.Fits sizes) (cleanLast : Noise last) (clean : Noise noise)
    (quiet : t.live = false) (ahead : t.Ahead noise (Served.feed parts last)) (s : Scanner) :
    (s.cycles sizes t).map (·.result) =
      (parts.map (·.event sizes)).map .ok ++ [.error .connectionClosed] := by
  induction parts generalizing noise s t with
  | nil =>
    have atEnd : t.Ahead (noise ++ last) [] := ahead.data
    obtain ⟨t', sought⟩ := seek_of_end atEnd quiet (noise_append.2 ⟨clean, cleanLast⟩)
    rw [Scanner.cycles_of_error (step_of_course (.unmarked sought)) rfl]
    rfl
  | cons p parts ih =>
    rw [Served.feed, List.flatMap_cons, List.append_assoc] at ahead
    obtain ⟨c, rest, step, ends, clean', ahead'⟩ :=
      step_of_served (fits p List.mem_cons_self) clean ahead s
    have quiet' : c.transport.live = false := (kept_live.step step).trans quiet
    have later : ∀ q ∈ parts, q.Fits sizes := fun q member => fits q (List.mem_cons_of_mem p member)
    rw [Scanner.cycles_of_event step ends, List.map_cons, ends,
      ih later clean' quiet' ahead' c.scanner]
    rfl

/-- **A failed read costs the frame that it hits, and no other.** Let whole and valid frames be
served with noise around them, and let at most one read fail inside each, and only inside frames
that hold no marker but their own. However the bytes come in chunks and wherever calls are broken
off, as long as nobody closes the transport: one cycle after the other tells a frame. A frame that
no read failed inside is delivered, or passed over if its command is unknown; one that a read failed
inside is dropped for that, in its header or in its body by where the read failed. Then the end is
found. -/
theorem failed_reads_cost_one_frame {sizes : CommandSizes} {parts : List Served}
    {last : List UInt8} (fits : ∀ p ∈ parts, p.Fits sizes) (clean : Noise last) {t : Transport}
    (isOpen : t.isOpen = true) (quiet : t.live = false) (unclosed : t.feed.Unclosed)
    (served : t.feed.joined = (Served.feed parts last).joined) (s : Scanner) :
    (s.cycles sizes t).map (·.result) =
      (parts.map (·.event sizes)).map .ok ++ [.error .connectionClosed] := by
  have ahead : t.Ahead [] (Served.feed parts last) :=
    ⟨isOpen, unclosed, served.trans (Feed.push_nil _).symm⟩
  exact results_of_served fits clean noise_nil quiet ahead s

/-- Reads fail in the body of an unknown frame and in the header of a known one, on a line that
gives the bytes in chunks across the frames. -/
theorem failed_reads_cost_one_frame_on_line :
    let sizes : CommandSizes := fun command => if command = 0x30 then some 2 else none
    let lost : IoFailure := ⟨.timedOut, "lost"⟩
    let unknown : Wire.Request := ⟨0x77, 3, [1, 2, 3]⟩
    let marked : Wire.Request := ⟨0x30, 2, [0xA5, 1]⟩
    let known : Wire.Request := ⟨0x30, 2, [7, 8]⟩
    let line : Transport :=
      { Transport.serial "line" with
        live := false
        feed := [.idle, .data (1 :: unknown.bytes.take 3), .interrupted,
          .data ((unknown.bytes.drop 3).take 2), .failed lost,
          .data (unknown.bytes.drop 5 ++ marked.bytes.take 1), .data [],
          .data (marked.bytes.drop 1), .data (2 :: 3 :: known.bytes.take 2), .failed lost,
          .interrupted, .data (known.bytes.drop 2 ++ unknown.bytes ++ [4])] }
    (({} : Scanner).cycles sizes line).map (·.result) =
      [.ok (.discarded (.readFailed .body "transport I/O error: lost")), .ok (.frame marked.frame),
        .ok (.discarded (.readFailed .header "transport I/O error: lost")),
        .ok (.discarded (.unknownCommand 0x77 3)), .error .connectionClosed] := by
  intro sizes lost unknown marked known line
  let parts : List Served :=
    [⟨[1], unknown.bytes, unknown.frame, some (5, lost)⟩, ⟨[], marked.bytes, marked.frame, none⟩,
      ⟨[2, 3], known.bytes, known.frame, some (2, lost)⟩, ⟨[], unknown.bytes, unknown.frame, none⟩]
  have fitting {noise : List UInt8} {r : Wire.Request} {failure : Option (Nat × IoFailure)}
      (clean : Noise noise) (accepted : r.Accepted)
      (entry : sizes r.command = none ∨ sizes r.command = some r.body.length)
      (inside : ∀ hit ∈ failure, 0 < hit.1 ∧ hit.1 < r.bytes.length ∧ Noise r.bytes.tail) :
      Served.Fits sizes ⟨noise, r.bytes, r.frame, failure⟩ := by
    have valid := Wire.decode_bytes_append accepted []
    rw [List.append_nil] at valid
    refine ⟨clean, valid, (Wire.wireSize_frame r).symm, entry, ?_⟩
    intro served cause hit
    exact inside (served, cause) hit
  have fits : ∀ p ∈ parts, p.Fits sizes := by
    intro p member
    simp only [parts, List.mem_cons, List.not_mem_nil, or_false] at member
    rcases member with rfl | rfl | rfl | rfl
    · exact fitting (by decide) (by decide) (.inl rfl) (by decide +kernel)
    · exact fitting (by decide) (by decide) (.inr rfl) (by simp)
    · exact fitting (by decide) (by decide) (.inr rfl) (by decide +kernel)
    · exact fitting (by decide) (by decide) (.inl rfl) (by simp)
  have same : line.feed.joined = (Served.feed parts [4]).joined := by decide +kernel
  exact failed_reads_cost_one_frame fits (by decide) rfl rfl (by decide) same {}

end Scan

end SerialLink
