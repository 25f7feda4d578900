import Mathlib.Data.List.Forall2
import SerialLink.Proofs.Scan.Course
import SerialLink.Proofs.Wire.Encoding

/-!
# How a stream of bytes is cut

A stream is noise, then a piece that one cycle takes, then noise again and so on, up to an
unfinished frame. `Piece` says which pieces there are and what event each one ends its cycle with; a
cycle over a capture takes exactly the noise and the piece in front (`step_of_piece`). Since a cycle
does one thing only, a stream is cut in one way only, and the cycles are its pieces
(`stream_is_cut`).
-/

namespace SerialLink

namespace Scan

/-- Bytes that no frame starts in. -/
def Noise (bytes : List UInt8) : Prop :=
  Wire.marker ∉ bytes

instance (bytes : List UInt8) : Decidable (Noise bytes) :=
  inferInstanceAs (Decidable (Wire.marker ∉ bytes))

theorem noise_nil : Noise [] :=
  List.not_mem_nil

theorem noise_cons {b : UInt8} {bytes : List UInt8} :
    Noise (b :: bytes) ↔ b ≠ Wire.marker ∧ Noise bytes := by
  simp [Noise, eq_comm]

theorem noise_append {a b : List UInt8} : Noise (a ++ b) ↔ Noise a ∧ Noise b := by
  simp [Noise]

/-- What a cycle takes from a marker on, and the event that it ends with. -/
inductive Piece (sizes : CommandSizes) : List UInt8 → Event → Prop where
  /-- a frame that reads back, of the length that its command requires -/
  | frame {bytes : List UInt8} {f : Wire.Frame} (accepted : Wire.decode bytes = .ok f)
      (complete : bytes.length = f.wireSize) (registered : sizes f.command = some f.body.length) :
      Piece sizes bytes (.frame f)
  /-- a frame of the length that its command requires, with another checksum -/
  | damaged {h : Wire.Header} {rest : List UInt8} {computed received : UInt16}
      (registered : sizes h.command = some h.bodySize)
      (complete : rest.length = h.bodySize + Checksum.size)
      (rejected : Wire.decode (Wire.marker :: (h.bytes ++ rest)) =
        .error (.checksumMismatch computed received)) :
      Piece sizes (Wire.marker :: (h.bytes ++ rest))
        (.discarded (.checksumMismatch h.command computed received))
  /-- a header of an unknown command with as many bytes as it declares, whatever they are -/
  | unknown {h : Wire.Header} {rest : List UInt8} (unregistered : sizes h.command = none)
      (complete : rest.length = h.bodySize + Checksum.size) :
      Piece sizes (Wire.marker :: (h.bytes ++ rest))
        (.discarded (.unknownCommand h.command h.bodySize))
  /-- a header alone that declares another length than its command requires -/
  | missized {h : Wire.Header} {expected : Nat} (registered : sizes h.command = some expected)
      (differs : expected ≠ h.bodySize) :
      Piece sizes (Wire.marker :: h.bytes)
        (.discarded (.sizeMismatch h.command expected h.bodySize))

/-- What is encoded under a command that is known is a piece. -/
theorem Piece.of_request {sizes : CommandSizes} {r : Wire.Request} (h : r.Accepted)
    (registered : sizes r.command = some r.body.length) : Piece sizes r.bytes (.frame r.frame) := by
  have accepted := Wire.decode_bytes_append h []
  rw [List.append_nil] at accepted
  exact .frame accepted (Wire.wireSize_frame r).symm registered

/-- A frame of an unknown command is a piece. -/
theorem Piece.of_unknown {sizes : CommandSizes} {bytes : List UInt8} {f : Wire.Frame}
    (valid : Wire.decode bytes = .ok f) (complete : bytes.length = f.wireSize)
    (unregistered : sizes f.command = none) :
    Piece sizes bytes (.discarded (.unknownCommand f.command f.body.length)) := by
  obtain ⟨rest, split, size, -⟩ := Wire.complete_of_decode valid complete
  rw [split, Wire.length_body_of_decode valid]
  exact .unknown unregistered size

/-- The end of a stream that no cycle takes whole, and the state in which it is found out. -/
inductive Unfinished (sizes : CommandSizes) : List UInt8 → State → Prop where
  | nothing : Unfinished sizes [] .seekingMarker
  | header {rest : List UInt8} (short : rest.length < Wire.headerSize) :
      Unfinished sizes (Wire.marker :: rest) .readingHeader
  | body {h : Wire.Header} {rest : List UInt8} (goesOn : GoesOn sizes h)
      (short : rest.length < h.bodySize + Checksum.size) :
      Unfinished sizes (Wire.marker :: (h.bytes ++ rest)) (.readingBody h)

/-- The beginning of a frame is unfinished, in its header as long as that is not complete. -/
theorem Unfinished.of_take {sizes : CommandSizes} {bytes : List UInt8} {f : Wire.Frame}
    (valid : Wire.decode bytes = .ok f) (complete : bytes.length = f.wireSize)
    (goesOn : GoesOn sizes f.header) {n : Nat} (begun : 0 < n) (part : n < bytes.length) :
    Unfinished sizes (bytes.take n) (if n < 4 then .readingHeader else .readingBody f.header) := by
  obtain ⟨rest, rfl, size, -⟩ := Wire.complete_of_decode valid complete
  obtain ⟨n, rfl⟩ := Nat.exists_eq_add_of_lt begun
  simp only [List.length_cons, List.length_append, Wire.Header.length_bytes,
    Wire.headerSize] at part
  rw [Nat.zero_add, List.take_succ_cons]
  by_cases early : n < 3
  · rw [if_pos (by omega)]
    apply Unfinished.header
    rw [List.length_take, Wire.headerSize]
    omega
  · have behind : (f.header.bytes ++ rest).take n = f.header.bytes ++ rest.take (n - 3) := by
      rw [List.take_append, List.take_of_length_le]
      · rfl
      · rw [Wire.Header.length_bytes, Wire.headerSize]
        omega
    rw [if_neg (by omega), behind]
    apply Unfinished.body goesOn
    rw [List.length_take, ← size]
    omega

/-! ## Cycles over a capture -/

theorem seek_ofBytes {noise : List UInt8} (clean : Noise noise) (rest : List UInt8) :
    seek (.ofBytes (noise ++ Wire.marker :: rest)) =
      some ⟨.ok (), noise.length, .ofBytes rest⟩ := by
  induction noise with
  | nil => exact seek_of_marker (Transport.readExact_one_ofBytes _ rest)
  | cons b noise ih =>
    obtain ⟨other, clean⟩ := noise_cons.1 clean
    rw [List.cons_append, seek_of_other other (Transport.readExact_one_ofBytes b _), ih clean]
    rfl

theorem seek_ofBytes_noise {noise : List UInt8} (clean : Noise noise) :
    seek (.ofBytes noise) = some ⟨.error .closed, noise.length, .ofBytes []⟩ := by
  induction noise with
  | nil => exact seek_of_error (Transport.readExact_ofBytes_of_lt (by simp))
  | cons b noise ih =>
    obtain ⟨other, clean⟩ := noise_cons.1 clean
    rw [seek_of_other other (Transport.readExact_one_ofBytes b noise), ih clean]
    rfl

/-- A cycle takes the noise and the piece in front of it, and nothing else. -/
theorem step_of_piece {sizes : CommandSizes} {noise piece : List UInt8} {e : Event} (s : Scanner)
    (clean : Noise noise) (h : Piece sizes piece e) (rest : List UInt8) :
    s.step sizes (.ofBytes (noise ++ (piece ++ rest))) =
      some (finished e (s.stats.skip noise.length) (.ofBytes rest)) := by
  have headed : ∀ (h : Wire.Header) (bytes : List UInt8),
      (Transport.ofBytes (h.bytes ++ bytes)).readExact Wire.headerSize =
        some (.ok h.bytes, .ofBytes bytes) :=
    fun h => Transport.readExact_ofBytes h.length_bytes
  cases h with
  | @frame _ f accepted complete registered =>
    have entry : sizes f.header.command = some f.header.bodySize :=
      Wire.length_body_of_decode accepted ▸ registered
    obtain ⟨body, rfl, size, ok⟩ := Wire.complete_of_decode accepted complete
    rw [← eventOf_eq_frame_iff.2 ok, List.cons_append, List.append_assoc]
    exact step_of_course (.whole (seek_ofBytes clean _) (headed f.header _) entry
      (Transport.readExact_ofBytes size rest))
  | @damaged h body computed received registered complete rejected =>
    rw [Wire.decode_of_complete complete] at rejected
    rw [← eventOf_of_mismatch rejected, List.cons_append, List.append_assoc]
    exact step_of_course (.whole (seek_ofBytes clean _) (headed h _) registered
      (Transport.readExact_ofBytes complete rest))
  | @unknown h body unregistered complete =>
    rw [List.cons_append, List.append_assoc]
    exact step_of_course (.unknown (seek_ofBytes clean _) (headed h _) unregistered
      (Transport.readExact_ofBytes complete rest))
  | @missized h expected registered differs =>
    rw [List.cons_append]
    exact step_of_course (.missized (seek_ofBytes clean _) (headed h _) registered differs)

/-- A cycle over noise and an unfinished frame uses everything up and finds the capture closed. -/
theorem step_of_unfinished {sizes : CommandSizes} {noise tail : List UInt8} {state : State}
    (s : Scanner) (clean : Noise noise) (h : Unfinished sizes tail state) :
    s.step sizes (.ofBytes (noise ++ tail)) =
      some ⟨.error .connectionClosed, ⟨state, s.stats.skip noise.length⟩, .ofBytes []⟩ := by
  cases h with
  | nothing =>
    rw [List.append_nil]
    exact step_of_course (.unmarked (seek_ofBytes_noise clean))
  | header short =>
    exact step_of_course (.headless (seek_ofBytes clean _)
      (Transport.readExact_ofBytes_of_lt short))
  | body goesOn short =>
    exact step_of_course (.bodiless (seek_ofBytes clean _)
      (Transport.readExact_ofBytes (Wire.Header.length_bytes _) _) goesOn
      (Transport.readExact_ofBytes_of_lt short))

/-! ## Cutting a stream -/

/-- A stream that is cut: pieces with the noise in front of each, and then more noise in front of
what is unfinished. -/
structure Cut where
  pieces : List (List UInt8 × List UInt8)
  noise : List UInt8
  tail : List UInt8

namespace Cut

/-- Pieces, each behind its noise. -/
def join (pieces : List (List UInt8 × List UInt8)) : List UInt8 :=
  pieces.flatMap fun p => p.1 ++ p.2

/-- The stream. -/
def bytes (g : Cut) : List UInt8 :=
  join g.pieces ++ (g.noise ++ g.tail)

/-- How many bytes of the stream are noise. -/
def skipped (g : Cut) : Nat :=
  (g.pieces.flatMap Prod.fst).length + g.noise.length

end Cut

/-- Noise and a piece behind it that ends its cycle with `e`. -/
def Carries (sizes : CommandSizes) (p : List UInt8 × List UInt8) (e : Event) : Prop :=
  Noise p.1 ∧ Piece sizes p.2 e

/-- The stream is cut where cycles end: the pieces end them with `events`, and the last one breaks
off in `state`. -/
structure Cut.Fits (sizes : CommandSizes) (g : Cut) (events : List Event) (state : State) :
    Prop where
  pieces : List.Forall₂ (Carries sizes) g.pieces events
  noise : Noise g.noise
  tail : Unfinished sizes g.tail state

theorem Piece.length_pos {sizes : CommandSizes} {bytes : List UInt8} {e : Event}
    (h : Piece sizes bytes e) : 0 < bytes.length := by
  cases h with
  | frame accepted => exact List.length_pos_iff.2 (Wire.ne_nil_of_decode accepted)
  | damaged | unknown | missized => simp

/-- A marker and a header that the cycle goes on behind are a piece with as many bytes as the header
declares. -/
theorem Piece.of_complete {sizes : CommandSizes} {h : Wire.Header} {rest : List UInt8}
    (goesOn : GoesOn sizes h) (complete : rest.length = h.bodySize + Checksum.size) :
    ∃ e, Piece sizes (Wire.marker :: (h.bytes ++ rest)) e := by
  rcases goesOn with unregistered | registered
  · exact ⟨_, .unknown unregistered complete⟩
  · cases checks : Wire.checked h (rest.take h.bodySize) (Checksum.wordAt rest h.bodySize) with
    | ok f =>
      have accepted := (Wire.decode_of_complete complete).trans checks
      obtain ⟨-, rfl, long, -⟩ := Wire.frameBytes_of_checked complete checks
      refine ⟨_, .frame accepted ?_ (long ▸ registered)⟩
      simp [complete, Wire.headerSize, Wire.Frame.wireSize, Wire.overhead, Checksum.size, long]
      omega
    | error fault =>
      obtain ⟨-, rfl⟩ := Wire.checked_eq_error_iff.1 checks
      exact ⟨_, .damaged registered complete ((Wire.decode_of_complete complete).trans checks)⟩

/-- A marker and a header that the cycle does not go on behind are a piece by themselves. -/
theorem Piece.of_not_goesOn {sizes : CommandSizes} {h : Wire.Header} (stops : ¬GoesOn sizes h) :
    ∃ reason, Piece sizes (Wire.marker :: h.bytes) (.discarded reason) := by
  obtain ⟨expected, registered, differs⟩ := entry_of_not_goesOn stops
  exact ⟨_, .missized registered differs⟩

/-- Behind a marker stands a piece, or the stream breaks off. -/
theorem piece_or_unfinished (sizes : CommandSizes) (rest : List UInt8) :
    (∃ piece e later, Piece sizes piece e ∧ Wire.marker :: rest = piece ++ later) ∨
      ∃ state, Unfinished sizes (Wire.marker :: rest) state := by
  rcases Nat.lt_or_ge rest.length Wire.headerSize with short | long
  · exact .inr ⟨_, .header short⟩
  · obtain ⟨h, rest, rfl⟩ := Wire.exists_header_append long
    by_cases goesOn : GoesOn sizes h
    · rcases Nat.lt_or_ge rest.length (h.bodySize + Checksum.size) with short | long
      · exact .inr ⟨_, .body goesOn short⟩
      · obtain ⟨e, piece⟩ := Piece.of_complete goesOn (List.length_take_of_le long)
        refine .inl ⟨_, e, rest.drop (h.bodySize + Checksum.size), piece, ?_⟩
        simp
    · obtain ⟨reason, piece⟩ := Piece.of_not_goesOn goesOn
      exact .inl ⟨_, _, rest, piece, rfl⟩

/-- Every stream can be cut. -/
theorem exists_cut (sizes : CommandSizes) (bytes : List UInt8) :
    ∃ g events state, Cut.Fits sizes g events state ∧ g.bytes = bytes := by
  induction size : bytes.length using Nat.strongRecOn generalizing bytes with
  | ind n ih =>
    by_cases marked : Wire.marker ∈ bytes
    · obtain ⟨noise, rest, rfl, clean⟩ := List.eq_append_cons_of_mem marked
      rcases piece_or_unfinished sizes rest with ⟨piece, e, later, h, split⟩ | ⟨state, unfinished⟩
      · -- A piece is never empty, so what stands behind it is cut by induction.
        have shorter : later.length < n := by
          have := congrArg List.length split
          have := h.length_pos
          simp only [List.length_append, List.length_cons] at *
          omega
        obtain ⟨g, events, state, fits, rfl⟩ := ih later.length shorter later rfl
        refine ⟨⟨(noise, piece) :: g.pieces, g.noise, g.tail⟩, e :: events, state,
          ⟨.cons ⟨clean, h⟩ fits.pieces, fits.noise, fits.tail⟩, ?_⟩
        rw [split]
        simp [Cut.bytes, Cut.join]
      · exact ⟨⟨[], noise, _⟩, [], state, ⟨.nil, clean, unfinished⟩, rfl⟩
    · exact ⟨⟨[], bytes, []⟩, [], _, ⟨.nil, marked, .nothing⟩, by simp [Cut.bytes, Cut.join]⟩

/-! ## One way to cut -/

theorem bytesSkipped_count (stats : Stats) (e : Event) :
    (stats.count e).bytesSkipped = stats.bytesSkipped := by
  cases e with
  | frame f => rfl
  | discarded reason => cases reason <;> rfl

/-- What stands in front of a stream that a cycle takes is determined by the stream. -/
theorem Carries.unique {sizes : CommandSizes} {p p' : List UInt8 × List UInt8} {e e' : Event}
    {rest rest' : List UInt8} (h : Carries sizes p e) (h' : Carries sizes p' e')
    (same : p.1 ++ (p.2 ++ rest) = p'.1 ++ (p'.2 ++ rest')) : p = p' ∧ e = e' ∧ rest = rest' := by
  -- A cycle over the one stream is a cycle over the other, and tells all of these.
  have step := step_of_piece {} h.1 h.2 rest
  rw [same, step_of_piece {} h'.1 h'.2 rest'] at step
  simp only [finished, Option.some.injEq, Cycle.mk.injEq, Except.ok.injEq, Scanner.mk.injEq,
    true_and] at step
  obtain ⟨rfl, stats, transports⟩ := step
  obtain rfl := Transport.ofBytes_injective transports
  have skipped := congrArg Stats.bytesSkipped stats
  simp only [bytesSkipped_count, Stats.skip, Nat.add_left_cancel_iff] at skipped
  obtain ⟨noise, behind⟩ := List.append_inj same skipped.symm
  exact ⟨Prod.ext noise (List.append_cancel_right behind), rfl, rfl⟩

theorem Carries.not_unfinished {sizes : CommandSizes} {p : List UInt8 × List UInt8} {e : Event}
    {rest noise tail : List UInt8} {state : State} (h : Carries sizes p e) (clean : Noise noise)
    (unfinished : Unfinished sizes tail state) : p.1 ++ (p.2 ++ rest) ≠ noise ++ tail := by
  intro same
  have step := step_of_piece {} h.1 h.2 rest
  rw [same, step_of_unfinished {} clean unfinished] at step
  simp [finished] at step

theorem Unfinished.unique {sizes : CommandSizes} {noise noise' tail tail' : List UInt8}
    {state state' : State} (clean : Noise noise) (clean' : Noise noise')
    (h : Unfinished sizes tail state) (h' : Unfinished sizes tail' state')
    (same : noise ++ tail = noise' ++ tail') : noise = noise' ∧ tail = tail' ∧ state = state' := by
  have step := step_of_unfinished {} clean h
  rw [same, step_of_unfinished {} clean' h'] at step
  simp only [Option.some.injEq, Cycle.mk.injEq, Scanner.mk.injEq, true_and, and_true] at step
  obtain ⟨rfl, stats⟩ := step
  have skipped := congrArg Stats.bytesSkipped stats
  simp only [Stats.skip, Nat.add_left_cancel_iff] at skipped
  obtain ⟨noise, behind⟩ := List.append_inj same skipped.symm
  exact ⟨noise, behind, rfl⟩

/-- A stream is cut in one way only: two cuts agree piece by piece, as cycles do. -/
theorem Cut.Fits.unique {sizes : CommandSizes} {g g' : Cut} {events events' : List Event}
    {state state' : State} (h : g.Fits sizes events state) (h' : g'.Fits sizes events' state')
    (same : g.bytes = g'.bytes) : g = g' ∧ events = events' ∧ state = state' := by
  obtain ⟨pieces, noise, tail⟩ := g
  obtain ⟨pieces', noise', tail'⟩ := g'
  obtain ⟨carried, clean, unfinished⟩ := h
  obtain ⟨carried', clean', unfinished'⟩ := h'
  simp only [Cut.bytes, Cut.join] at *
  induction carried generalizing pieces' events' with
  | nil =>
    cases carried' with
    | nil =>
      obtain ⟨rfl, rfl, rfl⟩ := Unfinished.unique clean clean' unfinished unfinished' same
      exact ⟨rfl, rfl, rfl⟩
    | cons first' _ =>
      simp only [List.flatMap_nil, List.nil_append, List.flatMap_cons, List.append_assoc] at same
      exact absurd same.symm (first'.not_unfinished clean unfinished)
  | cons first _ ih =>
    cases carried' with
    | nil =>
      simp only [List.flatMap_nil, List.nil_append, List.flatMap_cons, List.append_assoc] at same
      exact absurd same (first.not_unfinished clean' unfinished')
    | cons first' carried' =>
      simp only [List.flatMap_cons, List.append_assoc] at same
      obtain ⟨rfl, rfl, behind⟩ := first.unique first' same
      obtain ⟨rest, rfl, rfl⟩ := ih _ behind carried'
      cases rest
      exact ⟨rfl, rfl, rfl⟩

/-! ## The cycles over a stream that is cut -/

theorem count_skip (stats : Stats) (e : Event) (n : Nat) :
    (stats.skip n).count e = (stats.count e).skip n := by
  cases e with
  | frame f => rfl
  | discarded reason => cases reason <;> rfl

theorem foldl_count_skip (events : List Event) (stats : Stats) (n : Nat) :
    events.foldl Stats.count (stats.skip n) = (events.foldl Stats.count stats).skip n := by
  induction events generalizing stats with
  | nil => rfl
  | cons e events ih => rw [List.foldl_cons, count_skip, ih, List.foldl_cons]

theorem skip_skip (stats : Stats) (m n : Nat) : (stats.skip m).skip n = stats.skip (m + n) := by
  simp [Stats.skip, Nat.add_assoc]

/-- The cycles over a stream are its pieces, and one more that finds the end. -/
theorem cycles_of_fits {sizes : CommandSizes} {g : Cut} {events : List Event} {state : State}
    (h : g.Fits sizes events state) (s : Scanner) :
    (s.cycles sizes (.ofBytes g.bytes)).map (·.result) =
        events.map .ok ++ [.error .connectionClosed] ∧
      (s.cycles sizes (.ofBytes g.bytes)).getLast?.map (·.scanner) =
        some ⟨state, (events.foldl Stats.count s.stats).skip g.skipped⟩ := by
  obtain ⟨pieces, noise, tail⟩ := g
  obtain ⟨carried, clean, unfinished⟩ := h
  simp only [Cut.bytes, Cut.join, Cut.skipped] at *
  induction carried generalizing s with
  | nil =>
    have step := step_of_unfinished s clean unfinished
    rw [List.flatMap_nil, List.nil_append, Scanner.cycles_of_error step rfl]
    simp
  | @cons p e pieces events first _ ih =>
    have step := step_of_piece s first.1 first.2
      (pieces.flatMap (fun p => p.1 ++ p.2) ++ (noise ++ tail))
    obtain ⟨results, last⟩ := ih ⟨.seekingMarker, (s.stats.skip p.1.length).count e⟩
    simp only [List.flatMap_cons, List.append_assoc]
    rw [Scanner.cycles_of_event step rfl]
    simp only [finished]
    constructor
    · rw [List.map_cons, results]
      rfl
    · obtain ⟨c, final, stands⟩ := Option.map_eq_some_iff.1 last
      rw [List.getLast?_cons, final, Option.getD_some, Option.map_some, stands, count_skip,
        foldl_count_skip, skip_skip, List.foldl_cons, List.length_append,
        Nat.add_assoc]

/-- **A stream is cut in exactly one way, and its cycles are the pieces.** There are noise, pieces
and an unfinished end that make up the stream, no others do, and a scanner of any history that is
driven over the stream until the first error ends one cycle with the event of each piece, in order,
and then finds the connection closed. It has counted each event and the bytes of all noise, and
stands where the stream breaks off. -/
theorem stream_is_cut (sizes : CommandSizes) (s : Scanner) (bytes : List UInt8) :
    ∃ g events state, Cut.Fits sizes g events state ∧ g.bytes = bytes ∧
      (∀ g' events' state', Cut.Fits sizes g' events' state' → g'.bytes = bytes →
        g' = g ∧ events' = events ∧ state' = state) ∧
      (s.cycles sizes (.ofBytes bytes)).map (·.result) =
        events.map .ok ++ [.error .connectionClosed] ∧
      (s.cycles sizes (.ofBytes bytes)).getLast?.map (·.scanner) =
        some ⟨state, (events.foldl Stats.count s.stats).skip g.skipped⟩ := by
  obtain ⟨g, events, state, fits, rfl⟩ := exists_cut sizes bytes
  exact ⟨g, events, state, fits, rfl, fun _ _ _ fits' same => fits'.unique fits same,
    cycles_of_fits fits s⟩

end Scan

end SerialLink
