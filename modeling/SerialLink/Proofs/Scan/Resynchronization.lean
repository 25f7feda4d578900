import SerialLink.Proofs.Scan.Damage

/-!
# Finding frames again

A cycle goes no further behind its marker than `reach` bytes, the longest header, body and checksum.
So whatever garbage a stream begins with, a gap of that many bytes without a marker ends the last
cycle that began in the garbage (`exists_pieces_of_gap`), and every frame behind the gap is
delivered (`frames_behind_gap`). A gap that is one byte shorter is not enough
(`frame_lost_behind_short_gap`).
-/

namespace SerialLink.Scan

variable {sizes : CommandSizes}

theorem noise_replicate (n : Nat) {b : UInt8} (other : b ≠ Wire.marker) :
    Noise (List.replicate n b) :=
  fun member => other (List.eq_of_mem_replicate member).symm

/-- How many bytes behind its marker a cycle may take. -/
def reach : Nat :=
  Wire.headerSize + Wire.maxBody + Checksum.size

/-- What is unfinished is within reach of its marker. -/
theorem Unfinished.length_lt {rest : List UInt8} {state : State}
    (h : Unfinished sizes (Wire.marker :: rest) state) : rest.length < reach := by
  cases h with
  | header short =>
    simp only [reach, Wire.headerSize, Wire.maxBody, Checksum.size] at short ⊢
    omega
  | @body h rest _ short =>
    have declared := h.bodyLength.toNat_lt
    simp only [List.length_append, Wire.Header.length_bytes, Wire.Header.bodySize, reach,
      Wire.headerSize, Wire.maxBody, Checksum.size] at short ⊢
    omega

/-- Behind a marker with enough bytes there is a piece. -/
theorem exists_piece_of_reach {rest : List UInt8} (enough : reach ≤ rest.length) :
    ∃ piece e later, Piece sizes piece e ∧ Wire.marker :: rest = piece ++ later := by
  rcases piece_or_unfinished sizes rest with found | ⟨state, unfinished⟩
  · exact found
  · exact absurd unfinished.length_lt (Nat.not_lt.2 enough)

/-- What is unfinished does not begin with a piece. -/
theorem Unfinished.ne_piece_append {tail piece later : List UInt8} {state : State} {e : Event}
    (unfinished : Unfinished sizes tail state) (h : Piece sizes piece e) :
    tail ≠ piece ++ later := by
  have carried : Carries sizes ([], piece) e := ⟨noise_nil, h⟩
  have other : piece ++ later ≠ [] ++ tail := carried.not_unfinished noise_nil unfinished
  exact fun same => other same.symm

/-- An unfinished frame ends in a gap that is long enough, and leaves noise. -/
theorem Unfinished.ends_in_gap {tail gap : List UInt8} {state : State}
    (unfinished : Unfinished sizes tail state) (clean : Noise gap) (long : reach ≤ gap.length) :
    ∃ lost left, tail ++ gap = lost ++ left ∧ Noise left ∧
      (lost = [] ∨ ∃ e, Piece sizes lost e) := by
  cases tail with
  | nil => exact ⟨[], gap, rfl, clean, .inl rfl⟩
  | cons b tail =>
    obtain rfl : b = Wire.marker := by cases unfinished <;> rfl
    have enough : reach ≤ (tail ++ gap).length := by
      rw [List.length_append]
      omega
    obtain ⟨piece, e, later, h, split⟩ := @exists_piece_of_reach sizes _ enough
    refine ⟨piece, later, split, ?_, .inr ⟨e, h⟩⟩
    -- The piece cannot end before the gap begins, so what it leaves is an end of the gap.
    rw [← List.cons_append] at split
    rcases List.append_eq_append_iff.1 split with ⟨taken, -, rfl⟩ | ⟨rest, whole, -⟩
    · exact (noise_append.1 clean).2
    · exact absurd whole (unfinished.ne_piece_append h)

/-- Garbage and a gap behind it are pieces and noise. -/
theorem exists_pieces_of_gap (sizes : CommandSizes) (garbage : List UInt8) {gap : List UInt8}
    (clean : Noise gap) (long : reach ≤ gap.length) :
    ∃ pieces events left, List.Forall₂ (Carries sizes) pieces events ∧ Noise left ∧
      garbage ++ gap = Cut.join pieces ++ left := by
  obtain ⟨⟨pieces, noise, tail⟩, events, state, ⟨carried, quiet, unfinished⟩, rfl⟩ :=
    exists_cut sizes garbage
  obtain ⟨lost, left, split, rest, rfl | ⟨e, h⟩⟩ := unfinished.ends_in_gap clean long
  · refine ⟨pieces, events, noise ++ left, carried, noise_append.2 ⟨quiet, rest⟩, ?_⟩
    simp [Cut.bytes, split]
  · refine ⟨pieces ++ [(noise, lost)], events ++ [e], left, ?_, rest, ?_⟩
    · exact List.rel_append carried (.cons ⟨quiet, h⟩ .nil)
    · simp [Cut.bytes, Cut.join, split]

/-- Frames that are known stand behind one another as pieces. -/
theorem carries_requests {requests : List Wire.Request}
    (valid : ∀ r ∈ requests, r.Accepted ∧ sizes r.command = some r.body.length) :
    List.Forall₂ (Carries sizes) (requests.map fun r => ([], r.bytes))
      (requests.map fun r => Event.frame r.frame) := by
  rw [List.forall₂_map_left_iff, List.forall₂_map_right_iff, List.forall₂_same]
  exact fun r member => ⟨noise_nil, .of_request (valid r member).1 (valid r member).2⟩

/-- **Frames behind a gap are found.** Whatever a stream begins with, if 260 bytes without a marker
follow, the cycles over the two end with some events, and every list of frames that are known and
stand behind the gap only adds its frames to these: each is delivered once, in order and as it
is, before the end is found. -/
theorem frames_behind_gap (sizes : CommandSizes) (s : Scanner) (garbage : List UInt8)
    {gap : List UInt8} (clean : Noise gap) (long : 260 ≤ gap.length) :
    ∃ events : List Event,
      (s.cycles sizes (.ofBytes (garbage ++ gap))).map (·.result) =
        events.map .ok ++ [.error .connectionClosed] ∧
      ∀ requests : List Wire.Request,
        (∀ r ∈ requests, r.Accepted ∧ sizes r.command = some r.body.length) →
        (s.cycles sizes (.ofBytes (garbage ++ gap ++ requests.flatMap Wire.Request.bytes))).map
            (·.result) =
          (events ++ requests.map fun r => Event.frame r.frame).map .ok ++
            [.error .connectionClosed] := by
  obtain ⟨pieces, events, left, carried, rest, split⟩ :=
    exists_pieces_of_gap sizes garbage clean long
  have delivered (requests : List Wire.Request)
      (valid : ∀ r ∈ requests, r.Accepted ∧ sizes r.command = some r.body.length) :
      (s.cycles sizes (.ofBytes (garbage ++ gap ++ requests.flatMap Wire.Request.bytes))).map
          (·.result) =
        (events ++ requests.map fun r => Event.frame r.frame).map .ok ++
          [.error .connectionClosed] := by
    have frames : Cut.Fits sizes ⟨requests.map fun r => ([], r.bytes), [], []⟩
        (requests.map fun r => Event.frame r.frame) .seekingMarker :=
      ⟨carries_requests valid, noise_nil, .nothing⟩
    obtain ⟨g, fits, bytes⟩ := frames.behind_noise rest
    obtain ⟨g', fits', bytes'⟩ := fits.behind_pieces carried
    have same : g'.bytes = garbage ++ gap ++ requests.flatMap Wire.Request.bytes := by
      rw [bytes', bytes, split]
      simp [Cut.bytes, Cut.join, List.flatMap_map]
    rw [← same]
    exact (cycles_of_fits fits' s).1
  refine ⟨events, ?_, delivered⟩
  simpa using delivered [] (by simp)

/-- Garbage that looks like the longest frame of an unknown command takes 257 bytes of the gap, and
two frames behind it are delivered, the second of which is full of markers. -/
theorem frames_behind_gap_of_longest_frame :
    let sizes : CommandSizes := fun command => if command = 0x30 then some 2 else none
    let requests : List Wire.Request := [⟨0x30, 2, [1, 0]⟩, ⟨0x30, 2, [0xA5, 0xA5]⟩]
    ∃ events : List Event,
      (Scanner.cycles sizes {} (.ofBytes ([Wire.marker, 255, 7, 7] ++ List.replicate 260 0))).map
          (·.result) = events.map .ok ++ [.error .connectionClosed] ∧
      (Scanner.cycles sizes {} (.ofBytes ([Wire.marker, 255, 7, 7] ++ List.replicate 260 0 ++
          requests.flatMap Wire.Request.bytes))).map (·.result) =
        (events ++ requests.map fun r => Event.frame r.frame).map .ok ++
          [.error .connectionClosed] := by
  intro sizes requests
  have long : 260 ≤ (List.replicate 260 (0 : UInt8)).length :=
    Nat.le_of_eq List.length_replicate.symm
  obtain ⟨events, alone, behind⟩ :=
    frames_behind_gap sizes {} [Wire.marker, 255, 7, 7] (noise_replicate 260 (by decide)) long
  exact ⟨events, alone, behind requests (by decide)⟩

/-- A gap one byte shorter is not enough: behind a marker it may be taken for the longest frame of
an unknown command, which then ends with the marker of the next frame. -/
theorem frame_lost_behind_short_gap {command : UInt16} (unknown : sizes command = none)
    (plain : Noise (Checksum.wordBytes command)) :
    ∃ gap, Noise gap ∧ gap.length = 259 ∧ ∀ (s : Scanner) (r : Wire.Request), Noise r.bytes.tail →
      (s.cycles sizes (.ofBytes ([Wire.marker] ++ gap ++ r.bytes))).map (·.result) =
        [.ok (.discarded (.unknownCommand command 255)), .error .connectionClosed] := by
  let h : Wire.Header := ⟨command, 255⟩
  have size : h.bodySize + Checksum.size = 257 := rfl
  refine ⟨h.bytes ++ List.replicate 256 0, ?_, ?_, ?_⟩
  · have longest : (255 : UInt8) ≠ Wire.marker := by decide
    exact noise_append.2 ⟨noise_cons.2 ⟨longest, plain⟩, noise_replicate 256 (by decide)⟩
  · rw [List.length_append, Wire.Header.length_bytes, List.length_replicate]
    rfl
  · intro s r rest
    have complete : (List.replicate 256 (0 : UInt8) ++ [Wire.marker]).length =
        h.bodySize + Checksum.size := by
      rw [List.length_append, List.length_replicate, size]
      rfl
    have piece : Piece sizes (Wire.marker :: (h.bytes ++ (List.replicate 256 0 ++ [Wire.marker])))
        (.discarded (.unknownCommand command 255)) := .unknown unknown complete
    have fits : Cut.Fits sizes ⟨[([], _)], r.bytes.tail, []⟩ [_] .seekingMarker :=
      ⟨.cons ⟨noise_nil, piece⟩ .nil, rest, .nothing⟩
    have begins : r.bytes = Wire.marker :: r.bytes.tail := rfl
    have same : Cut.bytes ⟨[([], Wire.marker :: (h.bytes ++ (List.replicate 256 0 ++
        [Wire.marker])))], r.bytes.tail, []⟩ =
          [Wire.marker] ++ (h.bytes ++ List.replicate 256 0) ++ r.bytes := by
      rw [begins]
      simp only [Cut.bytes, Cut.join, List.flatMap_cons, List.flatMap_nil, List.append_nil,
        List.nil_append, List.cons_append, List.append_assoc, List.tail_cons]
    rw [← same]
    exact (cycles_of_fits fits s).1

end SerialLink.Scan
