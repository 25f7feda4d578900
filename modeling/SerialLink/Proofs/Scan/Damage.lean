import SerialLink.Proofs.Scan.Segmentation
import SerialLink.Proofs.Wire.Detection

/-!
# One damaged byte

What is left of a frame when one of its bytes is replaced is noise, or a piece that is discarded and
noise behind it (`lost_of_damage`): the marker may be gone, the header may be another one, or the
checksum disagrees. Nothing of the stream behind the frame is taken with it, so all other frames are
delivered (`one_frame_lost`).
-/

namespace SerialLink

namespace Scan

/-- Bytes that no frame is delivered from, with what is discarded on the way. -/
inductive Lost (sizes : CommandSizes) : List UInt8 → List Discard → Prop where
  | skipped {bytes : List UInt8} (clean : Noise bytes) : Lost sizes bytes []
  | discarded {piece remains : List UInt8} {reason : Discard}
      (dropped : Piece sizes piece (.discarded reason)) (clean : Noise remains) :
      Lost sizes (piece ++ remains) [reason]

/-! ## A frame with another byte in it -/

/-- Another byte leaves the command or the length as it is, and the header or what follows it. -/
theorem header_with_byte {h h' : Wire.Header} {rest rest' front back : List UInt8} {x b : UInt8}
    (before : h.bytes ++ rest = front ++ x :: back)
    (after : h'.bytes ++ rest' = front ++ b :: back) :
    (h'.command = h.command ∨ h'.bodyLength = h.bodyLength) ∧ (rest' = rest ∨ h' = h) := by
  simp only [Wire.Header.bytes, Checksum.wordBytes, List.cons_append, List.nil_append] at *
  rcases front with _ | ⟨length, _ | ⟨low, _ | ⟨high, front⟩⟩⟩
  · simp only [List.nil_append, List.cons.injEq] at before after
    have behind := after.2.trans before.2.symm
    simp only [List.cons.injEq] at behind
    obtain ⟨low, high, same⟩ := behind
    refine ⟨.inl ?_, .inl same⟩
    rw [← Checksum.wordOf_wordBytes h'.command, low, high, Checksum.wordOf_wordBytes]
  · simp only [List.cons_append, List.nil_append, List.cons.injEq] at before after
    have behind := after.2.2.trans before.2.2.symm
    exact ⟨.inr (after.1.trans before.1.symm), .inl (List.cons.inj behind).2⟩
  · simp only [List.cons_append, List.nil_append, List.cons.injEq] at before after
    exact ⟨.inr (after.1.trans before.1.symm), .inl (after.2.2.2.trans before.2.2.2.symm)⟩
  · simp only [List.cons_append, List.cons.injEq] at before after
    have same : h' = h := by
      apply Wire.Header.bytes_injective
      simp [Wire.Header.bytes, Checksum.wordBytes, before, after]
    exact ⟨.inl (by rw [same]), .inr same⟩

/-- A header that the cycle goes on behind declares the length that it should, if its command or its
length is the one that it should be. -/
theorem bodySize_of_goesOn {sizes : CommandSizes} {h h' : Wire.Header}
    (registered : sizes h.command = some h.bodySize) (goesOn : GoesOn sizes h')
    (kept : h'.command = h.command ∨ h'.bodyLength = h.bodyLength) : h'.bodySize = h.bodySize := by
  rcases kept with command | bodyLength
  · rcases goesOn with entry | entry <;> rw [command, registered] at entry
    · cases entry
    · exact (Option.some.inj entry).symm
  · rw [Wire.Header.bodySize, bodyLength, Wire.Header.bodySize]

theorem decode_of_piece {sizes : CommandSizes} {bytes : List UInt8} {f : Wire.Frame}
    (h : Piece sizes bytes (.frame f)) : Wire.decode bytes = .ok f := by
  cases h with
  | frame accepted => exact accepted

/-- A marker and a header of a length that its command allows, with as many bytes behind them as it
declares, are discarded unless they verify. -/
theorem discarded_of_not_verify {sizes : CommandSizes} {h : Wire.Header} {rest : List UInt8}
    (goesOn : GoesOn sizes h) (complete : rest.length = h.bodySize + Checksum.size)
    (broken : Checksum.verify (Wire.marker :: (h.bytes ++ rest)) ≠ true) :
    ∃ reason, Piece sizes (Wire.marker :: (h.bytes ++ rest)) (.discarded reason) := by
  obtain ⟨e, piece⟩ := Piece.of_complete goesOn complete
  cases e with
  | discarded reason => exact ⟨reason, piece⟩
  | frame f =>
    have ok := (Wire.decode_eq_ok_iff_verify complete).1 ⟨f, decode_of_piece piece⟩
    exact absurd ok broken

/-- What is left of a frame when a byte behind its marker is replaced. -/
theorem lost_of_other_byte {sizes : CommandSizes} {h : Wire.Header} {rest front back : List UInt8}
    {x b : UInt8} (registered : sizes h.command = some h.bodySize)
    (complete : rest.length = h.bodySize + Checksum.size)
    (ok : Checksum.verify (Wire.marker :: (h.bytes ++ rest)) = true) (plain : Noise rest)
    (split : h.bytes ++ rest = front ++ x :: back) (other : b ≠ x) :
    ∃ discards, Lost sizes (Wire.marker :: (front ++ b :: back)) discards ∧
      discards.length ≤ 1 := by
  have size : (front ++ b :: back).length = (h.bytes ++ rest).length := by rw [split]; simp
  have long : Wire.headerSize ≤ (front ++ b :: back).length := by rw [size]; simp
  obtain ⟨h', rest', split'⟩ := Wire.exists_header_append long
  have broken : Checksum.verify (Wire.marker :: (h'.bytes ++ rest')) ≠ true := by
    intro ok'
    rw [split, ← List.cons_append] at ok
    rw [← split', ← List.cons_append] at ok'
    exact other (Checksum.byte_eq_of_verify ok' ok)
  have sameLength : rest'.length = rest.length := by
    rw [split'] at size
    simpa using size
  obtain ⟨kept, behind⟩ := header_with_byte split split'.symm
  rw [split']
  by_cases goesOn : GoesOn sizes h'
  · -- The length byte is not the one that changed, so the cycle ends where the frame does.
    have sameSize := bodySize_of_goesOn registered goesOn kept
    have complete' : rest'.length = h'.bodySize + Checksum.size := by omega
    obtain ⟨reason, piece⟩ := discarded_of_not_verify goesOn complete' broken
    have lost := Lost.discarded piece noise_nil
    exact ⟨[reason], by simpa using lost, by simp⟩
  · -- The cycle ends at the header, and what it leaves of the frame holds no marker.
    obtain ⟨reason, piece⟩ := Piece.of_not_goesOn goesOn
    have same : rest' = rest := by
      rcases behind with same | rfl
      · exact same
      · exact absurd (.inr registered) goesOn
    exact ⟨[reason], .discarded piece (same ▸ plain), by simp⟩

/-- A frame with no marker in it but its first byte is lost when any byte of it is replaced. -/
theorem lost_of_damage {sizes : CommandSizes} {frame : List UInt8} {f : Wire.Frame}
    (h : Piece sizes frame (.frame f)) (plain : Noise frame.tail) {i : Nat} (hi : i < frame.length)
    {b : UInt8} (other : b ≠ frame[i]) :
    ∃ discards, Lost sizes (frame.set i b) discards ∧ discards.length ≤ 1 := by
  cases h with
  | frame accepted complete registered =>
    have long := Wire.length_body_of_decode accepted
    obtain ⟨rest, rfl, size, -⟩ := Wire.complete_of_decode accepted complete
    rw [List.tail_cons] at plain
    cases i with
    | zero => exact ⟨[], .skipped (noise_cons.2 ⟨other, plain⟩), by simp⟩
    | succ i =>
      simp only [List.length_cons, Nat.add_lt_add_iff_right] at hi
      simp only [List.getElem_cons_succ] at other
      rw [List.set_cons_succ, List.set_eq_take_append_cons_drop, if_pos hi]
      refine lost_of_other_byte (long ▸ registered) size
        ((Wire.decode_eq_ok_iff_verify size).1 ⟨f, accepted⟩) (noise_append.1 plain).2 ?_ other
      rw [← List.drop_eq_getElem_cons hi, List.take_append_drop]

/-! ## The stream around it -/

/-- Noise in front of a stream that is cut only adds to the noise. -/
theorem Cut.Fits.behind_noise {sizes : CommandSizes} {g : Cut} {events : List Event} {state : State}
    (fits : g.Fits sizes events state) {noise : List UInt8} (clean : Noise noise) :
    ∃ g', Cut.Fits sizes g' events state ∧ g'.bytes = noise ++ g.bytes := by
  obtain ⟨pieces, last, tail⟩ := g
  obtain ⟨carried, quiet, unfinished⟩ := fits
  cases carried with
  | nil => exact ⟨⟨[], noise ++ last, tail⟩, ⟨.nil, noise_append.2 ⟨clean, quiet⟩, unfinished⟩,
      by simp [Cut.bytes, Cut.join]⟩
  | @cons p e pieces events first carried =>
    exact ⟨⟨(noise ++ p.1, p.2) :: pieces, last, tail⟩,
      ⟨.cons ⟨noise_append.2 ⟨clean, first.1⟩, first.2⟩ carried, quiet, unfinished⟩,
      by simp [Cut.bytes, Cut.join]⟩

theorem Cut.Fits.behind_pieces {sizes : CommandSizes} {g : Cut} {earlier events : List Event}
    {state : State} (fits : g.Fits sizes events state) {pieces : List (List UInt8 × List UInt8)}
    (carried : List.Forall₂ (Carries sizes) pieces earlier) :
    ∃ g', Cut.Fits sizes g' (earlier ++ events) state ∧ g'.bytes = Cut.join pieces ++ g.bytes :=
  ⟨⟨pieces ++ g.pieces, g.noise, g.tail⟩,
    ⟨List.rel_append carried fits.pieces, fits.noise, fits.tail⟩, by simp [Cut.bytes, Cut.join]⟩

/-- Bytes that are lost cost no more than the cycles that discard them. -/
theorem Cut.Fits.behind_lost {sizes : CommandSizes} {g : Cut} {events : List Event} {state : State}
    (fits : g.Fits sizes events state) {noise bytes : List UInt8} {discards : List Discard}
    (clean : Noise noise) (lost : Lost sizes bytes discards) :
    ∃ g', Cut.Fits sizes g' (discards.map .discarded ++ events) state ∧
      g'.bytes = noise ++ (bytes ++ g.bytes) := by
  cases lost with
  | skipped quiet =>
    obtain ⟨g', fits', same⟩ := fits.behind_noise (noise_append.2 ⟨clean, quiet⟩)
    exact ⟨g', fits', by rw [same, List.append_assoc]⟩
  | @discarded piece remains reason h quiet =>
    obtain ⟨g', fits', same⟩ := fits.behind_noise quiet
    have carried : Carries sizes (noise, piece) (.discarded reason) := ⟨clean, h⟩
    obtain ⟨g'', fits'', joined⟩ := fits'.behind_pieces (.cons carried .nil)
    refine ⟨g'', fits'', ?_⟩
    rw [joined, same]
    simp [Cut.join]

/-- **One damaged byte costs one frame.** In a stream of frames with noise between them, let any
byte be replaced of a frame that holds no other marker than its first byte. All frames in front of
it and behind it are delivered as they were, in order, and at most one discard stands in its
place. -/
theorem one_frame_lost {sizes : CommandSizes} {before after : List (List UInt8 × List UInt8)}
    {frames frames' : List Wire.Frame} {noise frame last : List UInt8} {f : Wire.Frame}
    (earlier : List.Forall₂ (Carries sizes) before (frames.map .frame))
    (hit : Carries sizes (noise, frame) (.frame f)) (plain : Noise frame.tail)
    (later : List.Forall₂ (Carries sizes) after (frames'.map .frame)) (quiet : Noise last)
    {i : Nat} (hi : i < frame.length) {b : UInt8} (other : b ≠ frame[i]) (s : Scanner) :
    ∃ discards : List Discard, discards.length ≤ 1 ∧
      (s.cycles sizes (.ofBytes (Cut.join before ++
          (noise ++ (frame.set i b ++ (Cut.join after ++ last)))))).map (·.result) =
        (frames.map Event.frame ++ (discards.map Event.discarded ++ frames'.map Event.frame)).map
            .ok ++ [.error .connectionClosed] := by
  have behind : Cut.Fits sizes ⟨after, last, []⟩ (frames'.map .frame) .seekingMarker :=
    ⟨later, quiet, .nothing⟩
  obtain ⟨discards, lost, few⟩ := lost_of_damage hit.2 plain hi other
  obtain ⟨g, fits, split⟩ := behind.behind_lost hit.1 lost
  obtain ⟨g', fits', split'⟩ := fits.behind_pieces earlier
  have bytes : g'.bytes =
      Cut.join before ++ (noise ++ (frame.set i b ++ (Cut.join after ++ last))) := by
    rw [split', split]
    simp [Cut.bytes]
  refine ⟨discards, few, ?_⟩
  rw [← bytes]
  exact (cycles_of_fits fits' s).1

/-- The fifth byte of a frame is hit, between two others. -/
theorem one_frame_lost_between :
    let sizes : CommandSizes := fun command => if command = 0x30 then some 2 else none
    let sound : Wire.Request := ⟨0x30, 2, [1, 0]⟩
    let hit : Wire.Request := ⟨0x30, 2, [2, 0]⟩
    ∃ discards : List Discard, discards.length ≤ 1 ∧
      (Scanner.cycles sizes {} (.ofBytes (Cut.join [([0x11, 0x22], sound.bytes)] ++
          ([0x33] ++ (hit.bytes.set 4 7 ++ (Cut.join [([], sound.bytes)] ++ [0x44])))))).map
            (·.result) =
        ([sound.frame].map Event.frame ++ (discards.map Event.discarded ++
          [sound.frame].map Event.frame)).map .ok ++ [.error .connectionClosed] := by
  intro sizes sound hit
  have piece : Piece sizes sound.bytes (.frame sound.frame) := .of_request (by decide) rfl
  have carried : Carries sizes ([0x33], hit.bytes) (.frame hit.frame) :=
    ⟨by decide, .of_request (by decide) rfl⟩
  have earlier : List.Forall₂ (Carries sizes) [([0x11, 0x22], sound.bytes)]
      ([sound.frame].map Event.frame) := .cons ⟨by decide, piece⟩ .nil
  have later : List.Forall₂ (Carries sizes) [([], sound.bytes)] ([sound.frame].map Event.frame) :=
    .cons ⟨noise_nil, piece⟩ .nil
  have plain : Noise hit.bytes.tail := by decide +kernel
  have within : 4 < hit.bytes.length := by decide
  have byte : hit.bytes[4] = 2 := rfl
  have other : (7 : UInt8) ≠ hit.bytes[4] := by
    rw [byte]
    decide
  exact one_frame_lost earlier carried plain later (by decide) within other {}

end Scan

end SerialLink
