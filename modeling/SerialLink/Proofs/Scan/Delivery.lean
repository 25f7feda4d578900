import SerialLink.Proofs.Scan.Course
import SerialLink.Proofs.Wire.Encoding

/-!
# Nothing unverified is delivered

A frame is delivered only when its bytes are the last ones that the transport has served, one behind
the other, and exactly those that its command and body are encoded as. So what a reader meets in
between (chunks of any length, broken calls, failures, ends, the transport being closed) never mixes
bytes of two frames or brings lost ones back (`deliveries_are_verified`).
-/

namespace SerialLink

namespace Scan

/-- `f` is a frame that its command's entry allows, and was the last to be served of `before`, the
bytes that were still to come at some point; `behind` are those that are still to come now. -/
structure Delivered (sizes : CommandSizes) (before behind : List UInt8) (f : Wire.Frame) :
    Prop where
  registered : sizes f.command = some f.body.length
  declared : f.header.bodySize = f.body.length
  served : ∃ earlier bytes, before = earlier ++ (bytes ++ behind) ∧
    (Wire.encodeInto f.command f.body.length f.body).on [] = (.ok (), bytes) ∧
    bytes.length = f.wireSize ∧
    bytes.drop (f.wireSize - Checksum.size) = Checksum.wordBytes f.checksum

/-- What was delivered from an end of some bytes was delivered from those bytes. -/
theorem Delivered.of_suffix {sizes : CommandSizes} {before later behind : List UInt8}
    {f : Wire.Frame} (d : Delivered sizes later behind f) (h : later <:+ before) :
    Delivered sizes before behind f := by
  obtain ⟨lost, rfl⟩ := h
  obtain ⟨earlier, bytes, split, encoded⟩ := d.served
  refine ⟨d.registered, d.declared, lost ++ earlier, bytes, ?_, encoded⟩
  rw [split, List.append_assoc]

theorem ne_frame_of_readFailed {stage : Stage} {fault : Transport.Fault} {s : Scanner}
    {t : Transport} {f : Wire.Frame} : (readFailed stage fault s t).result ≠ .ok (.frame f) := by
  unfold readFailed
  split <;> simp [finished]

/-- A cycle that ends with a frame has just been served its bytes. -/
theorem delivered_of_step {sizes : CommandSizes} {s : Scanner} {t : Transport} {c : Cycle}
    {f : Wire.Frame} (step : s.step sizes t = some c) (frame : c.result = .ok (.frame f)) :
    Delivered sizes t.feed.bytes c.transport.feed.bytes f := by
  cases course_of_step step with
  | unmarked | missized | unknown => cases frame
  | headless | bodiless => exact absurd frame ne_frame_of_readFailed
  | @whole n t₁ t₂ t₃ h rest sought headed entry read =>
    obtain ⟨noise, -, -, marked⟩ := bytes_of_seek sought
    have header := (Transport.bytes_of_readExact headed).1
    obtain ⟨body, size⟩ := Transport.bytes_of_readExact read
    obtain ⟨bytes, rfl, long, checksum⟩ :=
      Wire.frameBytes_of_checked size (eventOf_eq_frame_iff.1 (Except.ok.inj frame))
    have accepted : Wire.Request.Accepted ⟨f.command, f.body.length, f.body⟩ := by
      have := f.header.bodyLength.toNat_lt
      exact ⟨by rw [long, Wire.Header.bodySize, Wire.maxBody]; omega, rfl⟩
    have tail : f.wireSize - Checksum.size = (Wire.covered f.command f.body).length := by
      simp [Wire.Frame.wireSize, Wire.overhead, Checksum.size]
      omega
    refine ⟨by rw [long]; exact entry, long.symm, noise, Wire.frameBytes f.command f.body, ?_,
      Wire.append_of_accepted accepted [], Wire.length_frameBytes _ _, ?_⟩
    · rw [marked, header, body, bytes]
      simp [transport_finished]
    · rw [tail, Wire.frameBytes, List.drop_left, checksum]

/-- Every frame of a run was served from what was there before the run. -/
theorem delivered_of_mem_run {sizes : CommandSizes} {n : Nat} {s : Scanner} {t : Transport}
    {c : Cycle} {f : Wire.Frame} (member : c ∈ s.run sizes n t)
    (frame : c.result = .ok (.frame f)) :
    Delivered sizes t.feed.bytes c.transport.feed.bytes f := by
  induction n generalizing s t with
  | zero => simp [Scanner.run] at member
  | succ n ih =>
    unfold Scanner.run at member
    split at member
    · simp at member
    · next first step =>
      rcases List.mem_cons.1 member with rfl | later
      · exact delivered_of_step step frame
      · exact (ih later).of_suffix (kept_suffix.step step)

/-- Every frame of a run was served from what the cycles before it had left. -/
theorem pairwise_delivered {sizes : CommandSizes} (n : Nat) {s : Scanner} {t : Transport} :
    (s.run sizes n t).Pairwise fun c c' => ∀ f, c'.result = .ok (.frame f) →
      Delivered sizes c.transport.feed.bytes c'.transport.feed.bytes f := by
  induction n generalizing s t with
  | zero => exact .nil
  | succ n ih =>
    unfold Scanner.run
    split
    · exact .nil
    · exact .cons (fun c' member f frame => delivered_of_mem_run member frame) ih

/-- **Nothing unverified is delivered.** Over every feed and for every caller who goes on whatever
the cycles end with, each cycle takes place; a frame that it ends with has the length that its
command requires, and its bytes are the last ones served, as the frame is encoded. All of them were
still to come when any earlier cycle ended, so no byte belongs to two frames. -/
theorem deliveries_are_verified (sizes : CommandSizes) (name : String) (feed : Feed) (s : Scanner)
    (n : Nat) :
    let cycles := s.run sizes n (Transport.replay name feed)
    cycles.length = n ∧
    (∀ c ∈ cycles, ∀ f, c.result = .ok (.frame f) →
      Delivered sizes feed.bytes c.transport.feed.bytes f) ∧
    cycles.Pairwise fun c c' => ∀ f, c'.result = .ok (.frame f) →
      Delivered sizes c.transport.feed.bytes c'.transport.feed.bytes f :=
  ⟨Scanner.length_run n rfl, fun _ member _ frame => delivered_of_mem_run member frame,
    pairwise_delivered n⟩

end Scan

end SerialLink
