import SerialLink.Proofs.Scan.Yielding
import SerialLink.Proofs.Transport.Steady

/-!
# Cycles over a transport that is written to

A transport is flowing when it is open and has no failures; bytes may come while they are read. A
cycle that finds all it takes goes as over any other transport with these bytes (`yields_flowing`),
and one that finds the beginning of a frame waits for the rest (`step_eq_none`). The cycles over a
stream that breaks off are its pieces, and then nothing more until more is written
(`cycles_of_flowing`).
-/

namespace SerialLink

namespace Transport

/-- The transport is open and its reads meet no failure. -/
structure Flowing (t : Transport) : Prop where
  isOpen : t.isOpen = true
  smooth : t.feed.Smooth

variable {t u u' : Transport} {n : Nat}

/-- A read gives the next bytes as long as there are enough. -/
theorem Flowing.readExact (flowing : t.Flowing) (enough : n ≤ t.feed.bytes.length) :
    ∃ t', t.readExact n = some (.ok (t.feed.bytes.take n), t') ∧ t'.Flowing ∧
      t'.feed.bytes = t.feed.bytes.drop n := by
  rcases Nat.eq_zero_or_pos n with rfl | some
  · exact ⟨t, by simp [Transport.readExact], flowing, rfl⟩
  · obtain ⟨rest, filled, smooth, left⟩ := fill_of_enough flowing.smooth some enough
    refine ⟨{ t with isOpen := true, feed := rest }, ?_, ⟨rfl, smooth⟩, left⟩
    rw [Transport.readExact, if_neg (Nat.ne_of_gt some), if_pos flowing.isOpen, filled]
    rfl

/-- What another transport with the same bytes gives, a flowing one gives. -/
theorem Flowing.readExact_of_read (flowing : t.Flowing) (same : t.feed.bytes = u.feed.bytes)
    {bytes : List UInt8} (read : u.readExact n = some (.ok bytes, u')) :
    ∃ t', t.readExact n = some (.ok bytes, t') ∧ t'.Flowing ∧
      t'.feed.bytes = u'.feed.bytes := by
  obtain ⟨split, size⟩ := bytes_of_readExact read
  have enough : n ≤ t.feed.bytes.length := by
    rw [same, split, List.length_append]
    omega
  have taken : t.feed.bytes.take n = bytes := by rw [same, split, ← size, List.take_left]
  have left : t.feed.bytes.drop n = u'.feed.bytes := by rw [same, split, ← size, List.drop_left]
  rw [← taken, ← left]
  exact flowing.readExact enough

/-- A read that wants more than there is waits as long as more may come. -/
theorem Flowing.readExact_of_short (flowing : t.Flowing) (live : t.live = true)
    (short : t.feed.bytes.length < n) : t.readExact n = none := by
  have some : n ≠ 0 := by omega
  rw [Transport.readExact, if_neg some, if_pos flowing.isOpen, live,
    fill_of_short flowing.smooth short]
  rfl

/-- Reading changes nothing about what the transport is. -/
theorem kind_readExact {t' : Transport} {result : Except Fault (List UInt8)}
    (read : t.readExact n = some (result, t')) : t'.kind = t.kind := by
  unfold Transport.readExact at read
  split at read
  · cases read
    rfl
  · split at read
    · obtain ⟨i, -, left⟩ := Option.map_eq_some_iff.1 read
      cases left
      rfl
    · cases read
      rfl

end Transport

namespace Scan

theorem kept_kind : Kept fun t t' => t'.kind = t.kind where
  trans first second := second.trans first
  reads := Transport.kind_readExact

theorem kept_steady : Kept fun t t' => t.Steady → t'.Steady where
  trans first second steady := second (first steady)
  reads := by
    intro t t₁ n result read steady
    rcases Nat.lt_or_ge t.feed.bytes.length n with short | enough
    · obtain ⟨t', read', steady', -⟩ := steady.readExact_of_short short
      cases read.symm.trans read'
      exact steady'
    · obtain ⟨t', read', steady', -⟩ := steady.readExact enough
      cases read.symm.trans read'
      exact steady'

/-- A flowing transport stays so while more can come, since what is not there yet is waited for. -/
theorem kept_flowing :
    Kept fun t t' => t.Flowing ∧ t.live = true → t'.Flowing ∧ t'.live = true where
  trans first second flows := second (first flows)
  reads := by
    rintro t t₁ n result read ⟨flowing, live⟩
    rcases Nat.lt_or_ge t.feed.bytes.length n with short | enough
    · rw [flowing.readExact_of_short live short] at read
      cases read
    · have live₁ := (Transport.live_readExact read).trans live
      obtain ⟨t', read', flowing', -⟩ := flowing.readExact enough
      cases read.symm.trans read'
      exact ⟨flowing', live₁⟩

variable {sizes : CommandSizes} {s : Scanner} {t u u' : Transport}

/-! ## One cycle -/

/-- A flowing transport yields what any other has that has the same bytes. -/
theorem yields_flowing : Yields fun t u => t.Flowing ∧ t.feed.bytes = u.feed.bytes := by
  rintro t u u' n bytes ⟨flowing, same⟩ read
  obtain ⟨t', read', flowing', left⟩ := flowing.readExact_of_read same read
  exact ⟨t', read', flowing', left⟩

/-- Noise alone is passed over, and then there is nothing to read. -/
theorem seek_eq_none (flowing : t.Flowing) (live : t.live = true) (clean : Noise t.feed.bytes) :
    seek t = none := by
  induction noise : t.feed.bytes generalizing t with
  | nil => exact seek_of_none (flowing.readExact_of_short live (by simp [noise]))
  | cons b rest ih =>
    obtain ⟨t', read, flowing', left⟩ := flowing.readExact (n := 1) (by simp [noise])
    rw [noise] at clean read left
    obtain ⟨other, clean⟩ := noise_cons.1 clean
    have left : t'.feed.bytes = rest := left
    have live' : t'.live = true := (Transport.live_readExact read).trans live
    rw [seek_of_other other read, ih flowing' live' (left ▸ clean) left]
    rfl

/-- A cycle takes the noise and the piece in front, whatever comes behind. -/
theorem step_of_piece_flowing {noise piece rest : List UInt8} {e : Event} (s : Scanner)
    (flowing : t.Flowing) (clean : Noise noise) (h : Piece sizes piece e)
    (split : t.feed.bytes = noise ++ (piece ++ rest)) :
    ∃ t', s.step sizes t = some (finished e (s.stats.skip noise.length) t') ∧ t'.Flowing ∧
      t'.feed.bytes = rest := by
  have same : t.feed.bytes = (Transport.ofBytes (noise ++ (piece ++ rest))).feed.bytes := by
    rw [split, Transport.bytes_feed_ofBytes]
  obtain ⟨t', step, flowing', left⟩ := yields_flowing.piece s clean h ⟨flowing, same⟩
  exact ⟨t', step, flowing', left.trans (Transport.bytes_feed_ofBytes rest)⟩

/-- A cycle that finds noise and an unfinished frame waits. -/
theorem step_eq_none {noise tail : List UInt8} {state : State} (s : Scanner)
    (flowing : t.Flowing) (live : t.live = true) (clean : Noise noise)
    (unfinished : Unfinished sizes tail state) (split : t.feed.bytes = noise ++ tail) :
    s.step sizes t = none := by
  have sought {rest : List UInt8} (marked : tail = Wire.marker :: rest) :
      ∃ t', seek t = some ⟨.ok (), noise.length, t'⟩ ∧ t'.Flowing ∧ t'.feed.bytes = rest := by
    have same : t.feed.bytes = (Transport.ofBytes (noise ++ Wire.marker :: rest)).feed.bytes := by
      rw [Transport.bytes_feed_ofBytes, split, marked]
    obtain ⟨t', sought, flowing', left⟩ :=
      yields_flowing.seek ⟨flowing, same⟩ (seek_ofBytes clean rest)
    exact ⟨t', sought, flowing', left.trans (Transport.bytes_feed_ofBytes rest)⟩
  cases unfinished with
  | nothing =>
    rw [List.append_nil] at split
    rw [Scanner.step, seek_eq_none flowing live (split ▸ clean)]
  | header short =>
    obtain ⟨t₁, sought, flowing₁, left⟩ := sought rfl
    have live₁ : t₁.live = true := (kept_live.seek sought).trans live
    rw [step_of_marker sought, readFrame, flowing₁.readExact_of_short live₁ (left ▸ short)]
  | @body h rest goesOn short =>
    obtain ⟨t₁, sought, flowing₁, left⟩ := sought rfl
    have live₁ : t₁.live = true := (kept_live.seek sought).trans live
    have same : t₁.feed.bytes = (Transport.ofBytes (h.bytes ++ rest)).feed.bytes := by
      rw [left, Transport.bytes_feed_ofBytes]
    obtain ⟨t₂, headed, flowing₂, left₂⟩ := flowing₁.readExact_of_read same
      (Transport.readExact_ofBytes h.length_bytes rest)
    have live₂ : t₂.live = true := (Transport.live_readExact headed).trans live₁
    rw [Transport.bytes_feed_ofBytes] at left₂
    have waits := flowing₂.readExact_of_short live₂ (left₂ ▸ short)
    rw [step_of_marker sought, readFrame_of_header headed, readRest, waits]
    rcases goesOn with entry | entry
    · simp [entry]
    · simp [entry]

/-! ## All cycles -/

/-- The cycles over a stream are its pieces, and the next one waits. -/
theorem cycles_of_flowing {g : Cut} {events : List Event} {state : State} (flowing : t.Flowing)
    (live : t.live = true) (fits : g.Fits sizes events state) (split : t.feed.bytes = g.bytes)
    (s : Scanner) : (s.cycles sizes t).map (·.result) = events.map .ok := by
  obtain ⟨pieces, noise, tail⟩ := g
  obtain ⟨carried, clean, unfinished⟩ := fits
  simp only [Cut.bytes, Cut.join] at *
  induction carried generalizing s t with
  | nil =>
    rw [Scanner.cycles_of_none (step_eq_none s flowing live clean unfinished split)]
    rfl
  | @cons p e pieces events first _ ih =>
    rw [List.flatMap_cons, List.append_assoc, List.append_assoc] at split
    obtain ⟨t', step, flowing', left⟩ := step_of_piece_flowing s flowing first.1 first.2 split
    have live' : t'.live = true := (kept_live.step step).trans live
    rw [Scanner.cycles_of_event step rfl, List.map_cons]
    exact congrArg (Except.ok e :: ·) (ih flowing' live' _ left)

end Scan

end SerialLink
