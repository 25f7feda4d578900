import SerialLink.Proofs.Scan.Accounting
import SerialLink.Proofs.Scan.Delivery

/-!
# Waiting for a frame

A caller who wants a frame and not each event lets the scanner go on until a cycle answers it, with
a frame or an error (`Answered`). A cycle that does not answer has dropped a frame and so has used up
a marker (`count_marker_of_event`); no more markers come, so there is an answer before they run out
(`exists_answered`), over every transport that never waits. The call is the caller's iteration of
cycles and nothing else, which is how it leaves counts and transport (`first_frame_answers`).
-/

namespace SerialLink

namespace Scan

variable {sizes : CommandSizes} {s : Scanner} {t : Transport} {c : Cycle}

/-! ## Markers -/

/-- Behind a marker that was found there is one less. -/
theorem count_marker_of_seek {t₁ : Transport} {n : Nat} (sought : seek t = some ⟨.ok (), n, t₁⟩) :
    t₁.feed.bytes.count Wire.marker < t.feed.bytes.count Wire.marker := by
  obtain ⟨noise, -, -, split⟩ := bytes_of_seek sought
  rw [split, List.count_append, List.count_cons_self]
  omega

/-- No read brings a marker back. -/
theorem kept_markers :
    Kept fun t t' => t'.feed.bytes.count Wire.marker ≤ t.feed.bytes.count Wire.marker where
  trans first second := Nat.le_trans second first
  reads read := (Transport.suffix_readExact read).sublist.count_le Wire.marker

/-- A cycle that ends with an event has used up a marker at least. -/
theorem count_marker_of_event {e : Event} (step : s.step sizes t = some c)
    (ends : c.result = .ok e) :
    c.transport.feed.bytes.count Wire.marker < t.feed.bytes.count Wire.marker := by
  cases course_of_step step with
  | unmarked => cases ends
  | headless sought read =>
    rw [transport_readFailed]
    exact Nat.lt_of_le_of_lt (kept_markers.reads read) (count_marker_of_seek sought)
  | missized sought headed =>
    exact Nat.lt_of_le_of_lt (kept_markers.reads headed) (count_marker_of_seek sought)
  | bodiless sought headed _ read =>
    rw [transport_readFailed]
    have behind := kept_markers.trans (kept_markers.reads headed) (kept_markers.reads read)
    exact Nat.lt_of_le_of_lt behind (count_marker_of_seek sought)
  | unknown sought headed _ read | whole sought headed _ read =>
    have behind := kept_markers.trans (kept_markers.reads headed) (kept_markers.reads read)
    exact Nat.lt_of_le_of_lt behind (count_marker_of_seek sought)

end Scan

/-! ## The call -/

namespace Scanner

variable {sizes : CommandSizes} {s : Scanner} {t : Transport} {c : Scan.Cycle}

/-- What becomes of a call whose first cycle takes place. -/
theorem next_of_step (step : s.step sizes t = some c) :
    s.next sizes t =
      match c.result with
      | .error fault => some (.error fault, c.scanner, c.transport)
      | .ok (.frame f) => some (.ok f, c.scanner, c.transport)
      | .ok (.discarded _) => c.scanner.next sizes c.transport := by
  rw [next]
  split
  · next waits => cases waits.symm.trans step
  · next c' took =>
    obtain rfl : c' = c := Option.some.inj (took.symm.trans step)
    split <;> simp_all

end Scanner

namespace Scan

variable {sizes : CommandSizes} {s : Scanner} {t : Transport} {c last : Cycle}
  {dropped : List Cycle} {answer : Except Wire.Fault Wire.Frame}

/-- What becomes of a call that wants a frame: the cycles of the caller's iteration, of which all but
the last drop frames, and the last answers the call. -/
structure Answered (sizes : CommandSizes) (s : Scanner) (t : Transport) (dropped : List Cycle)
    (last : Cycle) (answer : Except Wire.Fault Wire.Frame) : Prop where
  iterated : s.run sizes (dropped.length + 1) t = dropped ++ [last]
  drops : ∀ c ∈ dropped, ∃ reason, c.result = .ok (.discarded reason)
  answers : last.result = answer.map .frame
  /-- the call is left with what the last cycle leaves -/
  returns : s.next sizes t = some (answer, last.scanner, last.transport)
  /-- every cycle but the last has used up a marker -/
  markers : dropped.length + last.transport.feed.bytes.count Wire.marker ≤
    t.feed.bytes.count Wire.marker

theorem answered_of_step (step : s.step sizes t = some c) (answers : c.result = answer.map .frame) :
    Answered sizes s t [] c answer where
  iterated := by rw [List.length_nil, Scanner.run, step]; rfl
  drops := by simp
  answers := answers
  returns := by
    rw [Scanner.next_of_step step, answers]
    cases answer <;> rfl
  markers := by
    rw [List.length_nil, Nat.zero_add]
    exact kept_markers.step step

theorem Answered.cons {reason : Discard} (step : s.step sizes t = some c)
    (ends : c.result = .ok (.discarded reason))
    (later : Answered sizes c.scanner c.transport dropped last answer) :
    Answered sizes s t (c :: dropped) last answer where
  iterated := by
    rw [List.length_cons, Scanner.run, step]
    exact congrArg (c :: ·) later.iterated
  drops := by
    intro c' member
    rcases List.mem_cons.1 member with rfl | behind
    · exact ⟨reason, ends⟩
    · exact later.drops c' behind
  answers := later.answers
  returns := by
    rw [Scanner.next_of_step step, ends]
    exact later.returns
  markers := by
    have := count_marker_of_event step ends
    have := later.markers
    rw [List.length_cons]
    omega

/-- A call over a transport that never waits is answered. -/
theorem exists_answered (sizes : CommandSizes) (s : Scanner) (quiet : t.live = false) :
    ∃ dropped last answer, Answered sizes s t dropped last answer := by
  -- A cycle that drops a frame uses up a marker.
  induction size : t.feed.bytes.count Wire.marker using Nat.strongRecOn generalizing s t with
  | ind size ih =>
    subst size
    have takesPlace : (s.step sizes t).isSome := step_isSome quiet
    obtain ⟨c, step⟩ := Option.isSome_iff_exists.1 takesPlace
    have quiet' : c.transport.live = false := (kept_live.step step).trans quiet
    cases ends : c.result with
    | error fault => exact ⟨[], c, .error fault, answered_of_step step ends⟩
    | ok e =>
      cases e with
      | frame f => exact ⟨[], c, .ok f, answered_of_step step ends⟩
      | discarded reason =>
        have fewer := count_marker_of_event step ends
        obtain ⟨dropped, last, answer, later⟩ := ih _ fewer c.scanner quiet' rfl
        exact ⟨c :: dropped, last, answer, later.cons step ends⟩

/-! ## What the call leaves -/

/-- The counts of a call are those of its cycles. -/
theorem Answered.counts (answered : Answered sizes s t dropped last answer) (kind : Event.Kind) :
    last.scanner.stats.of kind =
      s.stats.of kind + (events (dropped ++ [last])).countP (·.kind = kind) := by
  have behind : scannerBehind s (dropped ++ [last]) = last.scanner := by
    simp [scannerBehind]
  rw [← behind, ← answered.iterated]
  exact of_scannerBehind kind (dropped.length + 1)

/-- The frame that a call is answered with was the last to be served. -/
theorem Answered.delivered {f : Wire.Frame}
    (answered : Answered sizes s t dropped last (.ok f)) :
    Delivered sizes t.feed.bytes last.transport.feed.bytes f := by
  have member : last ∈ s.run sizes (dropped.length + 1) t := by
    rw [answered.iterated]
    exact List.mem_append_right _ (List.mem_singleton_self last)
  exact delivered_of_mem_run member answered.answers

/-- **A call for a frame returns with the first one, and loses nothing.** Over every feed of a
replayed capture, closed or not, and from any scanner, a call for the next frame returns. It answers
as the first cycle does, of the iteration from the same scanner and transport, that does not drop a
frame: with the frame or with the error. Scanner and transport are left as that cycle leaves them.
Each frame that was dropped on the way is counted under its kind; a frame that is delivered was
served last, so that nothing behind it has been read. The cycles are at most one more than there
were markers left. -/
theorem first_frame_answers (sizes : CommandSizes) (s : Scanner) (name : String) (isOpen : Bool)
    (feed : Feed) :
    let t := { Transport.replay name feed with isOpen := isOpen }
    ∃ (cycles dropped : List Cycle) (last : Cycle) (answer : Except Wire.Fault Wire.Frame),
      s.next sizes t = some (answer, last.scanner, last.transport) ∧
      cycles = s.run sizes cycles.length t ∧ cycles = dropped ++ [last] ∧
      (∀ c ∈ dropped, ∃ reason, c.result = .ok (.discarded reason)) ∧
      last.result = answer.map .frame ∧
      (∀ kind, last.scanner.stats.of kind =
        s.stats.of kind + (events cycles).countP (·.kind = kind)) ∧
      (∀ f, answer = .ok f → Delivered sizes feed.bytes last.transport.feed.bytes f) ∧
      cycles.length ≤ feed.bytes.count Wire.marker + 1 := by
  intro t
  obtain ⟨dropped, last, answer, answered⟩ := exists_answered sizes s (t := t) rfl
  have length : (dropped ++ [last]).length = dropped.length + 1 := List.length_append
  refine ⟨dropped ++ [last], dropped, last, answer, answered.returns, ?_, rfl, answered.drops,
    answered.answers, answered.counts, ?_, ?_⟩
  · rw [length, answered.iterated]
  · rintro f rfl
    exact answered.delivered
  · rw [length]
    exact Nat.succ_le_succ (Nat.le_of_add_right_le answered.markers)

end Scan

end SerialLink
