import SerialLink.Proofs.Link.Wired

/-!
# The order of frames on a link

However many writers share the end of a stream, and however their portions and the cycles of the
host come one after another, the host obtains the frames in the order in which they were written,
each once and none torn (`Exchange.frames_keep_order`). Only the writer with the lock puts anything
on the wire (`Exchange.Locked`), so what is there are whole frames and the beginning of one more; a
step either leaves that, or adds to its end, or takes a frame from its front (`Exchange.Change`,
`Exchange.Told`).
-/

namespace SerialLink

/-! ## Writers -/

namespace Writer

/-- The writer holds the lock. -/
def isWriting : Writer → Bool
  | writing .. => true
  | _ => false

/-- What is written of a frame that is not yet whole. -/
def begun : Writer → List UInt8
  | writing call written (_ :: _) => call.request.bytes.take written
  | _ => []

/-- The call whose frame is whole, though it has not come back. -/
def complete? : Writer → Option Sending
  | writing call _ [] => some call
  | _ => none

/-- What the writer has of its call's frame is that frame, or the end of it. -/
def Sound (sizes : CommandSizes) : Writer → Prop
  | idle => True
  | waiting call bytes => call.Good sizes ∧ bytes = call.request.bytes
  | writing call written rest => call.Good sizes ∧ written ≤ call.request.bytes.length ∧
      rest = call.request.bytes.drop written

variable {sizes : CommandSizes} {call : Sending} {written : Nat} {rest : List UInt8}

theorem Sound.puts {n : Nat} (writes : (writing call written rest).Sound sizes)
    (most : n ≤ rest.length) :
    (writing call (written + (rest.take n).length) (rest.drop n)).Sound sizes := by
  obtain ⟨good, within, rfl⟩ := writes
  have size : ((call.request.bytes.drop written).take n).length = n := by
    rw [List.length_take, Nat.min_eq_left most]
  rw [List.length_drop] at most
  refine ⟨good, ?_, ?_⟩
  · rw [size]
    omega
  · rw [size, List.drop_drop]

theorem Sound.split (writes : (writing call written rest).Sound sizes) :
    call.request.bytes.take written ++ rest = call.request.bytes := by
  obtain ⟨-, -, rfl⟩ := writes
  exact List.take_append_drop written _

theorem begun_of_ne_nil (more : rest ≠ []) :
    (writing call written rest).begun = call.request.bytes.take written := by
  cases rest with
  | nil => exact absurd rfl more
  | cons => rfl

theorem complete?_of_ne_nil (more : rest ≠ []) : (writing call written rest).complete? = none := by
  cases rest with
  | nil => exact absurd rfl more
  | cons => rfl

/-- A portion more makes the frame whole, or leaves it begun. -/
theorem Sound.frames_puts {n : Nat} (writes : (writing call written rest).Sound sizes)
    (most : n ≤ rest.length) :
    let after := writing call (written + (rest.take n).length) (rest.drop n)
    Sending.framesOf after.complete?.toList ++ after.begun =
      call.request.bytes.take written ++ rest.take n := by
  intro after
  by_cases last : rest.drop n = []
  · have all : rest.take n = rest := List.take_of_length_le (List.drop_eq_nil_iff.1 last)
    have whole : after = writing call (written + (rest.take n).length) [] := by rw [← last]
    rw [whole, all, writes.split]
    simp [complete?, begun]
  · obtain ⟨-, within, rfl⟩ := writes
    rw [List.length_drop] at most
    rw [complete?_of_ne_nil last, begun_of_ne_nil last, List.length_take, List.length_drop,
      Nat.min_eq_left most, List.take_add]
    rfl

theorem Sound.good {writer : Writer} (sound : writer.Sound sizes)
    (complete : writer.complete? = some call) : call.Good sizes := by
  cases writer with
  | idle | waiting => cases complete
  | writing call' written rest =>
    cases rest with
    | nil =>
      cases complete
      exact sound.1
    | cons => cases complete

theorem Sound.torn {writer : Writer} (sound : writer.Sound sizes) : Torn sizes writer.begun := by
  cases writer with
  | idle | waiting => exact .inl rfl
  | writing call written rest =>
    cases rest with
    | nil => exact .inl rfl
    | cons b rest =>
      exact .inr ⟨call, b :: rest, sound.1, List.cons_ne_nil b rest, sound.split.symm⟩

/-- All that was written is the frame. -/
theorem Sound.whole (writes : (writing call written []).Sound sizes) :
    written = Wire.overhead + call.request.body.length := by
  obtain ⟨-, within, none⟩ := writes
  have all := List.drop_eq_nil_iff.1 none.symm
  rw [← call.length_bytes]
  omega

end Writer

namespace Exchange

/-- The writer that holds the lock. -/
def current (e : Exchange) : Writer :=
  match e.holder with
  | some w => e.writers w
  | none => .idle

/-- The calls that have come back with success, in order. -/
def succeeded (e : Exchange) : List Sending :=
  e.returned.filterMap fun (call, result) => if result.isOk then some call else none

/-- The calls whose frames were written whole, in the order of writing: those that have come back,
and one that is about to. -/
def sent (e : Exchange) : List Sending :=
  e.succeeded ++ e.current.complete?.toList

/-- How a call comes back. -/
def Outcome (sizes : CommandSizes) (closed : Prop) (call : Sending)
    (result : Except Wire.Fault Nat) : Prop :=
  (Wire.maxBody < call.request.body.length ∧
    result = .error (.bodyTooLarge call.request.body.length Wire.maxBody)) ∨
  (call.Good sizes ∧
    (result = .ok (Wire.overhead + call.request.body.length) ∨
      (closed ∧ result = .error .connectionClosed)))

/-- Only the writer that holds the lock is writing. -/
def Locked (e : Exchange) : Prop :=
  ∀ w, e.holder = some w ↔ (e.writers w).isWriting = true

/-- Any exchange in itself. -/
structure Sound (sizes : CommandSizes) (e : Exchange) : Prop where
  wired : e.link.Wired
  locked : e.Locked
  writers : ∀ w, (e.writers w).Sound sizes
  returned : ∀ call result, (call, result) ∈ e.returned →
    Outcome sizes (e.link.far.isOpen = false) call result

variable {sizes : CommandSizes} {e e' : Exchange}

/-! ### The lock -/

theorem Locked.set {w : Nat} {writer : Writer} (locked : e.Locked)
    (same : writer.isWriting = (e.writers w).isWriting) : (e.set w writer).Locked := by
  intro w'
  by_cases here : w' = w
  · subst here
    simpa [Exchange.set, same] using locked w'
  · simpa [Exchange.set, here] using locked w'

theorem Locked.take {w : Nat} {writer : Writer} (locked : e.Locked) (free : e.holder = none)
    (writes : writer.isWriting = true) :
    Locked { e.set w writer with holder := some w } := by
  intro w'
  by_cases here : w' = w
  · subst here
    simp [Exchange.set, writes]
  · have other := locked w'
    rw [free] at other
    simp [Exchange.set, here, ← other, Ne.symm here]

theorem Locked.release {w : Nat} {writer : Writer} (locked : e.Locked)
    (writing : (e.writers w).isWriting = true) (ends : writer.isWriting = false) :
    Locked { e.set w writer with holder := none } := by
  intro w'
  by_cases here : w' = w
  · subst here
    simp [Exchange.set, ends]
  · have other := locked w'
    rw [(locked w).2 writing] at other
    simp [Exchange.set, here, ← other, Ne.symm here]

theorem Locked.current_eq {w : Nat} (locked : e.Locked)
    (writing : (e.writers w).isWriting = true) : e.current = e.writers w := by
  rw [current, (locked w).2 writing]

/-- What other writers do is not seen by the one that holds the lock. -/
theorem Locked.current_set {w : Nat} {writer : Writer} (locked : e.Locked)
    (other : (e.writers w).isWriting = false) : (e.set w writer).current = e.current := by
  unfold current
  cases holder : e.holder with
  | none => simp [Exchange.set, holder]
  | some w' =>
    have writing := (locked w').1 holder
    have ne : w' ≠ w := by
      rintro rfl
      rw [other] at writing
      cases writing
    simp [Exchange.set, holder, ne]

/-! ### Steps -/

theorem writers_set {w : Nat} {writer : Writer} {P : Writer → Prop} (all : ∀ w, P (e.writers w))
    (new : P writer) : ∀ w', P ((e.set w writer).writers w') := by
  intro w'
  by_cases here : w' = w
  · subst here
    simpa [Exchange.set] using new
  · simpa [Exchange.set, here] using all w'

theorem Outcome.mono {closed closed' : Prop} {call : Sending} {result : Except Wire.Fault Nat}
    (outcome : Outcome sizes closed call result) (later : closed → closed') :
    Outcome sizes closed' call result := by
  rcases outcome with large | ⟨good, done | ⟨closed, failed⟩⟩
  · exact .inl large
  · exact .inr ⟨good, .inl done⟩
  · exact .inr ⟨good, .inr ⟨later closed, failed⟩⟩

theorem outcomes_snoc {closed : Prop} {returned : List (Sending × Except Wire.Fault Nat)}
    {call : Sending} {result : Except Wire.Fault Nat}
    (all : ∀ call result, (call, result) ∈ returned → Outcome sizes closed call result)
    (new : Outcome sizes closed call result) :
    ∀ call' result', (call', result') ∈ returned ++ [(call, result)] →
      Outcome sizes closed call' result' := by
  intro call' result' member
  rcases List.mem_append.1 member with before | last
  · exact all call' result' before
  · cases List.mem_singleton.1 last
    exact new

/-- A write fails only when the far end is closed. -/
theorem closed_of_write (wired : e.link.Wired) {bytes : List UInt8} {fault : Transport.Fault}
    (failed : (e.link.write .far bytes).1 = .error fault) :
    e.link.far.isOpen = false ∧ fault = .closed := by
  cases isOpen : e.link.far.isOpen with
  | true =>
    rw [wired.write isOpen] at failed
    cases failed
  | false =>
    rw [wired.write_closed isOpen] at failed
    cases failed
    exact ⟨rfl, rfl⟩

/-- A write succeeds only when the far end is open, and then whole. -/
theorem open_of_write (wired : e.link.Wired) {bytes : List UInt8} {n : Nat} {link : Link}
    (put : e.link.write .far bytes = (.ok n, link)) :
    e.link.far.isOpen = true ∧ n = bytes.length ∧ link = e.link.carrying bytes := by
  cases isOpen : e.link.far.isOpen with
  | true =>
    rw [wired.write isOpen] at put
    cases put
    exact ⟨rfl, rfl, rfl⟩
  | false =>
    rw [wired.write_closed isOpen] at put
    cases put

theorem Sound.step (sound : e.Sound sizes) (step : Step sizes e e') : e'.Sound sizes := by
  obtain ⟨wired, locked, writers, returned⟩ := sound
  cases step with
  | @refuses w call fault idle refused =>
    have large : Outcome sizes (e.link.far.isOpen = false) call (.error fault) := by
      rw [call.encode_eq] at refused
      split at refused
      · next large =>
        cases refused
        exact .inl ⟨large, rfl⟩
      · cases refused
    exact ⟨wired, locked.set (by rw [idle]), writers_set writers trivial,
      outcomes_snoc returned large⟩
  | @asks w call bytes idle encoded fits =>
    have waits : (Writer.waiting call bytes).Sound sizes := by
      rw [call.encode_eq] at encoded
      split at encoded
      · cases encoded
      · next small =>
        cases encoded
        exact ⟨⟨⟨Nat.not_lt.1 small, call.length_body⟩, fits⟩, rfl⟩
    exact ⟨wired, locked.set (by rw [idle]; rfl), writers_set writers waits, returned⟩
  | @turnsAway w call bytes fault waiting failed =>
    obtain ⟨closed, rfl⟩ := closed_of_write wired failed
    have waits := writers w
    rw [waiting] at waits
    exact ⟨wired, locked.set (by rw [waiting]; rfl), writers_set writers trivial,
      outcomes_snoc returned (.inr ⟨waits.1, .inr ⟨closed, rfl⟩⟩)⟩
  | @locks w call bytes waiting free =>
    have waits := writers w
    rw [waiting] at waits
    obtain ⟨good, rfl⟩ := waits
    exact ⟨wired, locked.take free rfl, writers_set writers ⟨good, Nat.zero_le _, rfl⟩, returned⟩
  | @puts w written n taken call rest link writing positive most put =>
    obtain ⟨isOpen, rfl, rfl⟩ := open_of_write wired put
    have writes := writers w
    rw [writing] at writes
    exact ⟨wired.carrying isOpen _, locked.set (by rw [writing]; rfl),
      writers_set writers (writes.puts most), returned⟩
  | @breaksOff w written n call rest fault writing positive most failed =>
    obtain ⟨closed, rfl⟩ := closed_of_write wired failed
    have writes := writers w
    rw [writing] at writes
    exact ⟨wired, locked.release (by rw [writing]; rfl) rfl, writers_set writers trivial,
      outcomes_snoc returned (.inr ⟨writes.1, .inr ⟨closed, rfl⟩⟩)⟩
  | @returns w written call writing =>
    have writes := writers w
    rw [writing] at writes
    exact ⟨wired, locked.release (by rw [writing]; rfl) rfl, writers_set writers trivial,
      outcomes_snoc returned (.inr ⟨writes.1, .inl (congrArg _ writes.whole)⟩)⟩
  | scans step => exact ⟨wired.scan step, locked, writers, returned⟩
  | closes =>
    refine ⟨wired.close, locked, writers, fun call result member => ?_⟩
    refine (returned call result member).mono fun _ => ?_
    rw [wired.close_eq]
    rfl

/-! ### What is written -/

/-- What a step does to what is written and what is read. -/
inductive Change (sizes : CommandSizes) (e e' : Exchange) : Prop where
  | quiet (link : e'.link = e.link) (scanner : e'.scanner = e.scanner)
      (obtained : e'.obtained = e.obtained) (sent : e'.sent = e.sent)
      (begun : e.link.far.isOpen = true → e'.current.begun = e.current.begun)
  | grows {bytes : List UInt8} {more : List Sending} (isOpen : e.link.far.isOpen = true)
      (link : e'.link = e.link.carrying bytes) (scanner : e'.scanner = e.scanner)
      (obtained : e'.obtained = e.obtained) (sent : e'.sent = e.sent ++ more)
      (begun : Sending.framesOf more ++ e'.current.begun = e.current.begun ++ bytes)
  | scans {c : Scan.Cycle} (step : e.scanner.step sizes e.link.near = some c)
      (link : e'.link = { e.link with near := c.transport }) (scanner : e'.scanner = c.scanner)
      (obtained : e'.obtained = e.obtained ++ [c.result]) (sent : e'.sent = e.sent)
      (begun : e'.current.begun = e.current.begun)
  | closes (link : e'.link = e.link.close .far) (scanner : e'.scanner = e.scanner)
      (obtained : e'.obtained = e.obtained) (sent : e'.sent = e.sent)

theorem current_back {w : Nat} {call : Sending} {result : Except Wire.Fault Nat} (locked : e.Locked)
    (other : (e.writers w).isWriting = false) : (e.back w call result).current = e.current :=
  locked.current_set other

theorem succeeded_back_error (e : Exchange) (w : Nat) (call : Sending) (fault : Wire.Fault) :
    (e.back w call (.error fault)).succeeded = e.succeeded := by
  simp [succeeded, back, Exchange.set, Except.isOk, Except.toBool]

theorem succeeded_back_ok (e : Exchange) (w : Nat) (call : Sending) (n : Nat) :
    (e.back w call (.ok n)).succeeded = e.succeeded ++ [call] := by
  simp [succeeded, back, Exchange.set, Except.isOk, Except.toBool]

theorem Step.change (sound : e.Sound sizes) (step : Step sizes e e') : Change sizes e e' := by
  have locked := sound.locked
  cases step with
  | @refuses w call fault idle refused =>
    have same : (e.back w call (.error fault)).current = e.current :=
      current_back locked (by rw [idle]; rfl)
    refine .quiet rfl rfl rfl ?_ fun _ => by rw [same]
    rw [sent, sent, same, succeeded_back_error]
  | @asks w call bytes idle encoded fits =>
    have same : (e.set w (.waiting call bytes)).current = e.current :=
      locked.current_set (by rw [idle]; rfl)
    refine .quiet rfl rfl rfl ?_ fun _ => by rw [same]
    rw [sent, sent, same]
    rfl
  | @turnsAway w call bytes fault waiting failed =>
    have same : (e.back w call (.error (.ofTransport fault))).current = e.current :=
      current_back locked (by rw [waiting]; rfl)
    refine .quiet rfl rfl rfl ?_ fun _ => by rw [same]
    rw [sent, sent, same, succeeded_back_error]
  | @locks w call bytes waiting free =>
    have waits := sound.writers w
    rw [waiting] at waits
    obtain ⟨-, rfl⟩ := waits
    have before : e.current = .idle := by rw [current, free]
    have after : Exchange.current
        { e.set w (.writing call 0 call.request.bytes) with holder := some w } =
        .writing call 0 call.request.bytes := Function.update_self ..
    refine .quiet rfl rfl rfl ?_ fun _ => ?_
    · rw [sent, sent, before, after, Writer.complete?_of_ne_nil call.bytes_ne_nil]
      rfl
    · rw [before, after, Writer.begun_of_ne_nil call.bytes_ne_nil]
      rfl
  | @puts w written n taken call rest link writing positive most put =>
    obtain ⟨isOpen, rfl, rfl⟩ := open_of_write sound.wired put
    have writes := sound.writers w
    rw [writing] at writes
    have holds : (e.writers w).isWriting = true := by rw [writing]; rfl
    have before : e.current = .writing call written rest := (locked.current_eq holds).trans writing
    have more : rest ≠ [] := List.ne_nil_of_length_pos (Nat.lt_of_lt_of_le positive most)
    let next : Writer := .writing call (written + (rest.take n).length) (rest.drop n)
    have after : (e.set w next).current = next := by
      simp [current, Exchange.set, (locked w).2 holds]
    refine @Change.grows sizes e _ _ next.complete?.toList isOpen rfl rfl rfl ?_ ?_
    · rw [sent, sent, before, Writer.complete?_of_ne_nil more]
      exact congrArg₂ (· ++ ·) (List.append_nil _).symm (congrArg (·.complete?.toList) after)
    · rw [before, Writer.begun_of_ne_nil more, ← writes.frames_puts most]
      exact congrArg (_ ++ ·.begun) after
  | @breaksOff w written n call rest fault writing positive most failed =>
    obtain ⟨closed, rfl⟩ := closed_of_write sound.wired failed
    have before : e.current = .writing call written rest :=
      (locked.current_eq (by rw [writing]; rfl)).trans writing
    have more : rest ≠ [] := List.ne_nil_of_length_pos (Nat.lt_of_lt_of_le positive most)
    refine .quiet rfl rfl rfl ?_ fun isOpen => ?_
    · rw [sent, sent, before, Writer.complete?_of_ne_nil more]
      exact congrArg (· ++ []) (succeeded_back_error e w call _)
    · rw [closed] at isOpen
      cases isOpen
  | @returns w written call writing =>
    have before : e.current = .writing call written [] :=
      (locked.current_eq (by rw [writing]; rfl)).trans writing
    refine .quiet rfl rfl rfl ?_ fun _ => by rw [before]; rfl
    rw [sent, sent, before]
    exact (List.append_nil _).trans (succeeded_back_ok e w call written)
  | scans step => exact .scans step rfl rfl rfl rfl rfl
  | closes => exact .closes rfl rfl rfl rfl

/-! ### What is read -/

theorem Sound.current (sound : e.Sound sizes) : e.current.Sound sizes := by
  unfold Exchange.current
  split
  · next w _ => exact sound.writers w
  · trivial

/-- Only frames of calls that were not refused are written. -/
theorem Sound.good (sound : e.Sound sizes) : ∀ call ∈ e.sent, call.Good sizes := by
  intro call member
  rcases List.mem_append.1 member with done | last
  · obtain ⟨⟨call', result⟩, back, told⟩ := List.mem_filterMap.1 done
    cases result with
    | error fault => cases told
    | ok n =>
      cases told
      rcases sound.returned call (.ok n) back with ⟨-, refused⟩ | ⟨good, -⟩
      · cases refused
      · exact good
  · exact sound.current.good (Option.mem_toList.1 last)

/-- What the host has got of what was written: the events of some calls, those of others being
ahead of it with the beginning of a frame behind them, and some errors. -/
structure Told (sizes : CommandSizes) (e : Exchange) (seen ahead : List Sending)
    (left part : List UInt8) (errors : Nat) : Prop where
  sent : e.sent = seen ++ ahead
  wire : e.link.far.sent = Sending.framesOf e.sent ++ part
  feed : e.link.near.feed.bytes = Sending.framesOf ahead ++ left
  torn : Torn sizes part ∧ Torn sizes left
  begun : e.link.far.isOpen = true → part = e.current.begun ∧ left = e.current.begun
  obtained : e.obtained = seen.map (fun call => .ok (call.event sizes)) ++
    List.replicate errors (.error .connectionClosed)
  atEnd : 0 < errors → e.link.far.isOpen = false ∧ ahead = []
  stats : e.scanner.stats = Sending.statsOf sizes seen

variable {seen ahead : List Sending} {left part : List UInt8} {errors : Nat} {c : Scan.Cycle}

/-- A cycle takes the first of the frames that are ahead. -/
theorem Told.scan_frame {first : Sending}
    (told : Told sizes e seen (first :: ahead) left part errors)
    (sound : e.Sound sizes) (step : e.scanner.step sizes e.link.near = some c)
    (link : e'.link = { e.link with near := c.transport }) (scanner : e'.scanner = c.scanner)
    (obtained : e'.obtained = e.obtained ++ [c.result]) (sent : e'.sent = e.sent)
    (begun : e'.current.begun = e.current.begun) :
    Told sizes e' (seen ++ [first]) ahead left part 0 := by
  have none : errors = 0 := Nat.eq_zero_of_not_pos fun some => by cases (told.atEnd some).2
  subst none
  have good : first.Good sizes := sound.good first (by simp [told.sent])
  obtain ⟨result, count, rest⟩ := sound.wired.scan_piece good.piece
    (told.feed.trans (List.append_assoc ..)) step
  constructor
  · rw [sent, told.sent, List.append_assoc]
    rfl
  · rw [link, told.wire, sent]
  · rw [link]
    exact rest
  · exact told.torn
  · rw [link, begun]
    exact told.begun
  · rw [obtained, told.obtained, result]
    simp
  · exact fun some => absurd some (Nat.lt_irrefl 0)
  · rw [scanner, count, told.stats, Sending.statsOf_snoc]

/-- A cycle that finds no frame ahead can only be told that the end is closed. -/
theorem Told.scan_end (told : Told sizes e seen [] left part errors) (sound : e.Sound sizes)
    (step : e.scanner.step sizes e.link.near = some c)
    (link : e'.link = { e.link with near := c.transport }) (scanner : e'.scanner = c.scanner)
    (obtained : e'.obtained = e.obtained ++ [c.result]) (sent : e'.sent = e.sent) :
    Told sizes e' seen [] [] part (errors + 1) := by
  obtain ⟨state, unfinished⟩ := told.torn.2.unfinished
  obtain ⟨closed, result, count, rest⟩ := sound.wired.scan_unfinished unfinished told.feed step
  constructor
  · rw [sent, told.sent]
  · rw [link, told.wire, sent]
  · rw [link]
    exact rest
  · exact ⟨told.torn.1, .inl rfl⟩
  · rw [link, closed]
    exact nofun
  · rw [obtained, told.obtained, result, List.append_assoc, List.replicate_succ']
  · rw [link]
    exact fun _ => ⟨closed, rfl⟩
  · rw [scanner, count, told.stats]

/-- What is written comes behind all that is ahead. -/
theorem Told.grow {more : List Sending} {bytes : List UInt8}
    (told : Told sizes e seen ahead left part errors) (sound : e'.Sound sizes)
    (isOpen : e.link.far.isOpen = true) (link : e'.link = e.link.carrying bytes)
    (scanner : e'.scanner = e.scanner) (obtained : e'.obtained = e.obtained)
    (sent : e'.sent = e.sent ++ more)
    (begun : Sending.framesOf more ++ e'.current.begun = e.current.begun ++ bytes) :
    Told sizes e' seen (ahead ++ more) e'.current.begun e'.current.begun errors := by
  obtain ⟨rfl, rfl⟩ := told.begun isOpen
  have torn := sound.current.torn
  constructor
  · rw [sent, told.sent, List.append_assoc]
  · rw [link, sent, Sending.framesOf_append, List.append_assoc, begun, ← List.append_assoc,
      ← told.wire]
    rfl
  · rw [link, Sending.framesOf_append, List.append_assoc, begun, ← List.append_assoc, ← told.feed]
    exact Feed.bytes_snoc _ bytes
  · exact ⟨torn, torn⟩
  · exact fun _ => ⟨rfl, rfl⟩
  · rw [obtained, told.obtained]
  · intro some
    rw [(told.atEnd some).1] at isOpen
    cases isOpen
  · rw [scanner, told.stats]

theorem Told.close (told : Told sizes e seen ahead left part errors) (sound : e.Sound sizes)
    (link : e'.link = e.link.close .far) (scanner : e'.scanner = e.scanner)
    (obtained : e'.obtained = e.obtained) (sent : e'.sent = e.sent) :
    Told sizes e' seen ahead left part errors := by
  have closing := sound.wired.close_eq
  constructor
  · rw [sent, told.sent]
  · rw [link, closing, sent, ← told.wire]
    rfl
  · rw [link, closing, ← told.feed]
    rfl
  · exact told.torn
  · rw [link, closing]
    exact nofun
  · rw [obtained, told.obtained]
  · rw [link, closing]
    exact fun some => ⟨rfl, (told.atEnd some).2⟩
  · rw [scanner, told.stats]

theorem Told.quiet (told : Told sizes e seen ahead left part errors) (link : e'.link = e.link)
    (scanner : e'.scanner = e.scanner) (obtained : e'.obtained = e.obtained)
    (sent : e'.sent = e.sent)
    (begun : e.link.far.isOpen = true → e'.current.begun = e.current.begun) :
    Told sizes e' seen ahead left part errors := by
  constructor
  · rw [sent, told.sent]
  · rw [link, told.wire, sent]
  · rw [link, told.feed]
  · exact told.torn
  · rw [link]
    exact fun isOpen => begun isOpen ▸ told.begun isOpen
  · rw [obtained, told.obtained]
  · rw [link]
    exact told.atEnd
  · rw [scanner, told.stats]

theorem Told.step (told : Told sizes e seen ahead left part errors) (sound : e.Sound sizes)
    (sound' : e'.Sound sizes) (change : Change sizes e e') :
    ∃ seen ahead left part errors, Told sizes e' seen ahead left part errors := by
  cases change with
  | quiet link scanner obtained sent begun =>
    exact ⟨_, _, _, _, _, told.quiet link scanner obtained sent begun⟩
  | grows isOpen link scanner obtained sent begun =>
    exact ⟨_, _, _, _, _, told.grow sound' isOpen link scanner obtained sent begun⟩
  | scans step link scanner obtained sent begun =>
    cases ahead with
    | cons => exact ⟨_, _, _, _, _, told.scan_frame sound step link scanner obtained sent begun⟩
    | nil => exact ⟨_, _, _, _, _, told.scan_end sound step link scanner obtained sent⟩
  | closes link scanner obtained sent =>
    exact ⟨_, _, _, _, _, told.close sound link scanner obtained sent⟩

/-- What the host's cycles come to from here on. -/
theorem Told.cycles (told : Told sizes e seen ahead left part errors) (sound : e.Sound sizes) :
    (e.scanner.cycles sizes e.link.near).map (·.result) =
      ahead.map (fun call => .ok (call.event sizes)) ++
        if e.link.far.isOpen then [] else [.error .connectionClosed] := by
  obtain ⟨state, unfinished⟩ := told.torn.2.unfinished
  let g : Scan.Cut := ⟨ahead.map fun call => ([], call.request.bytes), [], left⟩
  have fits : g.Fits sizes (ahead.map (·.event sizes)) state := by
    refine ⟨?_, Scan.noise_nil, unfinished⟩
    rw [List.forall₂_map_left_iff, List.forall₂_map_right_iff, List.forall₂_same]
    intro call member
    have good := sound.good call (told.sent ▸ List.mem_append_right seen member)
    exact ⟨Scan.noise_nil, good.piece⟩
  have split : e.link.near.feed.bytes = g.bytes := by
    rw [told.feed]
    simp [g, Scan.Cut.bytes, Scan.Cut.join, Sending.framesOf, List.flatMap_map]
  have events : (ahead.map (·.event sizes)).map Except.ok =
      ahead.map fun call => (.ok (call.event sizes) : Except Wire.Fault Scan.Event) := by simp
  cases isOpen : e.link.far.isOpen with
  | true =>
    obtain ⟨-, flowing, live⟩ := sound.wired.isOpen isOpen
    rw [Scan.cycles_of_flowing flowing live fits split, events]
    exact (List.append_nil _).symm
  | false =>
    have steady := sound.wired.closed isOpen
    rw [(steady.cycles sizes e.scanner).1, split, (Scan.cycles_of_fits fits e.scanner).1, events]
    rfl

theorem sound_of_steps (reached : Steps sizes {} e) : e.Sound sizes := by
  induction reached with
  | refl => exact ⟨Link.wired_pair, fun _ => ⟨nofun, nofun⟩, fun _ => trivial, by simp⟩
  | tail _ step ih => exact ih.step step

theorem told_of_steps (reached : Steps sizes {} e) :
    ∃ seen ahead left part errors, Told sizes e seen ahead left part errors := by
  induction reached with
  | refl =>
    refine ⟨[], [], [], [], 0, ?_⟩
    constructor
    · rfl
    · rfl
    · rfl
    · exact ⟨.inl rfl, .inl rfl⟩
    · exact fun _ => ⟨rfl, rfl⟩
    · rfl
    · exact nofun
    · rfl
  | tail before step ih =>
    obtain ⟨seen, ahead, left, part, errors, told⟩ := ih
    have sound := sound_of_steps before
    exact told.step sound (sound.step step) (step.change sound)

/-- How an exchange stands when the host has obtained the events of some calls and some errors, with
the frames of other calls on the way. -/
structure InOrder (sizes : CommandSizes) (e : Exchange) (seen ahead : List Sending) (errors : Nat) :
    Prop where
  /-- the host has the first of the frames that were written, in the order of writing -/
  sent : e.sent = seen ++ ahead
  obtained : e.obtained = seen.map (fun call => .ok (call.event sizes)) ++
    List.replicate errors (.error .connectionClosed)
  /-- it is told of the end only when the other end is closed and nothing is left to obtain -/
  atEnd : 0 < errors → e.link.far.isOpen = false ∧ ahead = []
  /-- without another write it obtains just what is left, and then waits or finds the end -/
  next : (e.scanner.cycles sizes e.link.near).map (·.result) =
    ahead.map (fun call => .ok (call.event sizes)) ++
      if e.link.far.isOpen then [] else [.error .connectionClosed]
  /-- it counts frames and unknown commands, and nothing else -/
  stats : e.scanner.stats = Sending.statsOf sizes seen
  /-- nothing is on the wire but these frames and the beginning of one more -/
  wire : ∃ part, e.link.far.sent = Sending.framesOf e.sent ++ part ∧ Torn sizes part
  /-- a call comes back refused for its size, or with its frame written, or with the end closed -/
  returned : ∀ call result, (call, result) ∈ e.returned →
    if 255 < call.request.body.length then
      result = .error (.bodyTooLarge call.request.body.length 255)
    else result = .ok (6 + call.request.body.length) ∨
      (e.link.far.isOpen = false ∧ result = .error .connectionClosed)

/-- **Writers that share a link do not disturb each other.** Whatever any number of writers and the
host have done so far, what the host has obtained are the events of the first of the frames written,
in the order of writing, and of the others it obtains the events when it goes on. Nothing is skipped
and nothing discarded but frames of unknown commands, and a call whose body is too large leaves
nothing on the wire. -/
theorem frames_keep_order (reached : Steps sizes {} e) :
    ∃ seen ahead errors, InOrder sizes e seen ahead errors := by
  have sound := sound_of_steps reached
  obtain ⟨seen, ahead, left, part, errors, told⟩ := told_of_steps reached
  refine ⟨seen, ahead, errors, told.sent, told.obtained, told.atEnd, told.cycles sound, told.stats,
    ⟨part, told.wire, told.torn.1⟩, fun call result back => ?_⟩
  rcases sound.returned call result back with ⟨large, refused⟩ | ⟨good, outcome⟩
  · have large' : 255 < call.request.body.length := large
    rw [if_pos large']
    exact refused
  · have small : ¬255 < call.request.body.length := Nat.not_lt.2 good.accepted.1
    rw [if_neg small]
    exact outcome

/-- Two writers ask, and a third call is refused while the frame of the second, which the host does
not know, is half on the wire. The end is closed in the middle of the frame of the first. -/
theorem frames_keep_order_of_interrupted_writer :
    let sizes : CommandSizes := fun command => if command = 0x30 then some 2 else none
    let known : Sending := .raw 0x30 [Wire.marker, Wire.marker]
    let unknown : Sending := .raw 0x99 [Wire.marker, 1, 2]
    let large : Sending := .raw 0x30 (List.replicate 256 0)
    ∃ e, Steps sizes {} e ∧
      e.returned = [(large, .error (.bodyTooLarge 256 255)), (unknown, .ok 9),
        (known, .error .connectionClosed)] ∧
      e.obtained = [.ok (.discarded (.unknownCommand 0x99 3))] ∧
      ∃ seen ahead errors, InOrder sizes e seen ahead errors := by
  intro sizes known unknown large
  let e₁ := ({} : Exchange).set 0 (.waiting known known.request.bytes)
  let e₂ := e₁.set 1 (.waiting unknown unknown.request.bytes)
  let e₃ := { e₂.set 1 (.writing unknown 0 unknown.request.bytes) with holder := some 1 }
  let e₄ := { e₃.set 1 (.writing unknown 4 (unknown.request.bytes.drop 4)) with
    link := e₃.link.carrying (unknown.request.bytes.take 4) }
  let e₅ := e₄.back 2 large (.error (.bodyTooLarge 256 255))
  let e₆ := { e₅.set 1 (.writing unknown 9 []) with
    link := e₅.link.carrying (unknown.request.bytes.drop 4) }
  let e₇ := { e₆.back 1 unknown (.ok 9) with holder := none }
  let e₈ := { e₇.set 0 (.writing known 0 known.request.bytes) with holder := some 0 }
  let e₉ := { e₈.set 0 (.writing known 3 (known.request.bytes.drop 3)) with
    link := e₈.link.carrying (known.request.bytes.take 3) }
  let e₁₀ := { e₉ with link := e₉.link.close .far }
  let e₁₁ := { e₁₀.back 0 known (.error .connectionClosed) with holder := none }
  have encoded : known.encode = .ok known.request.bytes := known.encode_eq
  have encoded' : unknown.encode = .ok unknown.request.bytes := unknown.encode_eq
  have refused : large.encode = .error (.bodyTooLarge 256 255) := by decide +kernel
  have reached₁ : Steps sizes {} e₁ := .single (.asks rfl encoded (.inr rfl))
  have reached₂ : Steps sizes {} e₂ := reached₁.tail (.asks rfl encoded' (.inl rfl))
  have reached₃ : Steps sizes {} e₃ := reached₂.tail (.locks rfl rfl)
  have reached₄ : Steps sizes {} e₄ :=
    reached₃.tail (@Step.puts sizes e₃ 1 0 4 4 unknown _ _ rfl (by decide) (by decide) rfl)
  have reached₅ : Steps sizes {} e₅ := reached₄.tail (.refuses rfl refused)
  have reached₆ : Steps sizes {} e₆ :=
    reached₅.tail (@Step.puts sizes e₅ 1 4 5 5 unknown _ _ rfl (by decide) (by decide) rfl)
  have reached₇ : Steps sizes {} e₇ := reached₆.tail (.returns rfl)
  have reached₈ : Steps sizes {} e₈ := reached₇.tail (.locks rfl rfl)
  have reached₉ : Steps sizes {} e₉ :=
    reached₈.tail (@Step.puts sizes e₈ 0 0 3 3 known _ _ rfl (by decide) (by decide) rfl)
  have reached₁₀ : Steps sizes {} e₁₀ := reached₉.tail .closes
  have reached₁₁ : Steps sizes {} e₁₁ :=
    reached₁₀.tail
      (@Step.breaksOff sizes e₁₀ 0 3 1 known _ .closed rfl (by decide) (by decide) rfl)
  -- The host has not read yet; it finds the whole frame and three bytes of the other.
  have good : unknown.Good sizes := ⟨⟨by decide, rfl⟩, .inl rfl⟩
  have ahead : e₁₁.link.near.feed.bytes = unknown.request.bytes ++ known.request.bytes.take 3 := rfl
  have more : e₁₁.link.near.feed.bytes ≠ [] := nofun
  have flowing := (sound_of_steps reached₁₁).wired.flowing more
  obtain ⟨t, step, -, -⟩ :=
    Scan.step_of_piece_flowing e₁₁.scanner flowing Scan.noise_nil good.piece ahead
  have reached := reached₁₁.tail (.scans step)
  exact ⟨_, reached, rfl, rfl, frames_keep_order reached⟩

end Exchange

end SerialLink
