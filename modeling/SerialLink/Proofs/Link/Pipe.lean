import SerialLink.Proofs.Scan.Flowing
import SerialLink.Transport.Link

/-!
# The two ends of a stream

A stream carries bytes both ways, and each of its ends may be closed. What a call at an end comes to
is told by the calls before it alone: by what the other end has written and this one has taken, and
by which ends were closed (`Link.Governed`). `Link.Runs` has the calls of both ends one at a time;
between them, what is on the way may come in any portions. One call keeps what is known of a link
(`Link.Known.write`, `.read`, `.close`, `.recut`), so a run does (`Link.known_of_runs`).
-/

namespace SerialLink.Link

/-! ## Histories -/

@[simp] theorem endpoint_update_self (l : Link) (e : End) (f : Transport → Transport) :
    (l.update e f).endpoint e = f (l.endpoint e) := by
  cases e <;> rfl

@[simp] theorem endpoint_update_other (l : Link) (e : End) (f : Transport → Transport) :
    (l.update e f).endpoint e.other = l.endpoint e.other := by
  cases e <;> rfl

@[simp] theorem endpoint_other_update (l : Link) (e : End) (f : Transport → Transport) :
    (l.update e.other f).endpoint e = l.endpoint e := by
  cases e <;> rfl

@[simp] theorem End.other_other (e : End) : e.other.other = e := by
  cases e <;> rfl

@[simp] theorem update_feed_self (l : Link) (e : End) :
    l.update e ({ · with feed := (l.endpoint e).feed }) = l := by
  cases e <;> rfl

theorem update_const (l : Link) (e : End) (f : Transport → Transport) :
    l.update e (fun _ => f (l.endpoint e)) = l.update e f := by
  cases e <;> rfl

/-- A place is an end or the other one. -/
theorem End.eq_or_other (e place : End) : place = e ∨ place = e.other := by
  cases e <;> cases place <;> decide

theorem End.other_ne (e : End) : e.other ≠ e := by
  cases e <;> decide

/-- What is on the way to an end. -/
def queue (l : Link) (e : End) : List UInt8 :=
  (l.endpoint e).feed.bytes

/-- A call at an end, with what it came back with. -/
inductive Called where
  | write (bytes : List UInt8) (result : Except Transport.Fault Nat)
  /-- `taken` is no longer on the way, whether the read gave it or failed -/
  | read (n : Nat) (result : Except Transport.Fault (List UInt8)) (taken : List UInt8)
  | close

namespace Called

/-- The bytes that a call has written. -/
def written : Called → List UInt8
  | write bytes (.ok _) => bytes
  | _ => []

/-- The bytes that a call has taken. -/
def taken : Called → List UInt8
  | read _ _ taken => taken
  | _ => []

/-- The call closes its end. -/
def closes : Called → Bool
  | close => true
  | _ => false

end Called

/-- Calls at both ends, in order. -/
abbrev History :=
  List (End × Called)

namespace History

/-- The calls at one end. -/
def calls (h : History) (e : End) : List Called :=
  (h.filter (·.1 = e)).map Prod.snd

/-- The bytes that were written at an end. -/
def written (h : History) (e : End) : List UInt8 :=
  (h.calls e).flatMap Called.written

/-- The bytes that were taken at an end. -/
def taken (h : History) (e : End) : List UInt8 :=
  (h.calls e).flatMap Called.taken

/-- The end was closed. -/
def closed (h : History) (e : End) : Bool :=
  (h.calls e).any Called.closes

variable (h : History) (e : End) (c : Called)

theorem calls_snoc_self : calls (h ++ [(e, c)]) e = h.calls e ++ [c] := by
  simp [calls]

theorem calls_snoc_other : calls (h ++ [(e, c)]) e.other = h.calls e.other := by
  simp [calls, e.other_ne.symm]

@[simp] theorem written_snoc_self : written (h ++ [(e, c)]) e = h.written e ++ c.written := by
  simp [written, calls_snoc_self]

@[simp] theorem written_snoc_other : written (h ++ [(e, c)]) e.other = h.written e.other := by
  simp [written, calls_snoc_other]

@[simp] theorem taken_snoc_self : taken (h ++ [(e, c)]) e = h.taken e ++ c.taken := by
  simp [taken, calls_snoc_self]

@[simp] theorem taken_snoc_other : taken (h ++ [(e, c)]) e.other = h.taken e.other := by
  simp [taken, calls_snoc_other]

@[simp] theorem closed_snoc_self : closed (h ++ [(e, c)]) e = (h.closed e || c.closes) := by
  simp [closed, calls_snoc_self]

@[simp] theorem closed_snoc_other : closed (h ++ [(e, c)]) e.other = h.closed e.other := by
  simp [closed, calls_snoc_other]

end History

/-- What comes of a new stream by calls at its ends, of which every one has come back. -/
inductive Runs : History → Link → Prop where
  | start : Runs [] pair
  | write {h : History} {l l' : Link} {e : End} {bytes : List UInt8}
      {result : Except Transport.Fault Nat} (run : Runs h l)
      (back : l.write e bytes = (result, l')) :
      Runs (h ++ [(e, .write bytes result)]) l'
  | read {h : History} {l l' : Link} {e : End} {n : Nat} {taken : List UInt8}
      {result : Except Transport.Fault (List UInt8)} (run : Runs h l)
      (back : l.read e n = some (result, l')) (gone : l.queue e = taken ++ l'.queue e) :
      Runs (h ++ [(e, .read n result taken)]) l'
  | close {h : History} {l : Link} {e : End} (run : Runs h l) :
      Runs (h ++ [(e, .close)]) (l.close e)
  /-- what is on the way is cut into other portions, and calls are broken off -/
  | recut {h : History} {l : Link} {e : End} {feed : Feed} (run : Runs h l)
      (smooth : feed.Smooth) (same : feed.bytes = l.queue e) :
      Runs h (l.update e ({ · with feed := feed }))

/-! ## What is known of a link -/

/-- What a history tells of its link. -/
structure Known (h : History) (l : Link) : Prop where
  kind : ∀ e, (l.endpoint e).kind = .stream
  isOpen : ∀ e, (l.endpoint e).isOpen = !h.closed e
  /-- closing either end ends both directions -/
  live : ∀ e, (l.endpoint e).live = !(h.closed e || h.closed e.other)
  smooth : ∀ e, (l.endpoint e).feed.Smooth
  fifo : ∀ e, h.taken e ++ l.queue e = h.written e.other
  gave : ∀ e n bytes taken, (e, .read n (.ok bytes) taken) ∈ h → taken = bytes ∧ bytes.length = n

theorem known_pair : Known [] pair where
  kind e := by cases e <;> rfl
  isOpen e := by cases e <;> rfl
  live e := by cases e <;> rfl
  smooth e := by cases e <;> exact Feed.smooth_ofBytes []
  fifo e := by cases e <;> rfl
  gave := nofun

/-- The link with some bytes written at an end. -/
def sending (l : Link) (e : End) (bytes : List UInt8) : Link :=
  (l.update e fun t => { t with sent := t.sent ++ bytes }).update e.other (·.deliver bytes)

theorem queue_sending_other (l : Link) (e : End) (bytes : List UInt8) :
    (l.sending e bytes).queue e.other = l.queue e.other ++ bytes := by
  simp [sending, queue, Transport.deliver]

theorem queue_sending_self (l : Link) (e : End) (bytes : List UInt8) :
    (l.sending e bytes).queue e = l.queue e := by
  simp [sending, queue]

/-- Two links differ in nothing but what is on the way and what was sent. -/
structure SameEnds (l l' : Link) : Prop where
  kind : ∀ e, (l'.endpoint e).kind = (l.endpoint e).kind
  isOpen : ∀ e, (l'.endpoint e).isOpen = (l.endpoint e).isOpen
  live : ∀ e, (l'.endpoint e).live = (l.endpoint e).live

theorem SameEnds.refl (l : Link) : SameEnds l l :=
  ⟨fun _ => rfl, fun _ => rfl, fun _ => rfl⟩

theorem sameEnds_update (l : Link) (e : End) (feed : Feed) :
    SameEnds l (l.update e ({ · with feed := feed })) := by
  constructor <;> intro place <;> cases e <;> cases place <;> rfl

theorem sameEnds_sending (l : Link) (e : End) (bytes : List UInt8) :
    SameEnds l (l.sending e bytes) := by
  constructor <;> intro place <;> cases e <;> cases place <;> rfl

namespace Known

variable {h : History} {l l' : Link} {e : End} {n : Nat} {bytes : List UInt8}

/-! ### Calls -/

theorem write_refused (known : Known h l)
    (refused : h.closed e = true ∨ h.closed e.other = true ∧ bytes ≠ []) :
    l.write e bytes = (.error .closed, l) := by
  have fault : (l.endpoint e).writeFault bytes = some .closed := by
    rw [Transport.writeFault, known.kind, known.isOpen, known.live]
    rcases refused with closed | ⟨closed, some⟩
    · simp [closed]
    · simp [closed, some]
  simp [Link.write, Transport.writeAll, fault]

theorem write_accepted (known : Known h l) (isOpen : h.closed e = false)
    (reaches : h.closed e.other = false ∨ bytes = []) :
    l.write e bytes = (.ok bytes.length, l.sending e bytes) := by
  have free : (l.endpoint e).writeFault bytes = none := by
    rw [Transport.writeFault, known.kind, known.isOpen, known.live]
    rcases reaches with isOpen' | none
    · simp [isOpen, isOpen']
    · simp [isOpen, none]
  simp only [Link.write, Transport.writeAll, free, sending]
  cases e <;> rfl

theorem read_zero (l : Link) (e : End) : l.read e 0 = some (.ok [], l) := by
  cases e <;> rfl

theorem read_closed (known : Known h l) (closed : h.closed e = true) (some : 0 < n) :
    l.read e n = Option.some (.error .closed, l) := by
  have shut : (l.endpoint e).isOpen = false := by rw [known.isOpen, closed]; rfl
  rw [Link.read, Transport.readExact, if_neg (Nat.ne_of_gt some), shut]
  cases e <;> rfl

/-- A read at an open end looks at what is on the way to it. -/
theorem read_eq_fill (known : Known h l) (isOpen : h.closed e = false) (some : 0 < n) :
    l.read e n =
      (Transport.fill .stream (!h.closed e.other) n true (l.endpoint e).feed).map fun i =>
        (i.result, l.update e ({ · with isOpen := i.isOpen, feed := i.feed })) := by
  have up : (l.endpoint e).isOpen = true := by rw [known.isOpen, isOpen]; rfl
  have live : (l.endpoint e).live = !h.closed e.other := by rw [known.live, isOpen, Bool.false_or]
  rw [← known.kind e, ← live, Link.read, Transport.readExact, if_neg (Nat.ne_of_gt some), if_pos up,
    Option.map_map]
  congr 1
  funext i
  exact congrArg (Prod.mk i.result)
    (l.update_const e ({ · with isOpen := i.isOpen, feed := i.feed }))

/-- What a read leaves of an open end that stays open. -/
theorem update_feed (known : Known h l) (isOpen : h.closed e = false) (feed : Feed) :
    l.update e ({ · with isOpen := true, feed := feed }) = l.update e ({ · with feed := feed }) := by
  have up : (l.endpoint e).isOpen = true := by rw [known.isOpen, isOpen]; rfl
  rw [← l.update_const e ({ · with isOpen := true, feed := feed }),
    ← l.update_const e ({ · with feed := feed }), up]

theorem read_enough (known : Known h l) (isOpen : h.closed e = false)
    (enough : n ≤ (l.queue e).length) :
    ∃ feed : Feed, feed.Smooth ∧ feed.bytes = (l.queue e).drop n ∧
      l.read e n = some (.ok ((l.queue e).take n), l.update e ({ · with feed := feed })) := by
  rcases Nat.eq_zero_or_pos n with rfl | some
  · refine ⟨(l.endpoint e).feed, known.smooth e, rfl, ?_⟩
    rw [read_zero]
    cases e <;> rfl
  · obtain ⟨rest, filled, smooth, left⟩ := Transport.fill_of_enough (known.smooth e) some enough
    refine ⟨rest, smooth, left, ?_⟩
    rw [known.read_eq_fill isOpen some, filled, Option.map_some, known.update_feed isOpen rest]
    rfl

theorem read_short (known : Known h l) (isOpen : h.closed e = false)
    (short : (l.queue e).length < n) :
    l.read e n =
      if h.closed e.other then some (.error .closed, l.update e ({ · with feed := [] })) else none := by
  rw [known.read_eq_fill isOpen (Nat.zero_lt_of_lt short),
    Transport.fill_of_short (known.smooth e) short, ← known.update_feed isOpen []]
  cases h.closed e.other <;> rfl

/-! ### What a call keeps -/

theorem smooth_update (known : Known h l) {feed : Feed} (smooth : feed.Smooth) (place : End) :
    ((l.update e ({ · with feed := feed })).endpoint place).feed.Smooth := by
  rcases e.eq_or_other place with rfl | rfl
  · simpa using smooth
  · simpa using known.smooth e.other

theorem endpoint_close (known : Known h l) (place : End) :
    (l.close e).endpoint place =
      if place = e then (l.endpoint e).close.hangUp else (l.endpoint place).hangUp := by
  have kind : l.near.kind = .stream := known.kind .near
  simp only [Link.close, kind]
  cases e <;> cases place <;> rfl

/-- What keeps the ends and who is closed keeps what is known of them. -/
theorem of_sameEnds {h' : History} (known : Known h l) (same : SameEnds l l')
    (closed : ∀ place, h'.closed place = h.closed place)
    (smooth : ∀ place, (l'.endpoint place).feed.Smooth)
    (fifo : ∀ place, h'.taken place ++ l'.queue place = h'.written place.other)
    (gave : ∀ place n bytes taken,
      (place, .read n (.ok bytes) taken) ∈ h' → taken = bytes ∧ bytes.length = n) :
    Known h' l' where
  kind place := by rw [same.kind, known.kind]
  isOpen place := by rw [same.isOpen, known.isOpen, closed]
  live place := by rw [same.live, known.live, closed, closed]
  smooth := smooth
  fifo := fifo
  gave := gave

/-- A call that closes nothing keeps the ends. -/
theorem snoc (known : Known h l) {c : Called} (goesOn : c.closes = false) (same : SameEnds l l')
    (smooth : ∀ place, (l'.endpoint place).feed.Smooth)
    (here : h.taken e ++ c.taken ++ l'.queue e = h.written e.other)
    (there : h.taken e.other ++ l'.queue e.other = h.written e ++ c.written)
    (gave : ∀ n bytes taken, c = .read n (.ok bytes) taken → taken = bytes ∧ bytes.length = n) :
    Known (h ++ [(e, c)]) l' := by
  refine known.of_sameEnds same (fun place => ?_) smooth (fun place => ?_) ?_
  · rcases e.eq_or_other place with rfl | rfl
    · rw [History.closed_snoc_self, goesOn, Bool.or_false]
    · rw [History.closed_snoc_other]
  · rcases e.eq_or_other place with rfl | rfl
    · rw [History.taken_snoc_self, History.written_snoc_other, here]
    · rw [History.taken_snoc_other, End.other_other, History.written_snoc_self, there]
  · intro place n bytes taken member
    rcases List.mem_append.1 member with before | now
    · exact known.gave place n bytes taken before
    · cases List.mem_singleton.1 now
      exact gave n bytes taken rfl

theorem write (known : Known h l) {result : Except Transport.Fault Nat}
    (back : l.write e bytes = (result, l')) : Known (h ++ [(e, .write bytes result)]) l' := by
  by_cases refused : h.closed e = true ∨ h.closed e.other = true ∧ bytes ≠ []
  · rw [known.write_refused refused] at back
    cases back
    refine known.snoc rfl (.refl l) known.smooth ?_ ?_ nofun
    · simpa [Called.taken] using known.fifo e
    · simpa [Called.written] using known.fifo e.other
  · simp only [not_or, not_and, Bool.not_eq_true, ne_eq, not_not] at refused
    have reaches : h.closed e.other = false ∨ bytes = [] := by
      cases closed : h.closed e.other with
      | false => exact .inl rfl
      | true => exact .inr (refused.2 closed)
    rw [known.write_accepted refused.1 reaches] at back
    cases back
    refine known.snoc rfl (l.sameEnds_sending e bytes) (fun place => ?_) ?_ ?_ nofun
    · rcases e.eq_or_other place with rfl | rfl
      · simpa [sending] using known.smooth _
      · simpa [sending, Transport.deliver] using (known.smooth _).snoc bytes
    · simpa [Called.taken, queue_sending_self] using known.fifo e
    · rw [queue_sending_other, ← List.append_assoc, known.fifo, End.other_other]
      rfl

/-- Whatever a read comes to, it leaves a part of what was on the way, and what it gives stood in
front of that. -/
theorem read_inv (known : Known h l) {result : Except Transport.Fault (List UInt8)}
    (back : l.read e n = some (result, l')) :
    ∃ feed : Feed, feed.Smooth ∧ l' = l.update e ({ · with feed := feed }) ∧
      ∀ bytes, result = .ok bytes → l.queue e = bytes ++ feed.bytes ∧ bytes.length = n := by
  rcases Nat.eq_zero_or_pos n with rfl | some
  · rw [read_zero] at back
    cases back
    exact ⟨_, known.smooth e, (l.update_feed_self e).symm, by rintro _ ⟨⟩; exact ⟨rfl, rfl⟩⟩
  · -- Only a read at an open end takes anything: what it asked for, or all there was.
    cases closed : h.closed e with
    | true =>
      rw [known.read_closed closed some] at back
      cases back
      exact ⟨_, known.smooth e, (l.update_feed_self e).symm, nofun⟩
    | false =>
      rcases Nat.lt_or_ge (l.queue e).length n with short | enough
      · rw [known.read_short closed short] at back
        split at back
        · cases back
          exact ⟨[], Feed.smooth_ofBytes [], rfl, nofun⟩
        · cases back
      · obtain ⟨feed, smooth, left, read⟩ := known.read_enough closed enough
        rw [read] at back
        cases back
        refine ⟨feed, smooth, rfl, ?_⟩
        rintro _ ⟨⟩
        rw [left, List.take_append_drop]
        exact ⟨rfl, List.length_take_of_le enough⟩

theorem read (known : Known h l) {result : Except Transport.Fault (List UInt8)}
    {taken : List UInt8} (back : l.read e n = some (result, l'))
    (gone : l.queue e = taken ++ l'.queue e) : Known (h ++ [(e, .read n result taken)]) l' := by
  obtain ⟨feed, smooth, rfl, gives⟩ := known.read_inv back
  have left : (l.update e ({ · with feed := feed })).queue e = feed.bytes := by simp [queue]
  rw [left] at gone
  refine known.snoc rfl (l.sameEnds_update e feed) (known.smooth_update smooth) ?_ ?_ ?_
  · rw [left, List.append_assoc, Called.taken, ← gone, known.fifo]
  · simpa [Called.written, queue] using known.fifo e.other
  · rintro _ bytes _ ⟨⟩
    obtain ⟨given, size⟩ := gives bytes rfl
    exact ⟨List.append_cancel_right (gone.symm.trans given), size⟩

theorem close (known : Known h l) (e : End) : Known (h ++ [(e, .close)]) (l.close e) := by
  have feed (place : End) : ((l.close e).endpoint place).feed = (l.endpoint place).feed := by
    rw [known.endpoint_close]
    split
    · next same => rw [same]; rfl
    · rfl
  have queues (place : End) : (l.close e).queue place = l.queue place := congrArg Feed.bytes (feed place)
  refine ⟨fun place => ?_, fun place => ?_, fun place => ?_, fun place => ?_, fun place => ?_, ?_⟩
  · rw [known.endpoint_close]
    split
    · exact known.kind e
    · exact known.kind place
  · rw [known.endpoint_close]
    rcases e.eq_or_other place with rfl | rfl
    · simp [Called.closes, Transport.close, Transport.hangUp]
    · simp [Transport.hangUp, End.other_ne, known.isOpen]
  · rw [known.endpoint_close]
    rcases e.eq_or_other place with rfl | rfl
    · simp [Called.closes, Transport.close, Transport.hangUp]
    · simp [Called.closes, Transport.hangUp, End.other_ne]
  · rw [feed]
    exact known.smooth place
  · rw [queues]
    rcases e.eq_or_other place with rfl | rfl
    · simpa [Called.taken] using known.fifo _
    · simpa [Called.written] using known.fifo e.other
  · intro place n bytes taken member
    rcases List.mem_append.1 member with before | now
    · exact known.gave place n bytes taken before
    · cases List.mem_singleton.1 now

theorem recut (known : Known h l) {feed : Feed} (smooth : feed.Smooth)
    (same : feed.bytes = l.queue e) : Known h (l.update e ({ · with feed := feed })) := by
  refine known.of_sameEnds (l.sameEnds_update e feed) (fun _ => rfl) (known.smooth_update smooth)
    (fun place => ?_) known.gave
  rcases e.eq_or_other place with rfl | rfl
  · simpa [queue, same] using known.fifo place
  · simpa [queue] using known.fifo e.other

end Known

theorem known_of_runs {h : History} {l : Link} (run : Runs h l) : Known h l := by
  induction run with
  | start => exact known_pair
  | write _ back known => exact known.write back
  | read _ back gone known => exact known.read back gone
  | close _ known => exact known.close _
  | recut _ smooth same known => exact known.recut smooth same

/-- What has become of one end of a stream, and what its next call comes to, by the calls so far. -/
structure Governed (h : History) (l : Link) (e : End) : Prop where
  /-- what was taken here, with what is still on the way behind it, is what the other end wrote -/
  fifo : h.taken e ++ l.queue e = h.written e.other
  /-- of this, a read that succeeded gave what it took -/
  gave : ∀ n bytes taken, (e, .read n (.ok bytes) taken) ∈ h → taken = bytes ∧ bytes.length = n
  isOpen : (l.endpoint e).isOpen = !h.closed e
  /-- once either end is closed, a write does nothing, unless it is an empty one at the open end -/
  refuses : ∀ bytes, h.closed e = true ∨ h.closed e.other = true ∧ bytes ≠ [] →
    l.write e bytes = (.error .closed, l)
  /-- any other write sends all of its bytes on the way -/
  writes : ∀ bytes, h.closed e = false → h.closed e.other = false ∨ bytes = [] →
    ∃ l', l.write e bytes = (.ok bytes.length, l') ∧
      l'.queue e.other = l.queue e.other ++ bytes ∧ l'.queue e = l.queue e
  readsNone : l.read e 0 = some (.ok [], l)
  /-- a closed end takes nothing off the way -/
  readsClosed : ∀ n, 0 < n → h.closed e = true → l.read e n = some (.error .closed, l)
  /-- an open end gets what is on the way, also from an end that is closed by now -/
  reads : ∀ n, n ≤ (l.queue e).length → h.closed e = false →
    ∃ l', l.read e n = some (.ok ((l.queue e).take n), l') ∧
      l'.queue e = (l.queue e).drop n ∧ l'.queue e.other = l.queue e.other
  /-- it finds the end of the stream only behind all of this, and stays open itself -/
  readsEnd : ∀ n, (l.queue e).length < n → h.closed e = false → h.closed e.other = true →
    ∃ l', l.read e n = some (.error .closed, l') ∧
      l'.queue e = [] ∧ l'.queue e.other = l.queue e.other ∧ (l'.endpoint e).isOpen = true
  /-- a read waits as long as more is asked for than there is and more can come -/
  waits : ∀ n, (l.queue e).length < n → h.closed e = false → h.closed e.other = false →
    l.read e n = none

/-- **A stream carries bytes in order until either end is closed.** Whatever was done at both ends of
a stream, in calls that have all come back, and however what was on the way was cut: nothing is lost
between what one end wrote and what the other has taken and will take, and the next call of either
end is determined by the calls before it. -/
theorem pair_is_fifo {h : History} {l : Link} (run : Runs h l) (e : End) : Governed h l e := by
  have known := known_of_runs run
  have kept (feed : Feed) :
      (l.update e ({ · with feed := feed })).queue e = feed.bytes ∧
        (l.update e ({ · with feed := feed })).queue e.other = l.queue e.other := by
    simp [queue]
  refine ⟨known.fifo e, known.gave e, known.isOpen e, fun bytes => known.write_refused, ?_,
    Known.read_zero l e, fun n some closed => known.read_closed closed some, ?_, ?_, ?_⟩
  · intro bytes isOpen reaches
    exact ⟨_, known.write_accepted isOpen reaches, l.queue_sending_other e bytes,
      l.queue_sending_self e bytes⟩
  · intro n enough isOpen
    obtain ⟨feed, -, left, read⟩ := known.read_enough isOpen enough
    exact ⟨_, read, (kept feed).1.trans left, (kept feed).2⟩
  · intro n short isOpen closed
    have read := known.read_short isOpen short
    rw [closed, if_pos rfl] at read
    refine ⟨_, read, (kept []).1, (kept []).2, ?_⟩
    rw [endpoint_update_self, known.isOpen, isOpen]
    rfl
  · intro n short isOpen isOpen'
    rw [known.read_short isOpen short, isOpen', if_neg Bool.false_ne_true]

/-- Three bytes come in two portions, with a call broken off between them, and are taken by two
reads, of which the second asks for more than there is once the near end is closed. The byte that
was written at the far end before is not read any more. -/
theorem pair_is_fifo_of_cut_stream :
    let l₁ := (pair.write .near [1, 2, 3]).2
    let l₂ := l₁.update .far ({ · with feed := [.data [1], .interrupted, .data [2, 3]] })
    let l₃ := l₂.update .far ({ · with feed := [.data [3]] })
    let l₄ := (l₃.write .far [9]).2
    let l₅ := l₄.close .near
    let l₆ := l₅.update .far ({ · with feed := [] })
    let h : History :=
      [(.near, .write [1, 2, 3] (.ok 3)), (.far, .read 2 (.ok [1, 2]) [1, 2]),
        (.far, .write [9] (.ok 1)), (.near, .close), (.far, .read 5 (.error .closed) [3])]
    Runs h l₆ ∧ h.taken .far = h.written .near ∧ (l₆.endpoint .far).isOpen = true ∧
      l₆.write .far [7] = (.error .closed, l₆) ∧ l₆.queue .near = [9] ∧
      l₆.read .near 1 = some (.error .closed, l₆) := by
  intro l₁ l₂ l₃ l₄ l₅ l₆ h
  have run : Runs h l₆ := by
    refine .read (l := l₅) (.close (l := l₄) (.write (l := l₃) (.read (l := l₂)
      (.recut (l := l₁) (.write .start ?wrote) ?smooth ?same) ?read ?gone) ?wrote')) ?read' ?gone'
    case smooth => unfold Feed.Smooth; decide
    all_goals decide +kernel
  have far := pair_is_fifo run .far
  have near := pair_is_fifo run .near
  exact ⟨run, (List.append_nil _).symm.trans far.fifo, far.isOpen,
    far.refuses [7] (.inr ⟨rfl, nofun⟩), near.fifo, near.readsClosed 1 Nat.one_pos rfl⟩

end SerialLink.Link
