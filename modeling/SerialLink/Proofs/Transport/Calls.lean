import SerialLink.Proofs.Link.Pipe
import SerialLink.Proofs.Scan.CutShort

/-!
# Calls on a transport

What a transport is asked for and what that comes to, over any number of calls and whatever its feed
does meanwhile (`Transport.Runs`). Each read takes the bytes that come next, gives them or loses them,
and leaves the rest (`Transport.Exact`). Calls below that come back in vain show in nothing until the
owner closes the transport (`lockstep_undisturbed`), and closing is final (`unchanged_of_runs`). All
three kinds of transport keep this (`reads_are_exact`); they differ in what they make of the end of
their feed and of a write.
-/

namespace SerialLink

/-- The feed without the calls that come back in vain, up to the moment at which the owner closes the
transport. -/
def Feed.undisturbed : Feed → Feed
  | [] => []
  | .interrupted :: rest | .idle :: rest => undisturbed rest
  | .data bytes :: rest => .data bytes :: undisturbed rest
  | .failed cause :: rest => .failed cause :: undisturbed rest
  | .ended :: rest => .ended :: undisturbed rest
  | .closed :: rest => .closed :: rest

theorem Feed.bytes_undisturbed (feed : Feed) : feed.undisturbed.bytes = feed.bytes := by
  fun_induction undisturbed feed <;> simp_all [Feed.bytes, Feed.Event.bytes]

theorem Feed.undisturbed_cons (bytes : List UInt8) (feed : Feed) :
    (cons bytes feed).undisturbed = cons bytes feed.undisturbed := by
  by_cases none : bytes = []
  · rw [none, cons_nil, cons_nil]
  · rw [cons_of_ne_nil none, cons_of_ne_nil none, undisturbed]

namespace Transport

variable {kind : Kind} {live isOpen : Bool} {need n : Nat} {front rest feed : Feed} {i : Intake}
  {t t' u : Transport} {result : Except Fault (List UInt8)}

/-! ## Reads -/

/-- Bytes in front that are enough are all that a read looks at. -/
theorem fill_append_of_enough (smooth : front.Smooth) (wanted : 0 < need)
    (enough : need ≤ front.bytes.length) :
    ∃ left, fill kind live need true (front ++ rest) =
      some ⟨.ok (front.bytes.take need), true, left⟩ := by
  induction front generalizing need with
  | nil =>
    rw [Feed.bytes_nil, List.length_nil] at enough
    omega
  | cons e front ih =>
    have later : Feed.Smooth front := fun e member => smooth e (List.mem_cons_of_mem _ member)
    have smoothHead := smooth e List.mem_cons_self
    rw [List.cons_append]
    cases e with
    | data bytes =>
      rw [Feed.bytes_cons_data] at enough ⊢
      rcases Nat.lt_or_ge bytes.length need with less | whole
      · have behind : need - bytes.length ≤ (Feed.bytes front).length := by
          rw [List.length_append] at enough
          omega
        obtain ⟨left, filled⟩ := ih later (by omega) behind
        refine ⟨left, ?_⟩
        rw [fill_data_of_lt less, filled, List.take_append, List.take_of_length_le (Nat.le_of_lt less)]
        rfl
      · refine ⟨Feed.cons (bytes.drop need) (front ++ rest), ?_⟩
        rw [fill_data_of_le wanted whole, List.take_append_of_le_length whole]
    | interrupted | idle =>
      rw [fill, if_pos rfl]
      exact ih later wanted enough
    | failed | ended | closed => cases smoothHead

/-- Bytes in front that are not enough are used up, and the read goes on behind them. -/
theorem fill_append_of_short (smooth : front.Smooth) (short : front.bytes.length < need) :
    fill kind live need true (front ++ rest) =
      (fill kind live (need - front.bytes.length) true rest).map (Intake.after front.bytes) := by
  induction front generalizing need with
  | nil =>
    rw [Feed.bytes_nil, Intake.after_nil, Option.map_id]
    rfl
  | cons e front ih =>
    have later : Feed.Smooth front := fun e member => smooth e (List.mem_cons_of_mem _ member)
    have smoothHead := smooth e List.mem_cons_self
    rw [List.cons_append]
    cases e with
    | data bytes =>
      rw [Feed.bytes_cons_data, List.length_append] at short
      rw [fill_data_of_lt (by omega), ih later (by omega), Option.map_map, Feed.bytes_cons_data,
        List.length_append, Nat.sub_sub]
      congr 1
      funext i
      exact i.after_after bytes (Feed.bytes front)
    | interrupted | idle =>
      rw [fill, if_pos rfl]
      exact ih later short
    | failed | ended | closed => cases smoothHead

/-- A serial line on which a read finds the end is not open behind it, whether it hung up or its owner
has closed it. -/
theorem Fills.shut (fills : Fills .serial live need isOpen feed i) (ends : i.result = .error .closed) :
    i.isOpen = false := by
  induction fills with
  | dry | ended => exact Bool.and_false _
  | none _ ih | again _ _ ih | closed _ ih => exact ih ends
  | enough => cases ends
  | @part _ _ _ j _ _ _ ih => exact ih (j.error_of_after.1 ends)
  | lost | givenUp => rfl
  | @failed _ isOpen =>
    -- On an open line the call would have failed with its own cause.
    cases isOpen with
    | false => rfl
    | true => cases ends

/-! ## Calls in vain -/

/-- What two reads leave that differ in nothing but calls in vain. -/
structure Intake.Undisturbed (i j : Intake) : Prop where
  result : i.result = j.result
  isOpen : i.isOpen = j.isOpen
  feed : i.isOpen = true → j.feed = i.feed.undisturbed
  bytes : j.feed.bytes = i.feed.bytes

theorem Intake.Undisturbed.after {i j : Intake} (same : i.Undisturbed j) (bytes : List UInt8) :
    (i.after bytes).Undisturbed (j.after bytes) :=
  ⟨congrArg (·.map (bytes ++ ·)) same.result, same.isOpen, same.feed, same.bytes⟩

/-- Reading from a feed is reading from it without its calls in vain. -/
theorem fill_undisturbed (wanted : 0 < need) :
    Option.Rel Intake.Undisturbed (fill kind live need true feed)
      (fill kind live need true feed.undisturbed) := by
  induction feed generalizing need with
  | nil =>
    rw [Feed.undisturbed, fill]
    split
    · exact .none
    · exact .some ⟨rfl, rfl, fun _ => rfl, rfl⟩
  | cons e feed ih =>
    cases e with
    | data bytes =>
      rw [Feed.undisturbed]
      rcases Nat.lt_or_ge bytes.length need with less | enough
      · rw [fill_data_of_lt less, fill_data_of_lt less]
        exact rel_map (ih (by omega)) fun i j same => same.after bytes
      · rw [fill_data_of_le wanted enough, fill_data_of_le wanted enough]
        refine .some ⟨rfl, rfl, fun _ => (Feed.undisturbed_cons _ _).symm, ?_⟩
        simp [Feed.bytes_undisturbed]
    | interrupted | idle =>
      rw [Feed.undisturbed, fill, if_pos rfl]
      exact ih wanted
    | failed | ended =>
      exact .some ⟨rfl, rfl, fun _ => rfl, Feed.bytes_undisturbed feed⟩
    | closed =>
      -- The transport is closed from here on, and nothing is left out behind that.
      rw [Feed.undisturbed]
      cases filled : fill kind live need true (.closed :: feed) with
      | none => exact .none
      | some i =>
        rw [fill] at filled
        refine .some ⟨rfl, rfl, fun stays => ?_, rfl⟩
        rw [(fill_of_closed filled).1] at stays
        cases stays

/-- Two transports that differ in nothing but calls in vain that the first one will still meet. -/
structure Undisturbed (t u : Transport) : Prop where
  kind : u.kind = t.kind
  live : u.live = t.live
  isOpen : u.isOpen = t.isOpen
  sent : u.sent = t.sent
  feed : t.isOpen = true → u.feed = t.feed.undisturbed
  bytes : u.feed.bytes = t.feed.bytes

theorem undisturbed_feed (t : Transport) : t.Undisturbed { t with feed := t.feed.undisturbed } :=
  ⟨rfl, rfl, rfl, rfl, fun _ => rfl, t.feed.bytes_undisturbed⟩

theorem lockstep_undisturbed : Scan.Lockstep Undisturbed := by
  intro t u n same
  unfold readExact
  rcases Nat.eq_zero_or_pos n with rfl | wanted
  · exact .some ⟨rfl, same, nofun⟩
  · rw [if_neg (Nat.ne_of_gt wanted), if_neg (Nat.ne_of_gt wanted), same.isOpen]
    split
    · next isOpen =>
      rw [same.kind, same.live, same.feed isOpen]
      refine rel_map (fill_undisturbed wanted) fun i j alike => ?_
      exact ⟨alike.result, ⟨rfl, rfl, alike.isOpen.symm, same.sent, alike.feed, alike.bytes⟩,
        fun _ _ _ => alike.isOpen⟩
    · exact .some ⟨rfl, same, fun _ _ _ => same.isOpen.symm⟩

theorem Undisturbed.writeAll {bytes : List UInt8} {result : Except Fault Nat} (same : t.Undisturbed u)
    (back : t.writeAll bytes = (result, t')) :
    ∃ u', u.writeAll bytes = (result, u') ∧ t'.Undisturbed u' := by
  have alike : u.writeFault bytes = t.writeFault bytes := by
    simp only [writeFault, same.kind, same.isOpen, same.live]
  unfold Transport.writeAll at back ⊢
  rw [alike]
  cases fault : t.writeFault bytes with
  | some fault' =>
    rw [fault] at back
    cases back
    exact ⟨u, rfl, same⟩
  | none =>
    rw [fault] at back
    cases back
    exact ⟨_, rfl, ⟨same.kind, same.live, same.isOpen, congrArg (· ++ bytes) same.sent, same.feed,
      same.bytes⟩⟩

/-! ## Runs -/

open Link (Called)

/-- What becomes of a transport by calls that have come back, each with what it came to. -/
inductive Runs (t : Transport) : List Called → Transport → Prop where
  | start : Runs t [] t
  | read {u v : Transport} {h : List Called} {n : Nat} {taken : List UInt8}
      {result : Except Fault (List UInt8)} (run : Runs t h u) (back : u.readExact n = some (result, v))
      (gone : u.feed.bytes = taken ++ v.feed.bytes) : Runs t (h ++ [.read n result taken]) v
  | write {u v : Transport} {h : List Called} {bytes : List UInt8} {result : Except Fault Nat}
      (run : Runs t h u) (back : u.writeAll bytes = (result, v)) : Runs t (h ++ [.write bytes result]) v
  | close {u : Transport} {h : List Called} (run : Runs t h u) : Runs t (h ++ [.close]) u.close

variable {h : List Called}

theorem feed_writeAll {bytes : List UInt8} {result : Except Fault Nat}
    (back : t.writeAll bytes = (result, t')) : t'.feed = t.feed := by
  unfold writeAll at back
  split at back <;> cases back <;> rfl

theorem Runs.inOrder (run : Runs t h t') :
    h.flatMap Called.taken ++ t'.feed.bytes = t.feed.bytes := by
  induction run with
  | start => rfl
  | read _ _ gone ih => simp [Called.taken, ← ih, gone]
  | write _ back ih => simp [Called.taken, ← ih, feed_writeAll back]
  | close _ ih => simp [Called.taken, ← ih, Transport.close]

theorem Runs.gave (run : Runs t h t') (n : Nat) (bytes taken : List UInt8)
    (member : .read n (.ok bytes) taken ∈ h) : taken = bytes ∧ bytes.length = n := by
  induction run with
  | start => cases member
  | read _ back gone ih =>
    rcases List.mem_append.1 member with before | now
    · exact ih before
    · cases List.mem_singleton.1 now
      obtain ⟨given, size⟩ := bytes_of_readExact back
      exact ⟨List.append_cancel_right (gone.symm.trans given), size⟩
  | write _ _ ih | close _ ih =>
    rcases List.mem_append.1 member with before | now
    · exact ih before
    · cases List.mem_singleton.1 now

theorem Runs.mem_feed {cause : IoFailure} (run : Runs t h t') (later : .failed cause ∈ t'.feed) :
    .failed cause ∈ t.feed := by
  induction run with
  | start => exact later
  | read _ back _ ih => exact ih (mem_feed_of_readExact back later)
  | write _ back ih => exact ih (feed_writeAll back ▸ later)
  | close _ ih => exact ih later

theorem Runs.failed (run : Runs t h t') (n : Nat) (fault : Fault) (taken : List UInt8)
    (member : .read n (.error fault) taken ∈ h) :
    fault = .closed ∨ ∃ cause, fault = .io cause ∧ .failed cause ∈ t.feed := by
  induction run with
  | start => cases member
  | read run back _ ih =>
    rcases List.mem_append.1 member with before | now
    · exact ih before
    · cases List.mem_singleton.1 now
      exact (fault_of_readExact back).imp_right fun ⟨cause, told, member⟩ =>
        ⟨cause, told, run.mem_feed member⟩
  | write _ _ ih | close _ ih =>
    rcases List.mem_append.1 member with before | now
    · exact ih before
    · cases List.mem_singleton.1 now

/-- The same calls come to the same without the calls below that come back in vain. -/
theorem Runs.undisturbed (run : Runs t h t') (same : t.Undisturbed u) :
    ∃ u', Runs u h u' ∧ t'.Undisturbed u' := by
  induction run with
  | start => exact ⟨u, .start, same⟩
  | read _ back gone ih =>
    obtain ⟨u₁, run, same₁⟩ := ih
    obtain ⟨u₂, back', alike⟩ := lockstep_undisturbed.read_of_some same₁ back
    have gone' := alike.transport.bytes ▸ same₁.bytes ▸ gone
    exact ⟨u₂, .read run back' gone', alike.transport⟩
  | write _ back ih =>
    obtain ⟨u₁, run, same₁⟩ := ih
    obtain ⟨u₂, back', same₂⟩ := same₁.writeAll back
    exact ⟨u₂, .write run back', same₂⟩
  | close _ ih =>
    obtain ⟨u₁, run, same₁⟩ := ih
    exact ⟨u₁.close, .close run, ⟨same₁.kind, same₁.live, rfl, same₁.sent, nofun, same₁.bytes⟩⟩

/-! ## Closed transports -/

/-- What a transport that is not open makes of a call: only an empty read succeeds. -/
def Refuses (t : Transport) : Called → Prop
  | .read n result taken => result = (if n = 0 then .ok [] else .error .closed) ∧ taken = []
  | .write _ result => result = .error (if t.kind = .replay then .readOnly else .closed)
  | .close => True

theorem writeAll_of_closed (shut : t.isOpen = false) (bytes : List UInt8) :
    t.writeAll bytes = (.error (if t.kind = .replay then .readOnly else .closed), t) := by
  unfold writeAll writeFault
  cases kind : t.kind <;> simp [shut]

/-- Whatever is asked of a transport that is not open, it stays what it is. -/
theorem unchanged_of_runs (run : Runs t h t') (shut : t.isOpen = false) :
    t' = t ∧ ∀ c ∈ h, t.Refuses c := by
  have later {h : List Called} {c : Called} (before : ∀ c ∈ h, t.Refuses c) (now : t.Refuses c) :
      ∀ c' ∈ h ++ [c], t.Refuses c' := by
    intro c' member
    rcases List.mem_append.1 member with earlier | last
    · exact before c' earlier
    · rwa [List.mem_singleton.1 last]
  induction run with
  | start => exact ⟨rfl, nofun⟩
  | read _ back gone ih =>
    obtain ⟨rfl, before⟩ := ih
    rcases cases_of_readExact back with ⟨none, rfl, rfl⟩ | ⟨-, isOpen, -⟩ | ⟨wanted, -, rfl, rfl⟩
    · exact ⟨rfl, later before ⟨(if_pos none).symm, List.self_eq_append_left.1 gone⟩⟩
    · rw [shut] at isOpen
      cases isOpen
    · exact ⟨rfl, later before ⟨(if_neg (Nat.ne_of_gt wanted)).symm, List.self_eq_append_left.1 gone⟩⟩
  | write _ back ih =>
    obtain ⟨rfl, before⟩ := ih
    rw [writeAll_of_closed shut] at back
    cases back
    exact ⟨rfl, later before rfl⟩
  | close _ ih =>
    obtain ⟨rfl, before⟩ := ih
    refine ⟨?_, later before trivial⟩
    rw [close, ← shut]

/-! ## What a run comes to -/

/-- What the calls of a run came to, and what the next ones will. -/
structure Exact (t : Transport) (h : List Called) (t' : Transport) : Prop where
  /-- the calls took the bytes of the feed one after the other and left those behind them, so that
  nothing is taken twice -/
  inOrder : h.flatMap Called.taken ++ t'.feed.bytes = t.feed.bytes
  /-- of this, a read that succeeded gave what it took, as much as it was asked for -/
  gave : ∀ n bytes taken, .read n (.ok bytes) taken ∈ h → taken = bytes ∧ bytes.length = n
  /-- a read fails at the end or with a failure that the feed had, never with a call in vain -/
  failed : ∀ n fault taken, .read n (.error fault) taken ∈ h →
    fault = .closed ∨ ∃ cause, fault = .io cause ∧ .failed cause ∈ t.feed
  /-- the same calls come to the same if no call below comes back in vain -/
  undisturbed : ∃ u', Runs { t with feed := t.feed.undisturbed } h u' ∧ t'.Undisturbed u'
  /-- an empty read succeeds, whatever the feed has and whether or not the transport is open -/
  readsNone : t'.readExact 0 = some (.ok [], t')
  /-- an open transport gives the next bytes as long as there are enough in front of whatever else
  may come, with any calls in vain between them -/
  gives : ∀ n (front rest : Feed), t'.isOpen = true → t'.feed = front ++ rest → front.Smooth →
    n ≤ front.bytes.length → ∃ t'', t'.readExact n = some (.ok (front.bytes.take n), t'')
  /-- if there are not enough in front of the end, the read finds the end, which closes a serial line
  and no other transport -/
  ends : ∀ n (front rest : Feed), t'.isOpen = true → t'.feed = front ++ rest → front.Smooth →
    front.bytes.length < n → (rest = [] ∧ t'.live = false ∨ ∃ later, rest = .ended :: later) →
    ∃ t'', t'.readExact n = some (.error .closed, t'') ∧ t''.isOpen = (t'.kind != .serial)
  /-- a serial line that a read finds at its end is not open any more, also if its owner closes it
  under the read -/
  hangsUp : ∀ n t'', t'.kind = .serial → t'.readExact n = some (.error .closed, t'') →
    t''.isOpen = false
  /-- once the transport is not open, nothing changes it, no call takes or sends a byte, and all but
  empty reads are refused -/
  final : t'.isOpen = false → ∀ h' t'', Runs t' h' t'' → t'' = t' ∧ ∀ c ∈ h', t'.Refuses c

theorem readExact_of_fill (isOpen : t.isOpen = true) (wanted : 0 < n)
    (filled : fill t.kind t.live n true t.feed = some i) :
    t.readExact n = some (i.result, { t with isOpen := i.isOpen, feed := i.feed }) := by
  rw [readExact, if_neg (Nat.ne_of_gt wanted), if_pos isOpen, filled, Option.map_some]

/-- **Reads are exact until the transport is closed, and closing is final.** Of a transport of any
kind, with any feed, let there be any calls that have come back. The reads among them took the bytes
of the feed in order and gave what they took or lost it; calls below that came back in vain made no
difference; and what the next calls come to is told by what is left of the feed while the transport
is open, and is a refusal once it is not. -/
theorem reads_are_exact (run : Runs t h t') : Exact t h t' where
  inOrder := run.inOrder
  gave := run.gave
  failed := run.failed
  undisturbed := run.undisturbed t.undisturbed_feed
  readsNone := by rw [readExact, if_pos rfl]
  gives n front rest isOpen feed smooth enough := by
    rcases Nat.eq_zero_or_pos n with rfl | wanted
    · exact ⟨t', by rw [readExact, if_pos rfl, List.take_zero]⟩
    · obtain ⟨left, filled⟩ : ∃ left, fill t'.kind t'.live n true t'.feed =
          some ⟨.ok (front.bytes.take n), true, left⟩ := by
        rw [feed]
        exact fill_append_of_enough smooth wanted enough
      exact ⟨_, readExact_of_fill isOpen wanted filled⟩
  ends n front rest isOpen feed smooth short finds := by
    have filled : ∃ left, fill t'.kind t'.live n true t'.feed =
        some ⟨.error .closed, t'.kind != .serial, left⟩ := by
      rw [feed, fill_append_of_short smooth short]
      rcases finds with ⟨rfl, quiet⟩ | ⟨later, rfl⟩
      · exact ⟨[], by rw [fill, quiet]; rfl⟩
      · exact ⟨later, rfl⟩
    obtain ⟨left, filled⟩ := filled
    exact ⟨_, readExact_of_fill isOpen (by omega) filled, rfl⟩
  hangsUp n t'' kind read := by
    rcases cases_of_readExact read with ⟨-, told, -⟩ | ⟨-, -, i, fills, told, rfl⟩ | ⟨-, shut, -, rfl⟩
    · cases told
    · exact (kind ▸ fills).shut told.symm
    · exact shut
  final shut h' t'' run := unchanged_of_runs run shut

/-- A line is idle, is broken off, fails and hangs up, while it is read and written to. The read that
meets the failure loses a byte; the one that meets the hang-up is the last that looks at the feed. -/
theorem reads_are_exact_until_line_hangs_up :
    let lost : IoFailure := ⟨.other, "lost"⟩
    let t : Transport := { serial "line" with
      feed := [.data [1], .idle, .data [2, 3], .interrupted, .failed lost, .data [4], .ended, .data [5]] }
    let t' : Transport := { serial "line" with isOpen := false, feed := [.data [5]], sent := [7] }
    let h : List Called := [.read 2 (.ok [1, 2]) [1, 2], .read 2 (.error (.io lost)) [3],
      .write [7] (.ok 1), .read 1 (.ok [4]) [4], .read 1 (.error .closed) []]
    Runs t h t' ∧ h.flatMap Called.taken ++ [5] = t.feed.bytes ∧
      t'.readExact 0 = some (.ok [], t') ∧
      ∀ h' t'', Runs t' h' t'' → t'' = t' ∧ ∀ c ∈ h', t'.Refuses c := by
  intro lost t t' h
  have run : Runs t h t' := by
    let t₁ : Transport :=
      { t with feed := [.data [3], .interrupted, .failed lost, .data [4], .ended, .data [5]] }
    let t₂ : Transport := { t with feed := [.data [4], .ended, .data [5]] }
    let t₃ : Transport := { t₂ with sent := [7] }
    let t₄ : Transport := { t₃ with feed := [.ended, .data [5]] }
    refine .read (u := t₄) (.read (u := t₃) (.write (u := t₂) (.read (u := t₁) (.read .start ?_ ?_)
      ?_ ?_) ?_) ?_ ?_) ?_ ?_
    all_goals rfl
  have exact := reads_are_exact run
  exact ⟨run, exact.inOrder, exact.readsNone, exact.final rfl⟩

end Transport

end SerialLink
