import SerialLink.Proofs.Transport.Reading

/-!
# Transports without failures

The reads of a steady transport meet bytes only, in chunks of any size, with broken calls and
waiting periods between them, up to the end. How the chunks are cut is never seen: a read gives the
next bytes as long as there are enough (`Steady.readExact`), and finds the transport closed when
there are not (`Steady.readExact_of_short`).
-/

namespace SerialLink

/-- A call comes back with bytes, or in vain and is repeated. -/
def Feed.Event.isSmooth : Event → Bool
  | data _ | interrupted | idle => true
  | _ => false

/-- Nothing but such calls. -/
def Feed.Smooth (feed : Feed) : Prop :=
  ∀ e ∈ feed, e.isSmooth

theorem Feed.smooth_ofBytes (bytes : List UInt8) : Smooth (ofBytes bytes) := by
  intro e member
  unfold ofBytes at member
  split at member
  · cases member
  · rw [List.mem_singleton.1 member]
    rfl

theorem Feed.Smooth.cons {feed : Feed} (smooth : feed.Smooth) (bytes : List UInt8) :
    Smooth (cons bytes feed) := by
  intro e member
  rcases List.mem_append.1 member with front | behind
  · exact smooth_ofBytes bytes e front
  · exact smooth e behind

theorem Feed.Smooth.snoc {feed : Feed} (smooth : feed.Smooth) (bytes : List UInt8) :
    Smooth (snoc feed bytes) := by
  intro e member
  rcases List.mem_append.1 member with front | behind
  · exact smooth e front
  · exact smooth_ofBytes bytes e behind

namespace Transport

/-- Nobody is left on the other side, the feed is smooth, and as long as it has bytes the transport
is open. -/
structure Steady (t : Transport) : Prop where
  isOpen : t.feed.bytes ≠ [] → t.isOpen = true
  quiet : t.live = false
  smooth : t.feed.Smooth

theorem steady_ofBytes (bytes : List UInt8) : (ofBytes bytes).Steady :=
  ⟨fun _ => rfl, rfl, Feed.smooth_ofBytes bytes⟩

/-- As long as there are enough, the next bytes are taken out of whatever chunks they are in. -/
theorem fill_of_enough {kind : Kind} {live : Bool} {feed : Feed} :
    ∀ {need : Nat}, feed.Smooth → 0 < need → need ≤ feed.bytes.length →
      ∃ rest, fill kind live need true feed = some ⟨.ok (feed.bytes.take need), true, rest⟩ ∧
        rest.Smooth ∧ rest.bytes = feed.bytes.drop need := by
  induction feed with
  | nil =>
    intro need _ some enough
    rw [Feed.bytes_nil, List.length_nil] at enough
    omega
  | cons e feed ih =>
    intro need smooth some enough
    have later : Feed.Smooth feed := fun e member => smooth e (List.mem_cons_of_mem _ member)
    have smoothHead := smooth e List.mem_cons_self
    cases e with
    | data bytes =>
      rw [Feed.bytes_cons_data] at enough ⊢
      by_cases none : bytes = []
      · subst none
        simpa [fill] using ih later some enough
      · rcases Nat.lt_or_ge bytes.length need with more | whole
        · -- The chunk is used up, and what it lacks comes from those behind it.
          have behind : need - bytes.length ≤ (Feed.bytes feed).length := by
            rw [List.length_append] at enough
            omega
          obtain ⟨rest, filled, smoothRest, left⟩ := ih later (by omega) behind
          refine ⟨rest, ?_, smoothRest, ?_⟩
          · have part : (bytes.take need).length ≠ need := by
              rw [List.length_take]
              omega
            rw [fill, if_neg none, if_neg part, if_pos rfl, filled, List.take_append,
              List.take_of_length_le (Nat.le_of_lt more)]
            rfl
          · rw [left, List.drop_append, List.drop_of_length_le (Nat.le_of_lt more), List.nil_append]
        · refine ⟨Feed.cons (bytes.drop need) feed, ?_, later.cons _, ?_⟩
          · simp [fill, none, whole, List.take_append_of_le_length]
          · rw [Feed.bytes_cons, List.drop_append_of_le_length whole]
    | interrupted | idle =>
      rw [fill, if_pos rfl]
      exact ih later some enough
    | failed | ended | closed => cases smoothHead

/-- Bytes that are not enough are used up, or waited for as long as more may come. -/
theorem fill_of_short {kind : Kind} {live : Bool} {feed : Feed} :
    ∀ {need : Nat}, feed.Smooth → feed.bytes.length < need →
      fill kind live need true feed =
        if live then none else some ⟨.error .closed, openAfterEnd kind true, []⟩ := by
  induction feed with
  | nil =>
    intro need _ _
    rw [fill, Bool.and_true]
  | cons e feed ih =>
    intro need smooth short
    have later : Feed.Smooth feed := fun e member => smooth e (List.mem_cons_of_mem _ member)
    have smoothHead := smooth e List.mem_cons_self
    cases e with
    | data bytes =>
      rw [Feed.bytes_cons_data, List.length_append] at short
      by_cases none : bytes = []
      · subst none
        simpa [fill] using ih later (by simpa using short)
      · have part : (bytes.take need).length ≠ need := by
          rw [List.length_take]
          omega
        have behind : (Feed.bytes feed).length < need - bytes.length := by omega
        rw [fill, if_neg none, if_neg part, if_pos rfl, ih later behind]
        cases live with
        | true => rfl
        | false => rfl
    | interrupted | idle =>
      rw [fill, if_pos rfl]
      exact ih later short
    | failed | ended | closed => cases smoothHead

/-- A read gives the next bytes as long as there are enough. -/
theorem Steady.readExact {t : Transport} (steady : t.Steady) {n : Nat}
    (enough : n ≤ t.feed.bytes.length) :
    ∃ t', t.readExact n = some (.ok (t.feed.bytes.take n), t') ∧ t'.Steady ∧
      t'.feed.bytes = t.feed.bytes.drop n := by
  rcases Nat.eq_zero_or_pos n with rfl | some
  · exact ⟨t, by simp [Transport.readExact], steady, rfl⟩
  · have isOpen : t.isOpen = true :=
      steady.isOpen (List.length_pos_iff.1 (Nat.lt_of_lt_of_le some enough))
    obtain ⟨rest, filled, smooth, left⟩ := fill_of_enough steady.smooth some enough
    refine ⟨{ t with isOpen := true, feed := rest }, ?_, ⟨fun _ => rfl, steady.quiet, smooth⟩, left⟩
    rw [Transport.readExact, if_neg (Nat.ne_of_gt some), if_pos isOpen, filled]
    rfl

/-- A read that wants more than there is finds the transport closed and leaves nothing. -/
theorem Steady.readExact_of_short {t : Transport} (steady : t.Steady) {n : Nat}
    (short : t.feed.bytes.length < n) :
    ∃ t', t.readExact n = some (.error .closed, t') ∧ t'.Steady ∧ t'.feed.bytes = [] := by
  have some : n ≠ 0 := by omega
  rw [Transport.readExact, if_neg some]
  cases isOpen : t.isOpen with
  | true =>
    rw [if_pos rfl, steady.quiet, fill_of_short steady.smooth short]
    have smooth : Feed.Smooth [] := fun e member => absurd member List.not_mem_nil
    exact ⟨_, rfl, ⟨fun more => absurd rfl more, rfl, smooth⟩, rfl⟩
  | false =>
    have empty : t.feed.bytes = [] :=
      Decidable.byContradiction fun more => by simp [steady.isOpen more] at isOpen
    exact ⟨t, rfl, steady, empty⟩

end Transport

end SerialLink
