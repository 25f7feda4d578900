import SerialLink.Proofs.Scan.Lockstep

/-!
# Chunks are not seen

How the bytes of a feed are cut into chunks, and where calls are broken off between them, makes no
difference to a scanner, as long as failures and ends stand where they stood among the bytes.
`Feed.joined` is what remains of a feed when that is left out, and reading from a feed and from
what remains of it is the same (`fill_joined`). So transports whose feeds come to the same are in
lockstep (`lockstep_chunks`), and a scanner tells the same of both at every step
(`chunks_are_not_seen`). A feed in which the transport is closed is another matter: a call that is
broken off behind the closing sees it, and one that is not does not.
-/

namespace SerialLink

/-! ## Feeds without their chunks -/

namespace Feed

/-- The feed with bytes in front, in its first chunk if it begins with one. -/
def push (bytes : List UInt8) : Feed → Feed
  | .data more :: rest => .data (bytes ++ more) :: rest
  | feed => cons bytes feed

/-- The feed with neighbouring chunks put together and without calls that come back in vain. -/
def joined : Feed → Feed
  | [] => []
  | .data bytes :: rest => push bytes (joined rest)
  | .interrupted :: rest | .idle :: rest => joined rest
  | .failed cause :: rest => .failed cause :: joined rest
  | .ended :: rest => .ended :: joined rest
  | .closed :: rest => .closed :: joined rest

/-- The owner never closes the transport. -/
def Unclosed (feed : Feed) : Prop :=
  .closed ∉ feed

instance (feed : Feed) : Decidable feed.Unclosed :=
  inferInstanceAs (Decidable (_ ∉ _))

@[simp] theorem cons_nil (feed : Feed) : cons [] feed = feed := rfl

theorem cons_of_ne_nil {bytes : List UInt8} (some : bytes ≠ []) (feed : Feed) :
    cons bytes feed = .data bytes :: feed := by
  simp [cons, ofBytes, some]

@[simp] theorem push_data (bytes more : List UInt8) (rest : Feed) :
    push bytes (.data more :: rest) = .data (bytes ++ more) :: rest := rfl

/-- A feed begins with a chunk, or bytes in front of it are one of their own. -/
theorem exists_data_or_push_eq_cons (feed : Feed) :
    (∃ more rest, feed = .data more :: rest) ∨ ∀ bytes, push bytes feed = cons bytes feed := by
  match feed with
  | .data more :: rest => exact .inl ⟨more, rest, rfl⟩
  | [] | .interrupted :: _ | .idle :: _ | .failed _ :: _ | .ended :: _ | .closed :: _ =>
    exact .inr fun _ => rfl

@[simp] theorem push_nil (feed : Feed) : push [] feed = feed := by
  rcases exists_data_or_push_eq_cons feed with ⟨more, rest, rfl⟩ | own
  · rfl
  · rw [own, cons_nil]

@[simp] theorem joined_cons (bytes : List UInt8) (feed : Feed) :
    joined (cons bytes feed) = push bytes (joined feed) := by
  by_cases none : bytes = []
  · rw [none, cons_nil, push_nil]
  · rw [cons_of_ne_nil none, joined]

/-- No chunk is empty that a feed begins with once its chunks are put together. -/
theorem ne_nil_of_joined {feed rest : Feed} {bytes : List UInt8}
    (first : joined feed = .data bytes :: rest) : bytes ≠ [] := by
  induction feed generalizing bytes rest with
  | nil => cases first
  | cons e feed ih =>
    cases e with
    | data front =>
      rw [joined] at first
      by_cases none : front = []
      · subst none
        exact ih (push_nil _ ▸ first)
      · rcases exists_data_or_push_eq_cons (joined feed) with ⟨more, behind, begins⟩ | own
        · rw [begins] at first
          cases first
          simp [none]
        · rw [own, cons_of_ne_nil none] at first
          cases first
          exact none
    | interrupted | idle => exact ih first
    | failed | ended | closed => cases first

theorem unclosed_cons {e : Event} {feed : Feed} :
    Unclosed (e :: feed) ↔ e ≠ .closed ∧ feed.Unclosed := by
  simp [Unclosed, eq_comm]

theorem Unclosed.cons {feed : Feed} (unclosed : feed.Unclosed) (bytes : List UInt8) :
    (cons bytes feed).Unclosed := by
  by_cases none : bytes = []
  · rwa [none, cons_nil]
  · rw [cons_of_ne_nil none]
    exact unclosed_cons.2 ⟨by simp, unclosed⟩

end Feed

/-! ## Reads -/

namespace Transport

theorem Intake.after_nil : Intake.after [] = id := by
  funext ⟨result, isOpen, feed⟩
  cases result <;> rfl

theorem Intake.after_after (a b : List UInt8) (i : Intake) :
    (i.after b).after a = i.after (a ++ b) := by
  obtain ⟨result, isOpen, feed⟩ := i
  cases result <;> simp [Intake.after, Except.map]

/-- The intake with the chunks put together of what is left. -/
def Intake.joined (i : Intake) : Intake :=
  { i with feed := i.feed.joined }

variable {kind : Kind} {live : Bool} {need : Nat} {bytes : List UInt8} {feed : Feed}

/-- A chunk that is enough is cut off where the read ends. -/
theorem fill_data_of_le (wanted : 0 < need) (enough : need ≤ bytes.length) :
    fill kind live need true (.data bytes :: feed) =
      some ⟨.ok (bytes.take need), true, Feed.cons (bytes.drop need) feed⟩ := by
  have filled : bytes ≠ [] := List.length_pos_iff.1 (Nat.lt_of_lt_of_le wanted enough)
  rw [fill, if_neg filled, if_pos (List.length_take_of_le enough)]

/-- A chunk that is not enough is used up, and the read goes on behind it. -/
theorem fill_data_of_lt (short : bytes.length < need) :
    fill kind live need true (.data bytes :: feed) =
      (fill kind live (need - bytes.length) true feed).map (Intake.after bytes) := by
  by_cases none : bytes = []
  · subst none
    rw [fill, if_pos rfl, Intake.after_nil, Option.map_id]
    rfl
  · have part : (bytes.take need).length ≠ need := by
      rw [List.length_take]
      omega
    rw [fill, if_neg none, if_neg part, if_pos rfl]

theorem fill_push_of_le (wanted : 0 < need) (enough : need ≤ bytes.length)
    (full : ∀ more rest, feed = .data more :: rest → more ≠ []) :
    fill kind live need true (Feed.push bytes feed) =
      some ⟨.ok (bytes.take need), true, Feed.push (bytes.drop need) feed⟩ := by
  have filled : bytes ≠ [] := List.length_pos_iff.1 (Nat.lt_of_lt_of_le wanted enough)
  rcases Feed.exists_data_or_push_eq_cons feed with ⟨more, rest, rfl⟩ | own
  · have left : bytes.drop need ++ more ≠ [] := by simp [full more rest rfl]
    have long : need ≤ (bytes ++ more).length := by
      rw [List.length_append]
      omega
    rw [Feed.push_data, fill_data_of_le wanted long, List.take_append_of_le_length enough,
      List.drop_append_of_le_length enough, Feed.cons_of_ne_nil left, Feed.push_data]
  · rw [own, own, Feed.cons_of_ne_nil filled, fill_data_of_le wanted enough]

theorem fill_push_of_lt (short : bytes.length < need) :
    fill kind live need true (Feed.push bytes feed) =
      (fill kind live (need - bytes.length) true feed).map (Intake.after bytes) := by
  rcases Feed.exists_data_or_push_eq_cons feed with ⟨more, rest, rfl⟩ | own
  · rw [Feed.push_data]
    rcases Nat.lt_or_ge (bytes ++ more).length need with shorter | enough
    · have less : more.length < need - bytes.length := by
        rw [List.length_append] at shorter
        omega
      rw [fill_data_of_lt shorter, fill_data_of_lt less, Option.map_map, List.length_append,
        Nat.sub_sub]
      congr 1
      funext i
      exact (i.after_after bytes more).symm
    · have more' : need - bytes.length ≤ more.length := by
        rw [List.length_append] at enough
        omega
      rw [fill_data_of_le (by omega) enough, fill_data_of_le (by omega) more']
      simp [Intake.after, Except.map, List.take_append, List.drop_append,
        List.take_of_length_le (Nat.le_of_lt short), List.drop_of_length_le (Nat.le_of_lt short)]
  · by_cases none : bytes = []
    · subst none
      rw [own, Feed.cons_nil, ← fill_data_of_lt short, fill, if_pos rfl]
    · rw [own, Feed.cons_of_ne_nil none, fill_data_of_lt short]

/-- Reading from a feed is reading from it with its chunks put together, as to what is read and as
to what is left. -/
theorem fill_joined (unclosed : feed.Unclosed) (wanted : 0 < need) :
    fill kind live need true feed.joined = (fill kind live need true feed).map Intake.joined := by
  induction feed generalizing need with
  | nil =>
    simp only [Feed.joined, fill]
    split <;> rfl
  | cons e feed ih =>
    obtain ⟨stays, later⟩ := Feed.unclosed_cons.1 unclosed
    cases e with
    | data bytes =>
      rw [Feed.joined]
      rcases Nat.lt_or_ge bytes.length need with short | enough
      · rw [fill_push_of_lt short, fill_data_of_lt short, ih later (by omega), Option.map_map,
          Option.map_map]
        rfl
      · rw [fill_push_of_le wanted enough fun more rest => Feed.ne_nil_of_joined,
          fill_data_of_le wanted enough]
        simp [Intake.joined]
    | interrupted | idle =>
      rw [Feed.joined, fill, if_pos rfl]
      exact ih later wanted
    | failed cause => rfl
    | ended => rfl
    | closed => exact absurd rfl stays

/-- Reading closes nothing. -/
theorem Fills.unclosed {isOpen : Bool} {i : Intake} (fills : Fills kind live need isOpen feed i)
    (unclosed : feed.Unclosed) : i.feed.Unclosed := by
  induction fills with
  | dry => exact unclosed
  | none _ ih | part _ _ _ ih | again _ _ ih | closed _ ih => exact ih (Feed.unclosed_cons.1 unclosed).2
  | enough => exact (Feed.unclosed_cons.1 unclosed).2.cons _
  | lost | givenUp | failed | ended => exact (Feed.unclosed_cons.1 unclosed).2

/-- Two transports that differ in their names, in what was sent, and in how the bytes are cut that
are still to come. -/
structure SameButChunks (t u : Transport) : Prop where
  kind : t.kind = u.kind
  live : t.live = u.live
  isOpen : t.isOpen = u.isOpen
  feed : t.feed.joined = u.feed.joined
  unclosed : t.feed.Unclosed
  unclosed' : u.feed.Unclosed

/-- The same read of two transports that differ in their chunks. -/
theorem SameButChunks.fill {t u : Transport} (same : t.SameButChunks u) (wanted : 0 < need) :
    Option.Rel
      (fun i j => i.joined = j.joined ∧ i.feed.Unclosed ∧ j.feed.Unclosed)
      (Transport.fill t.kind t.live need true t.feed)
      (Transport.fill u.kind u.live need true u.feed) := by
  have left : Transport.fill t.kind t.live need true t.feed.joined =
      (Transport.fill t.kind t.live need true t.feed).map Intake.joined :=
    fill_joined same.unclosed wanted
  have right : Transport.fill u.kind u.live need true u.feed.joined =
      (Transport.fill u.kind u.live need true u.feed).map Intake.joined :=
    fill_joined same.unclosed' wanted
  rw [same.feed, same.kind, same.live, right] at left
  rw [same.kind, same.live]
  cases first : Transport.fill u.kind u.live need true t.feed with
  | none =>
    rw [first, Option.map_none, Option.map_eq_none_iff] at left
    rw [left]
    exact .none
  | some i =>
    rw [first, Option.map_some] at left
    obtain ⟨j, second, alike⟩ := Option.map_eq_some_iff.1 left
    rw [second]
    exact .some ⟨alike.symm, (fills_of_fill first).unclosed same.unclosed,
      (fills_of_fill second).unclosed same.unclosed'⟩

end Transport

/-! ## Cycles -/

namespace Scan

/-- Transports that differ in their chunks are in lockstep. -/
theorem lockstep_chunks : Lockstep Transport.SameButChunks := by
  intro t u n same
  unfold Transport.readExact
  rcases Nat.eq_zero_or_pos n with rfl | wanted
  · rw [if_pos rfl, if_pos rfl]
    exact .some ⟨rfl, same, fun _ is => by cases is⟩
  · rw [if_neg (Nat.ne_of_gt wanted), if_neg (Nat.ne_of_gt wanted), same.isOpen]
    split
    · refine rel_map (same.fill wanted) ?_
      rintro ⟨result, isOpen, feed⟩ ⟨result', isOpen', feed'⟩ ⟨alike, unclosed, unclosed'⟩
      simp only [Transport.Intake.joined, Transport.Intake.mk.injEq] at alike
      obtain ⟨rfl, rfl, joined⟩ := alike
      exact ⟨rfl, ⟨same.kind, same.live, rfl, joined, unclosed, unclosed'⟩, fun _ _ _ => rfl⟩
    · exact .some ⟨rfl, same, fun _ _ _ => same.isOpen⟩

/-- Runs over two transports in lockstep tell the same, cycle by cycle. -/
theorem Lockstep.run {R : Transport → Transport → Prop} {sizes : CommandSizes}
    (lockstep : Lockstep R) {t u : Transport} (related : R t u) (s : Scanner) (n : Nat) :
    List.Forall₂ (Cycle.Alike R) (s.run sizes n t) (s.run sizes n u) := by
  induction n generalizing s t u with
  | zero => exact .nil
  | succ n ih =>
    have same : Option.Rel (Cycle.Alike R) (s.step sizes t) (s.step sizes u) :=
      lockstep.step related s
    rw [Scanner.run, Scanner.run]
    cases step : s.step sizes t with
    | none =>
      have waits : s.step sizes u = none := eq_none_of_rel (step ▸ same)
      rw [waits]
      exact .nil
    | some c =>
      obtain ⟨d, other, alike⟩ := exists_of_rel (step ▸ same)
      rw [other]
      exact .cons alike (alike.scanner ▸ ih alike.transport c.scanner)

/-- **Chunks are not seen.** Let two captures differ in nothing but how their bytes are cut into
chunks, empty ones included, and where calls are broken off in between; failures and ends stand at
the same bytes, and nobody closes the transports. A scanner that is driven over either for any
number of steps, going on whatever they end with, ends each with the same event or fault, in the
same state and with the same counts. -/
theorem chunks_are_not_seen (sizes : CommandSizes) (s : Scanner) (n : Nat) (name name' : String)
    {feed feed' : Feed} (unclosed : feed.Unclosed) (unclosed' : feed'.Unclosed)
    (same : feed.joined = feed'.joined) :
    let cycles := s.run sizes n (.replay name feed)
    let cycles' := s.run sizes n (.replay name' feed')
    cycles.length = n ∧ cycles'.length = n ∧
      cycles.map (·.result) = cycles'.map (·.result) ∧
      cycles.map (·.scanner) = cycles'.map (·.scanner) := by
  have related : (Transport.replay name feed).SameButChunks (.replay name' feed') :=
    ⟨rfl, rfl, rfl, same, unclosed, unclosed'⟩
  exact ⟨Scanner.length_run n rfl, Scanner.length_run n rfl,
    told_of_alike (lockstep_chunks.run related s n)⟩

/-- A frame is cut in its header and in its body, another one is broken off by a failure, and a
third one by the end of the stream, behind which more bytes come. -/
theorem chunks_are_not_seen_around_failures :
    let sizes : CommandSizes := fun command => if command = 0x30 then some 2 else none
    let lost : IoFailure := ⟨.timedOut, "lost"⟩
    let frame := Wire.frameBytes 0x30 [0xA5, 1]
    let feed : Feed := [.data (7 :: frame ++ frame.take 5), .failed lost, .data (frame.take 3),
      .ended, .data frame]
    let feed' : Feed := [.interrupted, .data [7], .data (frame.take 2), .data [],
      .data (frame.drop 2), .interrupted, .data (frame.take 4), .data [0xA5], .interrupted,
      .failed lost, .data (frame.take 1), .data ((frame.take 3).drop 1), .interrupted, .ended,
      .data frame, .interrupted]
    (Scanner.run sizes 6 {} (.replay "whole" feed)).map (·.result) =
        (Scanner.run sizes 6 {} (.replay "cut" feed')).map (·.result) ∧
      (Scanner.run sizes 6 {} (.replay "whole" feed)).map (·.scanner) =
        (Scanner.run sizes 6 {} (.replay "cut" feed')).map (·.scanner) := by
  intro sizes lost frame feed feed'
  have unclosed : feed.Unclosed := by decide
  have unclosed' : feed'.Unclosed := by decide
  have same : feed.joined = feed'.joined := by decide +kernel
  exact (chunks_are_not_seen sizes {} 6 "whole" "cut" unclosed unclosed' same).2.2

end Scan

end SerialLink
