import SerialLink.Transport.Basic

/-!
# Reading from a feed

Whatever a read comes to, the bytes that it leaves are the last ones of those it found, unchanged
(`suffix_readExact`). A transport with nobody on the other side never waits (`readExact_isSome`),
and a capture in memory gives its bytes in order and then counts as closed.
-/

namespace SerialLink.Transport

/-- What a read leaves is an end of what it found. -/
theorem suffix_readExact {t t' : Transport} {n : Nat} {result : Except Fault (List UInt8)}
    (h : t.readExact n = some (result, t')) : t'.feed.bytes <:+ t.feed.bytes := by
  obtain ⟨taken, bytes, -⟩ := taken_of_readExact h
  exact ⟨taken, bytes.symm⟩

/-- Nothing is waited for when nobody is left to send. -/
theorem fill_isSome {kind : Kind} {feed : Feed} :
    ∀ {need : Nat} {isOpen : Bool}, (fill kind false need isOpen feed).isSome := by
  induction feed with
  | nil => simp [fill]
  | cons e rest ih =>
    intro need isOpen
    cases e with
    | data bytes =>
      simp only [fill]
      split
      · exact ih
      · split
        · rfl
        · split
          · rw [Option.isSome_map]; exact ih
          · rfl
    | interrupted | idle =>
      simp only [fill]
      split
      · exact ih
      · rfl
    | failed cause => rfl
    | ended => rfl
    | closed => exact ih

theorem readExact_isSome {t : Transport} (quiet : t.live = false) (n : Nat) :
    (t.readExact n).isSome := by
  unfold readExact
  split
  · rfl
  · split
    · rw [Option.isSome_map, quiet]; exact fill_isSome
    · rfl

/-- Bytes that were read before change nothing about a failure. -/
theorem Intake.error_of_after (i : Intake) {bytes : List UInt8} {fault : Fault} :
    (i.after bytes).result = .error fault ↔ i.result = .error fault := by
  obtain ⟨result, isOpen, feed⟩ := i
  cases result <;> simp [Intake.after, Except.map]

theorem Fills.mem_feed {kind : Kind} {live isOpen : Bool} {need : Nat} {feed : Feed} {i : Intake}
    {cause : IoFailure} (fills : Fills kind live need isOpen feed i)
    (later : .failed cause ∈ i.feed) : .failed cause ∈ feed := by
  induction fills with
  | dry => cases later
  | none _ ih | part _ _ _ ih | again _ _ ih | closed _ ih => exact List.mem_cons_of_mem _ (ih later)
  | enough =>
    refine List.mem_cons_of_mem _ ?_
    simpa [Feed.cons, Feed.ofBytes, apply_ite (Feed.Event.failed cause ∈ ·)] using later
  | lost | givenUp | failed | ended => exact List.mem_cons_of_mem _ later

/-- A read fails at the end of the transport, or because a call below has failed. -/
theorem Fills.fault {kind : Kind} {live isOpen : Bool} {need : Nat} {feed : Feed} {i : Intake}
    {fault : Fault} (fills : Fills kind live need isOpen feed i) (told : i.result = .error fault) :
    fault = .closed ∨ ∃ cause, fault = .io cause ∧ .failed cause ∈ feed := by
  have behind {e : Feed.Event} {rest : Feed}
      (found : fault = .closed ∨ ∃ cause, fault = .io cause ∧ .failed cause ∈ rest) :
      fault = .closed ∨ ∃ cause, fault = .io cause ∧ .failed cause ∈ e :: rest :=
    found.imp_right fun ⟨cause, same, member⟩ => ⟨cause, same, List.mem_cons_of_mem _ member⟩
  induction fills with
  | dry | lost | givenUp | ended =>
    cases told
    exact .inl rfl
  | none _ ih | again _ _ ih | closed _ ih => exact behind (ih told)
  | enough => cases told
  | @part _ _ _ j _ _ _ ih => exact behind (ih (j.error_of_after.1 told))
  | @failed _ _ cause =>
    cases told
    unfold callFault
    split
    · exact .inr ⟨cause, rfl, List.mem_cons_self⟩
    · exact .inl rfl

/-- A failure that a read leaves to later ones stood in what it found. -/
theorem mem_feed_of_readExact {t t' : Transport} {n : Nat} {result : Except Fault (List UInt8)}
    {cause : IoFailure} (read : t.readExact n = some (result, t'))
    (later : .failed cause ∈ t'.feed) : .failed cause ∈ t.feed := by
  rcases cases_of_readExact read with ⟨-, -, rfl⟩ | ⟨-, -, i, fills, -, rfl⟩ | ⟨-, -, -, rfl⟩
  · exact later
  · exact fills.mem_feed later
  · exact later

theorem fault_of_readExact {t t' : Transport} {n : Nat} {fault : Fault}
    (read : t.readExact n = some (.error fault, t')) :
    fault = .closed ∨ ∃ cause, fault = .io cause ∧ .failed cause ∈ t.feed := by
  rcases cases_of_readExact read with ⟨-, told, -⟩ | ⟨-, -, i, fills, told, -⟩ | ⟨-, -, told, -⟩
  · cases told
  · exact fills.fault told.symm
  · cases told
    exact .inl rfl

/-- Reading changes nothing about who is on the other side. -/
theorem live_readExact {t t' : Transport} {n : Nat} {result : Except Fault (List UInt8)}
    (h : t.readExact n = some (result, t')) : t'.live = t.live := by
  rcases cases_of_readExact h with ⟨-, -, rfl⟩ | ⟨-, -, i, -, -, rfl⟩ | ⟨-, -, -, rfl⟩ <;> rfl

/-! ## Captures in memory -/

theorem ofBytes_cons (b : UInt8) (bytes : List UInt8) :
    ofBytes (b :: bytes) = replay "memory" [.data (b :: bytes)] := rfl

theorem bytes_feed_ofBytes (bytes : List UInt8) : (ofBytes bytes).feed.bytes = bytes :=
  Feed.bytes_ofBytes bytes

/-- A capture is told apart by its bytes. -/
theorem ofBytes_injective {a b : List UInt8} (same : ofBytes a = ofBytes b) : a = b := by
  rw [← bytes_feed_ofBytes a, same, bytes_feed_ofBytes]

/-- A capture gives its next bytes as long as it has them. -/
theorem readExact_ofBytes {front : List UInt8} {n : Nat} (size : front.length = n)
    (rest : List UInt8) :
    (ofBytes (front ++ rest)).readExact n = some (.ok front, ofBytes rest) := by
  cases front with
  | nil => simp [readExact, ← size]
  | cons b front =>
    have next : n ≠ 0 := by rw [← size]; simp
    have whole : (b :: front ++ rest).take n = b :: front := size ▸ List.take_left
    have left : (b :: front ++ rest).drop n = rest := size ▸ List.drop_left
    rw [List.cons_append] at whole left ⊢
    rw [readExact, if_neg next, ofBytes_cons, replay]
    simp only [if_true, fill, reduceCtorEq, if_false, whole, left, size, Option.map_some]
    simp [ofBytes, replay, Feed.cons]

theorem readExact_one_ofBytes (b : UInt8) (rest : List UInt8) :
    (ofBytes (b :: rest)).readExact 1 = some (.ok [b], ofBytes rest) := by
  have one : [b].length = 1 := rfl
  exact readExact_ofBytes one rest

/-- A capture that is too short is used up, and counts as closed. -/
theorem readExact_ofBytes_of_lt {bytes : List UInt8} {n : Nat} (short : bytes.length < n) :
    (ofBytes bytes).readExact n = some (.error .closed, ofBytes []) := by
  have next : n ≠ 0 := by omega
  cases bytes with
  | nil => simp [readExact, next, ofBytes, replay, Feed.ofBytes, fill, openAfterEnd]
  | cons b bytes =>
    have part : ((b :: bytes).take n).length ≠ n := by
      rw [List.length_take]
      omega
    rw [readExact, if_neg next, ofBytes_cons, replay]
    simp only [if_true, fill, reduceCtorEq, if_false, part, Bool.and_true, Option.map_some]
    simp [Intake.after, Except.map, ofBytes, replay, Feed.ofBytes, openAfterEnd]

end SerialLink.Transport
