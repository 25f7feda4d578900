import SerialLink.Text.Quoted
import SerialLink.Transport.Feed

/-!
# Transports

A transport delivers exact counts of bytes from its feed and takes bytes to send. There are three
kinds: a capture that is replayed and takes nothing, one end of a byte stream, and a serial line.
Closing is final. A read that would have to wait for bytes has not happened yet: `readExact` is
`none` and nothing is taken. What a read can come to is told rule by rule by `Fills`.
-/

namespace SerialLink

/-- The kinds of transport. -/
inductive Transport.Kind where
  | replay | stream | serial
  deriving DecidableEq, Repr

/-- One end of a connection. -/
structure Transport where
  kind : Transport.Kind
  name : String
  isOpen : Bool := true
  /-- The other side may still send and receive; once it is gone, the end of the feed is the end of
  the stream. -/
  live : Bool := false
  /-- What reads will meet. -/
  feed : Feed := []
  /-- What was written, in order. -/
  sent : List UInt8 := []
  deriving DecidableEq, Repr

namespace Transport

/-- A capture that yields a feed and then ends. -/
def replay (name : String) (feed : Feed) : Transport where
  kind := .replay
  name := name
  feed := feed

/-- A capture of some bytes in memory. -/
def ofBytes (bytes : List UInt8) : Transport :=
  replay "memory" (Feed.ofBytes bytes)

/-- A connected end of a byte stream. -/
def stream (name : String) : Transport where
  kind := .stream
  name := name
  live := true

/-- A serial line that is up. -/
def serial (name : String) : Transport where
  kind := .serial
  name := name
  live := true

/-- The transport still counts as open after a read found its end. Only a serial line takes the end
for a hang-up, which closes it. -/
def openAfterEnd (kind : Kind) (isOpen : Bool) : Bool :=
  isOpen && kind != .serial

/-- What a failed call means for the read. Closing a stream or a line under a call makes the call
fail, and that is no failure of the device. -/
def callFault (kind : Kind) (isOpen : Bool) (cause : IoFailure) : Fault :=
  if isOpen || kind == .replay then .io cause else .closed

/-- The outcome of a read with whether the transport is open behind it and what is left of the
feed. -/
structure Intake where
  result : Except Fault (List UInt8)
  isOpen : Bool
  feed : Feed

/-- The intake with bytes in front that were read before. -/
def Intake.after (bytes : List UInt8) (i : Intake) : Intake :=
  { i with result := i.result.map (bytes ++ ·) }

/-- Takes `need` bytes, at least one, from a feed. Between two calls it is seen whether the
transport is still open; `none` when the bytes are not all there and may still come. -/
def fill (kind : Kind) (live : Bool) (need : Nat) (isOpen : Bool) : Feed → Option Intake
  | [] => if live && isOpen then none else some ⟨.error .closed, openAfterEnd kind isOpen, []⟩
  | .data bytes :: rest =>
    if bytes = [] then fill kind live need isOpen rest
    else if (bytes.take need).length = need then
      some ⟨.ok (bytes.take need), isOpen, Feed.cons (bytes.drop need) rest⟩
    else if isOpen then
      (fill kind live (need - bytes.length) isOpen rest).map (Intake.after bytes)
    else some ⟨.error .closed, isOpen, rest⟩
  | .interrupted :: rest | .idle :: rest =>
    if isOpen then fill kind live need isOpen rest else some ⟨.error .closed, isOpen, rest⟩
  | .failed cause :: rest => some ⟨.error (callFault kind isOpen cause), isOpen, rest⟩
  | .ended :: rest => some ⟨.error .closed, openAfterEnd kind isOpen, rest⟩
  | .closed :: rest => fill kind live need false rest

/-- Reads exactly `n` bytes, or nothing and without a look at the feed when `n` is zero. -/
def readExact (t : Transport) (n : Nat) : Option (Except Fault (List UInt8) × Transport) :=
  if n = 0 then some (.ok [], t)
  else if t.isOpen then
    (fill t.kind t.live n true t.feed).map fun i => (i.result, { t with isOpen := i.isOpen, feed := i.feed })
  else some (.error .closed, t)

/-- The read of `need` bytes that comes back with an intake, by what it meets. -/
inductive Fills (kind : Kind) (live : Bool) : Nat → Bool → Feed → Intake → Prop where
  /-- nothing is left, and nothing will come -/
  | dry {need : Nat} {isOpen : Bool} (quiet : (live && isOpen) = false) :
    Fills kind live need isOpen [] ⟨.error .closed, openAfterEnd kind isOpen, []⟩
  | none {need : Nat} {isOpen : Bool} {rest : Feed} {i : Intake}
      (behind : Fills kind live need isOpen rest i) : Fills kind live need isOpen (.data [] :: rest) i
  | enough {need : Nat} {isOpen : Bool} {bytes : List UInt8} {rest : Feed} (some : bytes ≠ [])
      (whole : (bytes.take need).length = need) :
    Fills kind live need isOpen (.data bytes :: rest)
      ⟨.ok (bytes.take need), isOpen, Feed.cons (bytes.drop need) rest⟩
  | part {need : Nat} {bytes : List UInt8} {rest : Feed} {i : Intake} (some : bytes ≠ [])
      (short : (bytes.take need).length ≠ need)
      (behind : Fills kind live (need - bytes.length) true rest i) :
    Fills kind live need true (.data bytes :: rest) (i.after bytes)
  /-- the transport was closed while these bytes were waited for -/
  | lost {need : Nat} {bytes : List UInt8} {rest : Feed} (some : bytes ≠ [])
      (short : (bytes.take need).length ≠ need) :
    Fills kind live need false (.data bytes :: rest) ⟨.error .closed, false, rest⟩
  /-- a call comes back in vain -/
  | again {need : Nat} {e : Feed.Event} {rest : Feed} {i : Intake} (vain : e = .interrupted ∨ e = .idle)
      (behind : Fills kind live need true rest i) : Fills kind live need true (e :: rest) i
  | givenUp {need : Nat} {e : Feed.Event} {rest : Feed} (vain : e = .interrupted ∨ e = .idle) :
    Fills kind live need false (e :: rest) ⟨.error .closed, false, rest⟩
  | failed {need : Nat} {isOpen : Bool} {cause : IoFailure} {rest : Feed} :
    Fills kind live need isOpen (.failed cause :: rest)
      ⟨.error (callFault kind isOpen cause), isOpen, rest⟩
  | ended {need : Nat} {isOpen : Bool} {rest : Feed} :
    Fills kind live need isOpen (.ended :: rest) ⟨.error .closed, openAfterEnd kind isOpen, rest⟩
  | closed {need : Nat} {isOpen : Bool} {rest : Feed} {i : Intake}
      (behind : Fills kind live need false rest i) : Fills kind live need isOpen (.closed :: rest) i

/-- A read that comes back went by the rules. -/
theorem fills_of_fill {kind : Kind} {live : Bool} {feed : Feed} {need : Nat} {isOpen : Bool} {i : Intake}
    (filled : fill kind live need isOpen feed = some i) : Fills kind live need isOpen feed i := by
  induction feed generalizing need isOpen i with
  | nil =>
    rw [fill] at filled
    split at filled
    · cases filled
    · next quiet =>
      cases filled
      exact .dry (eq_false_of_ne_true quiet)
  | cons e rest ih =>
    cases e with
    | data bytes =>
      rw [fill] at filled
      split at filled
      · next none =>
        subst none
        exact .none (ih filled)
      · next some =>
        split at filled
        · next whole =>
          cases filled
          exact .enough some whole
        · next short =>
          cases isOpen with
          | true =>
            obtain ⟨j, behind, rfl⟩ := Option.map_eq_some_iff.1 filled
            exact .part some short (ih behind)
          | false =>
            cases filled
            exact .lost some short
    | interrupted | idle =>
      cases isOpen with
      | true => exact .again (by simp) (ih filled)
      | false =>
        cases filled
        exact .givenUp (by simp)
    | failed cause =>
      cases filled
      exact .failed
    | ended =>
      cases filled
      exact .ended
    | closed => exact .closed (ih filled)

/-- The bytes of the feed are those that a read took and those that it leaves, and a read that succeeds
gives what it took. -/
theorem Fills.taken {kind : Kind} {live : Bool} {feed : Feed} {need : Nat} {isOpen : Bool} {i : Intake}
    (fills : Fills kind live need isOpen feed i) :
    ∃ taken, feed.bytes = taken ++ i.feed.bytes ∧
      ∀ b, i.result = .ok b → taken = b ∧ b.length = need := by
  induction fills with
  | dry => exact ⟨[], rfl, nofun⟩
  | none _ ih | closed _ ih => exact ih
  | @enough need _ bytes _ _ whole =>
    refine ⟨bytes.take need, ?_, fun b told => ?_⟩
    · rw [Feed.bytes_cons_data, Feed.bytes_cons, ← List.append_assoc, List.take_append_drop]
    · cases told
      exact ⟨rfl, whole⟩
  | @part need bytes rest i _ short _ ih =>
    obtain ⟨taken, feed, gives⟩ := ih
    refine ⟨bytes ++ taken, by rw [Feed.bytes_cons_data, feed, List.append_assoc]; rfl, fun b told => ?_⟩
    obtain ⟨result, isOpen, left⟩ := i
    cases result with
    | error => cases told
    | ok c =>
      obtain ⟨rfl, size⟩ := gives c rfl
      cases told
      rw [List.length_take] at short
      exact ⟨rfl, by rw [List.length_append]; omega⟩
  | lost => exact ⟨_, Feed.bytes_cons_data _ _, nofun⟩
  | again vain _ ih => rcases vain with rfl | rfl <;> exact ih
  | givenUp vain => rcases vain with rfl | rfl <;> exact ⟨[], rfl, nofun⟩
  | failed | ended => exact ⟨[], rfl, nofun⟩

/-- A read that comes back was for nothing, looked at the feed, or found the transport closed. -/
theorem cases_of_readExact {t t' : Transport} {n : Nat} {result : Except Fault (List UInt8)}
    (read : t.readExact n = some (result, t')) :
    (n = 0 ∧ result = .ok [] ∧ t' = t) ∨
    (0 < n ∧ t.isOpen = true ∧ ∃ i, Fills t.kind t.live n true t.feed i ∧ result = i.result ∧
      t' = { t with isOpen := i.isOpen, feed := i.feed }) ∨
    (0 < n ∧ t.isOpen = false ∧ result = .error .closed ∧ t' = t) := by
  unfold readExact at read
  split at read
  · next none =>
    cases read
    exact .inl ⟨none, rfl, rfl⟩
  · next some =>
    have wanted : 0 < n := Nat.pos_of_ne_zero some
    split at read
    · next isOpen =>
      obtain ⟨i, filled, told⟩ := Option.map_eq_some_iff.1 read
      cases told
      exact .inr (.inl ⟨wanted, isOpen, i, fills_of_fill filled, rfl, rfl⟩)
    · next shut =>
      cases read
      exact .inr (.inr ⟨wanted, eq_false_of_ne_true shut, rfl, rfl⟩)

/-- The bytes of the feed are those that a read took and those that it leaves, and a read that succeeds
gives what it took. -/
theorem taken_of_readExact {t t' : Transport} {n : Nat} {result : Except Fault (List UInt8)}
    (read : t.readExact n = some (result, t')) :
    ∃ taken, t.feed.bytes = taken ++ t'.feed.bytes ∧
      ∀ b, result = .ok b → taken = b ∧ b.length = n := by
  rcases cases_of_readExact read with ⟨rfl, rfl, rfl⟩ | ⟨-, -, i, fills, rfl, rfl⟩ | ⟨-, -, rfl, rfl⟩
  · refine ⟨[], rfl, fun b told => ?_⟩
    cases told
    exact ⟨rfl, rfl⟩
  · exact fills.taken
  · exact ⟨[], rfl, nofun⟩

/-- A read that succeeds gives exactly the next bytes of the feed. -/
theorem bytes_of_readExact {t t' : Transport} {n : Nat} {b : List UInt8}
    (h : t.readExact n = some (.ok b, t')) :
    t.feed.bytes = b ++ t'.feed.bytes ∧ b.length = n := by
  obtain ⟨taken, bytes, gives⟩ := taken_of_readExact h
  obtain ⟨rfl, size⟩ := gives b rfl
  exact ⟨bytes, size⟩

/-- No read adds to what is left to read. -/
theorem length_bytes_readExact_le {t t' : Transport} {n : Nat}
    {result : Except Fault (List UInt8)} (h : t.readExact n = some (result, t')) :
    t'.feed.bytes.length ≤ t.feed.bytes.length := by
  obtain ⟨taken, bytes, -⟩ := taken_of_readExact h
  rw [bytes, List.length_append]
  exact Nat.le_add_left _ _

/-- What keeps some bytes from being written. -/
def writeFault (t : Transport) (bytes : List UInt8) : Option Fault :=
  match t.kind with
  | .replay => some .readOnly
  | .stream => if !t.isOpen || (bytes ≠ [] && !t.live) then some .closed else none
  | .serial =>
    if !t.isOpen then some .closed
    else if !t.live then some (.io Errno.inputOutput.failure)
    else none

/-- Writes all of some bytes or none of them. -/
def writeAll (t : Transport) (bytes : List UInt8) : Except Fault Nat × Transport :=
  match t.writeFault bytes with
  | some fault => (.error fault, t)
  | none => (.ok bytes.length, { t with sent := t.sent ++ bytes })

/-- The transport closed by its owner. -/
def close (t : Transport) : Transport :=
  { t with isOpen := false }

/-- The transport with more bytes to read. -/
def deliver (t : Transport) (bytes : List UInt8) : Transport :=
  { t with feed := t.feed.snoc bytes }

/-- The transport with nobody left on the other side. -/
def hangUp (t : Transport) : Transport :=
  { t with live := false }

/-- Whether the transport is open, in words. -/
def openText (t : Transport) : String :=
  if t.isOpen then "true" else "false"

/-- The transport by its kind. -/
def described (t : Transport) : String :=
  match t.kind with
  | .replay => "ReplayTransport \x7b label: " ++ Text.quoted t.name ++ ", open: " ++ t.openText ++ ", .. \x7d"
  | .stream => "StreamTransport \x7b endpoint: " ++ Text.quoted t.name ++ ", open: " ++ t.openText ++ " \x7d"
  | .serial => "SerialPort \x7b device: " ++ Text.quoted t.name ++ ", open: " ++ t.openText ++ " \x7d"

/-- The transport without regard to its kind. -/
def summary (t : Transport) : String :=
  "Transport \x7b name: " ++ Text.quoted t.name ++ ", open: " ++ t.openText ++ " \x7d"

end Transport

end SerialLink
