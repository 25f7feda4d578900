import SerialLink.Proofs.Message.Body
import SerialLink.Proofs.Scan.Lockstep
import SerialLink.Proofs.Scan.Segmentation

/-!
# Streams of messages

A stream of messages has noise in front of each and behind the last. It can always be written
(`stream_eq`), and it is cut where the messages are: a scanner that knows a message's command with
the length of its kind ends a cycle with its frame, and one that does not know the command passes
over it (`cycles_of_stream`). Marker bytes inside a message and the chunks that the stream comes in
make no difference.
-/

namespace SerialLink

namespace Message

/-- Messages, each encoded behind its noise, and more noise behind the last. -/
def stream (messages : List (List UInt8 × Message)) (last : List UInt8) :
    Except Wire.Fault (List UInt8) :=
  match messages with
  | [] => .ok last
  | (noise, m) :: later =>
    m.encode.bind fun frame =>
      (stream later last).map fun behind => noise ++ frame ++ behind

/-- The scanner knows the message's command. -/
def known (sizes : CommandSizes) (m : Message) : Bool :=
  (sizes m.kind.command).isSome

/-- How a cycle over a message ends. -/
def event (sizes : CommandSizes) (m : Message) : Scan.Event :=
  if m.known sizes then .frame m.request.frame
  else .discarded (.unknownCommand m.kind.command m.kind.size)

end Message

namespace Scan

open Message

/-- The commands of messages that are known have the lengths of their kinds. -/
def Fitting (sizes : CommandSizes) : Prop :=
  ∀ (kind : MessageKind) (size : Nat), sizes kind.command = some size → size = kind.size

/-- Pieces that the messages of a stream are, each behind its noise. -/
def pieces (messages : List (List UInt8 × Message)) : List (List UInt8 × List UInt8) :=
  messages.map fun p => (p.1, p.2.request.bytes)

/-- Every stream can be written. -/
theorem stream_eq (messages : List (List UInt8 × Message)) (last : List UInt8) :
    stream messages last = .ok (Cut.join (pieces messages) ++ last) := by
  induction messages with
  | nil => rfl
  | cons p later ih =>
    obtain ⟨noise, m⟩ := p
    rw [stream, m.encode_eq, ih]
    simp [Except.bind, Except.map, Cut.join, pieces]

variable {sizes : CommandSizes}

/-- What is encoded under a command that is not known is a piece. -/
theorem Piece.of_unknown_request {r : Wire.Request} (accepted : r.Accepted)
    (unregistered : sizes r.command = none) :
    Piece sizes r.bytes (.discarded (.unknownCommand r.command r.body.length)) := by
  have valid := Wire.decode_bytes_append accepted []
  rw [List.append_nil] at valid
  exact .of_unknown valid (Wire.wireSize_frame r).symm unregistered

/-- A message is a piece. -/
theorem carries_message (fitting : Fitting sizes) {noise : List UInt8} (clean : Noise noise)
    (m : Message) : Carries sizes (noise, m.request.bytes) (m.event sizes) := by
  refine ⟨clean, ?_⟩
  unfold Message.event Message.known
  cases entry : sizes m.kind.command with
  | none =>
    have piece := Piece.of_unknown_request m.accepted_request entry
    rw [m.accepted_request.2] at piece
    exact piece
  | some size =>
    obtain rfl := fitting m.kind size entry
    exact .of_request m.accepted_request (m.length_body.symm ▸ entry)

/-- Where a stream of messages is cut. -/
theorem fits_messages (fitting : Fitting sizes) {messages : List (List UInt8 × Message)}
    {last : List UInt8} (clean : ∀ p ∈ messages, Noise p.1) (cleanLast : Noise last) :
    Cut.Fits sizes ⟨pieces messages, last, []⟩ (messages.map (·.2.event sizes))
      .seekingMarker := by
  refine ⟨?_, cleanLast, .nothing⟩
  rw [pieces, List.forall₂_map_left_iff, List.forall₂_map_right_iff, List.forall₂_same]
  exact fun p member => carries_message fitting (clean p member) p.2

/-- The cycles over a stream of messages tell one message after the other and then find the end,
and all noise is counted. -/
theorem cycles_of_stream (fitting : Fitting sizes) {messages : List (List UInt8 × Message)}
    {last : List UInt8} (clean : ∀ p ∈ messages, Noise p.1) (cleanLast : Noise last)
    {t : Transport} (steady : t.Steady) (received : stream messages last = .ok t.feed.bytes)
    (s : Scanner) :
    (s.cycles sizes t).map (·.result) =
        (messages.map (·.2.event sizes)).map .ok ++ [.error .connectionClosed] ∧
      (s.cycles sizes t).getLast?.map (·.scanner) =
        some ⟨.seekingMarker, ((messages.map (·.2.event sizes)).foldl Stats.count s.stats).skip
          ((messages.flatMap Prod.fst).length + last.length)⟩ := by
  have fits := fits_messages fitting clean cleanLast
  have bytes : t.feed.bytes = Cut.bytes ⟨pieces messages, last, []⟩ := by
    rw [stream_eq] at received
    simpa [Cut.bytes] using (Except.ok.inj received).symm
  have skipped : Cut.skipped ⟨pieces messages, last, []⟩ =
      (messages.flatMap Prod.fst).length + last.length := by
    simp [Cut.skipped, pieces, List.flatMap_map]
  obtain ⟨results, scanner⟩ := cycles_of_fits fits s
  obtain ⟨sameResults, sameScanners⟩ := steady.cycles sizes s
  rw [← bytes] at results scanner
  refine ⟨sameResults.trans results, ?_⟩
  rw [← List.getLast?_map, sameScanners, List.getLast?_map, scanner, skipped]

/-- What is counted over some messages. -/
theorem foldl_count_event (messages : List (List UInt8 × Message)) (stats : Stats) :
    (messages.map (·.2.event sizes)).foldl Stats.count stats =
      { stats with
        frames := stats.frames + messages.countP (·.2.known sizes)
        unknownCommand := stats.unknownCommand + messages.countP (!·.2.known sizes) } := by
  induction messages generalizing stats with
  | nil => rfl
  | cons p messages ih =>
    rw [List.map_cons, List.foldl_cons, ih, Message.event]
    cases known : p.2.known sizes
    · simp [known, Stats.count, Nat.add_assoc, Nat.add_comm 1]
    · simp [known, Stats.count, Nat.add_assoc, Nat.add_comm 1]

end Scan

end SerialLink
