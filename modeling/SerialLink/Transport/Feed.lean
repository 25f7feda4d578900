import SerialLink.Transport.Fault

/-!
# Feeds

A feed is what the reading side of a transport will meet, in order: bytes, calls that come back
without any, failures, ends, and the moments at which the owner closes the transport.
-/

namespace SerialLink

/-- One thing that a reader meets. -/
inductive Feed.Event where
  /-- bytes that are ready; one call takes no more than it asks for and no more than these -/
  | data (bytes : List UInt8)
  /-- a call is broken off before it took anything -/
  | interrupted
  /-- the waiting period of a call passes without a byte -/
  | idle
  /-- a call fails -/
  | failed (cause : IoFailure)
  /-- a call finds the end of the stream -/
  | ended
  /-- the owner closes the transport, while a call may be under way -/
  | closed
  deriving DecidableEq, Repr

/-- What a reader will meet, in order. -/
abbrev Feed := List Feed.Event

namespace Feed

/-- The bytes of an event. -/
def Event.bytes : Event → List UInt8
  | data bytes => bytes
  | _ => []

/-- All bytes of a feed, in order. -/
def bytes (feed : Feed) : List UInt8 :=
  feed.flatMap Event.bytes

/-- A feed that holds some bytes and nothing else. -/
def ofBytes (bytes : List UInt8) : Feed :=
  if bytes = [] then [] else [.data bytes]

/-- The feed with bytes in front that were left over from a chunk. -/
def cons (bytes : List UInt8) (feed : Feed) : Feed :=
  ofBytes bytes ++ feed

/-- The feed with bytes behind it. -/
def snoc (feed : Feed) (bytes : List UInt8) : Feed :=
  feed ++ ofBytes bytes

@[simp] theorem bytes_nil : bytes [] = [] := rfl

@[simp] theorem bytes_append (a b : Feed) : bytes (a ++ b) = bytes a ++ bytes b := by
  simp [bytes]

@[simp] theorem bytes_ofBytes (b : List UInt8) : bytes (ofBytes b) = b := by
  unfold ofBytes bytes
  split <;> simp_all [Event.bytes]

@[simp] theorem bytes_cons_data (b : List UInt8) (feed : Feed) :
    bytes (.data b :: feed) = b ++ bytes feed := by
  simp [bytes, Event.bytes]

@[simp] theorem bytes_cons (b : List UInt8) (feed : Feed) : bytes (cons b feed) = b ++ bytes feed := by
  simp [cons]

@[simp] theorem bytes_snoc (feed : Feed) (b : List UInt8) : bytes (snoc feed b) = bytes feed ++ b := by
  simp [snoc]

end Feed

end SerialLink
