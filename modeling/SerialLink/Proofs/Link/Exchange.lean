import Mathlib.Logic.Function.Basic
import Mathlib.Logic.Relation
import SerialLink.Proofs.Scan.Flowing
import SerialLink.Proofs.Message.Stream
import SerialLink.Transport.Link

/-!
# Several writers on one end of a link

Any number of writers send on the device's end of a stream, while a scanner runs on the host's. A
call encodes its frame on its own and then waits for the lock of the transport. Who holds the lock
writes the frame in portions, as the stream takes them, and gives the lock back when all of it is
written or a portion could not be. `Exchange.Step` has these events one at a time, of any writer and
between any two cycles of the host; the device's end may be closed at any point.
-/

namespace SerialLink

/-- A call that sends a frame. -/
inductive Sending where
  | message (m : Message)
  | raw (command : UInt16) (body : List UInt8)

namespace Sending

/-- What the call asks to be sent. -/
def request : Sending → Wire.Request
  | message m => m.request
  | raw command body => ⟨command, body.length, body⟩

/-- The frame of the call, as bytes. -/
def encode : Sending → Except Wire.Fault (List UInt8)
  | message m => m.encode
  | raw command body => Wire.encode command body.length body []

theorem length_body (call : Sending) : call.request.body.length = call.request.expected := by
  cases call with
  | message m => exact m.length_body
  | raw command body => rfl

/-- A call is refused exactly for a body that no frame can hold. -/
theorem encode_eq (call : Sending) :
    call.encode =
      if Wire.maxBody < call.request.body.length then
        .error (.bodyTooLarge call.request.body.length Wire.maxBody)
      else .ok call.request.bytes := by
  have outcome : call.encode =
      (call.request.append []).1.map fun _ => (call.request.append []).2 := by
    cases call <;> rfl
  rw [outcome]
  split
  · next large =>
    rw [Wire.append_of_large large]
    rfl
  · next fits =>
    rw [Wire.append_of_accepted ⟨Nat.not_lt.1 fits, call.length_body⟩]
    rfl

theorem length_bytes (call : Sending) :
    call.request.bytes.length = Wire.overhead + call.request.body.length :=
  Wire.length_frameBytes _ _

theorem bytes_ne_nil (call : Sending) : call.request.bytes ≠ [] := by
  rw [← List.length_pos_iff, call.length_bytes]
  exact Nat.add_pos_left (by decide) _

theorem length_pos_of_encode {bytes : List UInt8} (call : Sending)
    (encoded : call.encode = .ok bytes) : 0 < bytes.length := by
  rw [call.encode_eq] at encoded
  split at encoded
  · cases encoded
  · cases encoded
    exact List.length_pos_iff.2 call.bytes_ne_nil

/-- What the call does on a link that nobody else sends on. -/
def perform (l : Link) : Sending → Except Wire.Fault Nat × Link
  | message m => l.send .far m
  | raw command body => l.sendRaw .far command body

/-- Either way of sending encodes first and then writes. -/
theorem perform_eq (l : Link) (call : Sending) :
    call.perform l =
      match call.encode with
      | .error fault => (.error fault, l)
      | .ok bytes =>
        match l.write .far bytes with
        | (.error fault, l) => (.error (.ofTransport fault), l)
        | (.ok n, l) => (.ok n, l) := by
  cases call with
  | message m =>
    have same : (message m).encode = (raw m.kind.command m.body).encode := by
      simp only [encode, Message.encode, m.length_body]
    rw [same]
    rfl
  | raw command body => rfl

/-- The host does not know the command, or knows it with the length of the body. -/
def Fits (sizes : CommandSizes) (call : Sending) : Prop :=
  sizes call.request.command = none ∨
    sizes call.request.command = some call.request.body.length

end Sending

/-- Where a writer is. -/
inductive Writer where
  | idle
  /-- it has encoded the frame of a call and waits for the lock -/
  | waiting (call : Sending) (bytes : List UInt8)
  /-- it holds the lock; so many bytes of the frame are written and these are left -/
  | writing (call : Sending) (written : Nat) (rest : List UInt8)

/-- A host that scans, and writers by number that share the other end of its link. -/
structure Exchange where
  link : Link := .pair
  writers : Nat → Writer := fun _ => .idle
  /-- the writer that holds the lock -/
  holder : Option Nat := none
  /-- what the calls came back with, in order -/
  returned : List (Sending × Except Wire.Fault Nat) := []
  scanner : Scanner := {}
  /-- what the host's cycles ended with, in order -/
  obtained : List (Except Wire.Fault Scan.Event) := []

theorem Link.write_of_error {l l' : Link} {e : End} {bytes : List UInt8}
    {fault : Transport.Fault} (failed : l.write e bytes = (.error fault, l')) : l' = l := by
  unfold Link.write at failed
  split at failed
  · cases failed
    rfl
  · cases failed

namespace Exchange

/-- The exchange with a writer changed. -/
def set (e : Exchange) (w : Nat) (writer : Writer) : Exchange :=
  { e with writers := Function.update e.writers w writer }

/-- The exchange in which the call of a writer has come back. -/
def back (e : Exchange) (w : Nat) (call : Sending) (result : Except Wire.Fault Nat) : Exchange :=
  { e.set w .idle with returned := e.returned ++ [(call, result)] }

/-- One event of an exchange. -/
inductive Step (sizes : CommandSizes) : Exchange → Exchange → Prop where
  /-- a call whose frame cannot be encoded comes back at once -/
  | refuses {e : Exchange} {w : Nat} {call : Sending} {fault : Wire.Fault}
      (idle : e.writers w = .idle) (refused : call.encode = .error fault) :
      Step sizes e (e.back w call (.error fault))
  | asks {e : Exchange} {w : Nat} {call : Sending} {bytes : List UInt8}
      (idle : e.writers w = .idle) (encoded : call.encode = .ok bytes) (fits : call.Fits sizes) :
      Step sizes e (e.set w (.waiting call bytes))
  /-- a transport that is found closed is not waited for -/
  | turnsAway {e : Exchange} {w : Nat} {call : Sending} {bytes : List UInt8}
      {fault : Transport.Fault} (waiting : e.writers w = .waiting call bytes)
      (closed : (e.link.write .far bytes).1 = .error fault) :
      Step sizes e (e.back w call (.error (.ofTransport fault)))
  | locks {e : Exchange} {w : Nat} {call : Sending} {bytes : List UInt8}
      (waiting : e.writers w = .waiting call bytes) (free : e.holder = none) :
      Step sizes e { e.set w (.writing call 0 bytes) with holder := some w }
  /-- the stream takes some of what is left -/
  | puts {e : Exchange} {w written n taken : Nat} {call : Sending} {rest : List UInt8}
      {link : Link} (writing : e.writers w = .writing call written rest) (positive : 0 < n)
      (most : n ≤ rest.length) (put : e.link.write .far (rest.take n) = (.ok taken, link)) :
      Step sizes e { e.set w (.writing call (written + taken) (rest.drop n)) with link := link }
  | breaksOff {e : Exchange} {w written n : Nat} {call : Sending} {rest : List UInt8}
      {fault : Transport.Fault} (writing : e.writers w = .writing call written rest)
      (positive : 0 < n) (most : n ≤ rest.length)
      (closed : (e.link.write .far (rest.take n)).1 = .error fault) :
      Step sizes e { e.back w call (.error (.ofTransport fault)) with holder := none }
  | returns {e : Exchange} {w written : Nat} {call : Sending}
      (writing : e.writers w = .writing call written []) :
      Step sizes e { e.back w call (.ok written) with holder := none }
  /-- a cycle of the host -/
  | scans {e : Exchange} {c : Scan.Cycle} (step : e.scanner.step sizes e.link.near = some c) :
      Step sizes e { e with
        link := { e.link with near := c.transport }
        scanner := c.scanner
        obtained := e.obtained ++ [c.result] }
  /-- the device's end is closed -/
  | closes {e : Exchange} : Step sizes e { e with link := e.link.close .far }

/-- What an exchange can come to. -/
def Steps (sizes : CommandSizes) : Exchange → Exchange → Prop :=
  Relation.ReflTransGen (Step sizes)

/-! ### Calls one at a time -/

section Undisturbed

variable {sizes : CommandSizes} {e : Exchange} {w : Nat} {call : Sending} {bytes : List UInt8}

theorem Steps.turnedAway {fault : Transport.Fault} (fits : call.Fits sizes)
    (idle : e.writers w = .idle) (encoded : call.encode = .ok bytes)
    (closed : (e.link.write .far bytes).1 = .error fault) :
    Steps sizes e { e with returned := e.returned ++ [(call, .error (.ofTransport fault))] } := by
  let e₁ : Exchange := e.set w (.waiting call bytes)
  have asked : Step sizes e e₁ := .asks idle encoded fits
  have waiting : e₁.writers w = .waiting call bytes := Function.update_self ..
  have turned : Step sizes e₁ (e₁.back w call (.error (.ofTransport fault))) :=
    .turnsAway waiting closed
  have same : e₁.back w call (.error (.ofTransport fault)) =
      { e with returned := e.returned ++ [(call, .error (.ofTransport fault))] } := by
    simp [e₁, back, set, ← idle]
  rw [same] at turned
  exact .head asked (.single turned)

theorem Steps.written {n : Nat} {link : Link} (fits : call.Fits sizes)
    (idle : e.writers w = .idle) (free : e.holder = none) (encoded : call.encode = .ok bytes)
    (put : e.link.write .far bytes = (.ok n, link)) :
    Steps sizes e { e with link := link, returned := e.returned ++ [(call, .ok n)] } := by
  let e₁ : Exchange := e.set w (.waiting call bytes)
  let e₂ : Exchange := { e₁.set w (.writing call 0 bytes) with holder := some w }
  let e₃ : Exchange := { e₂.set w (.writing call (0 + n) []) with link := link }
  have asked : Step sizes e e₁ := .asks idle encoded fits
  have waiting : e₁.writers w = .waiting call bytes := Function.update_self ..
  have locked : Step sizes e₁ e₂ := .locks waiting free
  have writing : e₂.writers w = .writing call 0 bytes := Function.update_self ..
  have all : e₂.link.write .far (bytes.take bytes.length) = (.ok n, link) := by
    rw [List.take_length]
    exact put
  have taken : Step sizes e₂ _ :=
    .puts writing (call.length_pos_of_encode encoded) (Nat.le_refl _) all
  rw [List.drop_length] at taken
  have done : e₃.writers w = .writing call (0 + n) [] := Function.update_self ..
  have returned : Step sizes e₃ { e₃.back w call (.ok (0 + n)) with holder := none } :=
    .returns done
  have same : { e₃.back w call (.ok (0 + n)) with holder := none } =
      { e with link := link, returned := e.returned ++ [(call, .ok n)] } := by
    simp [e₃, e₂, e₁, back, set, ← idle, free]
  rw [same] at returned
  exact .head asked (.head locked (.head taken (.single returned)))

/-- A call that nobody disturbs does what sending on the link does. -/
theorem Steps.perform (fits : call.Fits sizes) (idle : e.writers w = .idle)
    (free : e.holder = none) :
    Steps sizes e { e with
      link := (call.perform e.link).2
      returned := e.returned ++ [(call, (call.perform e.link).1)] } := by
  rw [call.perform_eq]
  cases encoded : call.encode with
  | error fault =>
    have refused : Step sizes e (e.back w call (.error fault)) := .refuses idle encoded
    have same : e.back w call (.error fault) =
        { e with returned := e.returned ++ [(call, .error fault)] } := by
      simp [back, set, ← idle]
    rw [same] at refused
    exact .single refused
  | ok bytes =>
    cases put : e.link.write .far bytes with
    | mk result link =>
      cases result with
      | error fault =>
        obtain rfl := Link.write_of_error put
        simp only [put]
        exact .turnedAway fits idle encoded (congrArg Prod.fst put)
      | ok n =>
        simp only [put]
        exact .written fits idle free encoded put

end Undisturbed

end Exchange

end SerialLink
