import SerialLink.Message.Codec
import SerialLink.Transport.Basic

/-!
# Links

A link is a transport together with what faces it. What one end writes is delivered to the other.
Closing an end of a stream ends both directions, though what was sent before is still read; closing a
serial port only closes the port, and when the device goes the line hangs up and what it held is
lost.
-/

namespace SerialLink

/-- The two ends of a link: the near one belongs to the program. -/
inductive Link.End where
  | near | far
  deriving DecidableEq, Repr

/-- A transport and what faces it. -/
structure Link where
  near : Transport
  far : Transport
  deriving DecidableEq, Repr

namespace Link

/-- A capture, which nothing faces. -/
def capture (t : Transport) : Link :=
  ⟨t, (Transport.replay "" []).close⟩

/-- The two ends of a stream. -/
def pair : Link :=
  ⟨Transport.stream "pair:host", Transport.stream "pair:device"⟩

/-- A serial port and its device. -/
def line (name : String) : Link :=
  ⟨Transport.serial name, Transport.stream "device"⟩

/-- The transport at an end. -/
def endpoint (l : Link) : End → Transport
  | .near => l.near
  | .far => l.far

/-- The other end. -/
def End.other : End → End
  | near => far
  | far => near

/-- The link with an end changed. -/
def update (l : Link) (e : End) (f : Transport → Transport) : Link :=
  match e with
  | .near => { l with near := f l.near }
  | .far => { l with far := f l.far }

/-- Reads exactly `n` bytes at an end; `none` while they have not all arrived. -/
def read (l : Link) (e : End) (n : Nat) : Option (Except Transport.Fault (List UInt8) × Link) :=
  ((l.endpoint e).readExact n).map fun (result, t) => (result, l.update e fun _ => t)

/-- Writes all of some bytes at an end and delivers them to the other one. -/
def write (l : Link) (e : End) (bytes : List UInt8) : Except Transport.Fault Nat × Link :=
  match (l.endpoint e).writeAll bytes with
  | (.error fault, _) => (.error fault, l)
  | (.ok n, t) => (.ok n, (l.update e fun _ => t).update e.other (·.deliver bytes))

/-- Closes an end. -/
def close (l : Link) (e : End) : Link :=
  match l.near.kind, e with
  | .replay, _ => l.update e Transport.close
  | .stream, _ => (l.update e Transport.close |>.update .near Transport.hangUp).update .far Transport.hangUp
  | .serial, .near => l.update .near Transport.close
  | .serial, .far =>
    (l.update .far fun t => t.close.hangUp).update .near fun t => { t.hangUp with feed := [] }

/-- Sends a body under a command as one frame, written whole or not at all. -/
def sendRaw (l : Link) (e : End) (command : UInt16) (body : List UInt8) :
    Except Wire.Fault Nat × Link :=
  match Wire.encode command body.length body [] with
  | .error fault => (.error fault, l)
  | .ok bytes =>
    match l.write e bytes with
    | (.error fault, l) => (.error (.ofTransport fault), l)
    | (.ok n, l) => (.ok n, l)

/-- Sends a message as one frame. -/
def send (l : Link) (e : End) (m : Message) : Except Wire.Fault Nat × Link :=
  l.sendRaw e m.kind.command m.body

end Link

end SerialLink
