import SerialLink.Engine.Config
import SerialLink.Engine.Session
import SerialLink.Host.Place
import SerialLink.Transport.Link

/-!
# Engines

An engine owns one link at a time. While a worker receives, the link stays and the table of handlers
is fixed; it stays fixed ever after. A worker that has ended is collected once, by whatever asks for
it first, and only one that ended without a panic leaves a report. Closing a link that a worker waits
on ends the wait.
-/

namespace SerialLink

/-- The worker of an engine. -/
inductive Engine.Worker where
  | absent
  | running (session : Session)
  /-- told to stop, and about to end with this report -/
  | ending (report : Session.Report)
  | finished (report : Session.Report)
  | panicked
  deriving DecidableEq, Repr

/-- An engine with the links it has met, by number, and the state that its handlers act on. -/
structure Engine (σ : Type) where
  state : σ
  config : EngineConfig := {}
  table : Dispatch.Table σ := {}
  /-- the table takes no more registrations -/
  frozen : Bool := false
  links : List Link := []
  attached : Option Nat := none
  /-- the link on which the engine sends -/
  writer : Option Nat := none
  connected : Bool := false
  worker : Engine.Worker := .absent
  lastReport : Option Session.Report := none

namespace Engine

variable {σ : Type}

/-- The link with a number. -/
def link? (e : Engine σ) (id : Nat) : Option Link :=
  e.links[id]?

/-- The engine with a link changed. -/
def updateLink (e : Engine σ) (id : Nat) (f : Link → Link) : Engine σ :=
  { e with links := e.links.modify id f }

/-- The engine with its end of a link closed. -/
def closeLink (e : Engine σ) (id : Nat) : Engine σ :=
  e.updateLink id (·.close .near)

/-- A link that the engine has not met before, with its number. -/
def meet (e : Engine σ) (l : Link) : Nat × Engine σ :=
  (e.links.length, { e with links := e.links ++ [l] })

/-! ## Registration -/

/-- Changes the table while it takes registrations. -/
def register (e : Engine σ) (f : Dispatch.Table σ → Except Dispatch.Fault (Dispatch.Table σ)) :
    Except Dispatch.Fault Unit × Engine σ :=
  if e.frozen then (.error .registrationClosed, e)
  else match f e.table with
    | .error fault => (.error fault, e)
    | .ok table => (.ok (), { e with table := table })

/-! ## The worker -/

/-- A worker is there and has not ended. -/
def receiving (e : Engine σ) : Bool :=
  match e.worker with
  | .running _ | .ending _ => true
  | _ => false

/-- The engine behind the end of its worker's session. -/
def afterSession (e : Engine σ) (report : Session.Report) : Engine σ :=
  let e := match e.attached with
    | some id => e.closeLink id
    | none => e
  { e with worker := .finished report, connected := false }

/-- The attached link and its number. -/
def attachedLink? (e : Engine σ) : Option (Nat × Link) := do
  let id ← e.attached
  let link ← e.link? id
  return (id, link)

/-- The engine after its worker went on as far as it can without waiting. -/
def settle (e : Engine σ) : Engine σ :=
  match e.worker, e.attachedLink? with
  | .running session, some (id, link) =>
    let n := session.run e.table e.config.maxReadErrors.toNat Session.unstopped link.near e.state
    let e := { e.updateLink id ({ · with near := n.transport }) with state := n.state }
    match n.progress with
    | .going session => { e with worker := .running session }
    | .ended report => e.afterSession report
    | .panicked => { e with worker := .panicked }
  | .ending report, _ => e.afterSession report
  | _, _ => e

/-- The report with which a session ends that is told to stop. A read that waits is met by the end
of its transport; else the stop is seen before the next cycle. -/
def stoppedReport (e : Engine σ) (session : Session) (l : Link) : Session.Report :=
  let turn (signal : Session.Signal) (t : Transport) :=
    session.turn e.table e.config.maxReadErrors.toNat signal t e.state
  match turn {} l.near with
  | some _ => session.report .stopped
  | none =>
    match turn ⟨false, true⟩ { l.near with feed := l.near.feed ++ [.closed] } with
    | some ⟨.ended report, _, _⟩ => report
    | _ => session.report .stopped

/-- Collects the worker if it has ended. -/
def collect (e : Engine σ) : Except Dispatch.Fault Unit × Engine σ :=
  match e.worker with
  | .finished report => (.ok (), { e with worker := .absent, lastReport := some report })
  | .panicked => (.error .workerPanicked, { e with worker := .absent })
  | _ => (.ok (), e)

/-- Collects the worker if it has ended, and goes on unless it panicked or is still there. -/
def unlessReceiving {α : Type} (e : Engine σ)
    (next : Engine σ → Except Dispatch.Fault α × Engine σ) : Except Dispatch.Fault α × Engine σ :=
  match e.collect with
  | (.error fault, e) => (.error fault, e)
  | (.ok (), e) =>
    match e.worker with
    | .absent => next e
    | _ => (.error .alreadyReceiving, e)

/-! ## Links -/

/-- Attaches a link, which must be open, and closes the one that was attached before. -/
def connect (e : Engine σ) (id : Nat) : Except Dispatch.Fault Unit × Engine σ :=
  e.unlessReceiving fun e =>
    match e.link? id with
    | none => (.error (.transport .closed), e)
    | some link =>
      if link.near.isOpen then
        let e := match e.attached with
          | some previous => e.closeLink previous
          | none => e
        (.ok (), { e with attached := some id, writer := some id, connected := true })
      else (.error (.transport .closed), e)

/-- Opens the device of a configuration and attaches it. -/
def connectLine (e : Engine σ) (host : Host) (c : LineConfig) :
    Except Dispatch.Fault Unit × Engine σ :=
  match host.openLine c with
  | .error fault => (.error (.transport fault), e)
  | .ok _ =>
    let (id, e) := e.meet (Link.line c.device)
    e.connect id

/-- Starts the worker and fixes the table. -/
def start (e : Engine σ) : Except Dispatch.Fault Unit × Engine σ :=
  e.unlessReceiving fun e =>
    if e.attached.isSome && e.connected then
      (.ok (), { e with frozen := true, worker := .running {} })
    else (.error .notConnected, e)

/-- Tells the worker to stop and closes the link. -/
def stop (e : Engine σ) : Engine σ :=
  let worker := match e.worker, e.attachedLink? with
    | .running session, some (_, link) => .ending (e.stoppedReport session link)
    | worker, _ => worker
  let e := match e.attached with
    | some id => e.closeLink id
    | none => e
  { e with worker := worker, connected := false }

/-- Stops, waits for the worker and lets go of the link. -/
def close (e : Engine σ) : Except Dispatch.Fault Unit × Engine σ :=
  let (joined, e) := e.stop.settle.collect
  (joined, { e with attached := none, writer := none })

/-- The report of the worker once it has ended; `none` while it has to be waited for. -/
def join (e : Engine σ) : Option (Except Dispatch.Fault Session.Report × Engine σ) :=
  match e.worker with
  | .absent => some (.error .notReceiving, e)
  | .running _ | .ending _ => none
  | .finished report => some (.ok report, e.collect.2)
  | .panicked => some (.error .workerPanicked, e.collect.2)

/-! ## Sending -/

/-- Sends a body as one frame on the link with a number. -/
def sendRawOn (e : Engine σ) (id : Nat) (command : UInt16) (body : List UInt8) :
    Except Wire.Fault Nat × Engine σ :=
  match e.link? id with
  | none => (.error .connectionClosed, e)
  | some link =>
    let (result, link) := link.sendRaw .near command body
    (result, e.updateLink id fun _ => link)

/-- Sends a body as one frame. -/
def requestRaw (e : Engine σ) (command : UInt16) (body : List UInt8) :
    Except Dispatch.Fault Nat × Engine σ :=
  match e.writer with
  | none => (.error .notConnected, e)
  | some id =>
    let (result, e) := e.sendRawOn id command body
    (result.mapError .frame, e)

/-- Sends a message as one frame. -/
def request (e : Engine σ) (m : Message) : Except Dispatch.Fault Nat × Engine σ :=
  e.requestRaw m.kind.command m.body

/-! ## In words -/

/-- A truth value in words. -/
def truth (b : Bool) : String :=
  if b then "true" else "false"

/-- An engine in words. -/
def described (e : Engine σ) : String :=
  let transport := match e.attachedLink? with
    | some (_, link) => "Some(" ++ link.near.summary ++ ")"
    | none => "None"
  "RpcEngine \x7b config: " ++ e.config.described ++ ", transport: " ++ transport ++
    ", connected: " ++ truth e.connected ++ ", receiving: " ++ truth e.receiving ++ ", .. \x7d"

end Engine

end SerialLink
