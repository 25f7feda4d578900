import SerialLink.Command.Link
import SerialLink.Command.Outcome
import SerialLink.Display.Record

/-!
# Simulation

`simulate` acts as a device with two variables: it names them and then sends their values round by
round, a sine and a cosine of the time since it began.
-/

namespace SerialLink.Simulation

/-- A simulated variable: its number, its name and its value over seconds. -/
structure Wave where
  id : UInt16
  name : String
  value : Float32 → Float32

/-- The variables of the device. -/
def waves : List Wave := [
  ⟨1, "Foo", fun s => 50.0 * Float32.sin (s * 40.0) + 10.0⟩,
  ⟨2, "Bar", fun s => 10.0 * Float32.cos (s * 20.0) + 10.0⟩]

/-- The messages that name the variables. -/
def labels : List Message :=
  waves.map fun w => .label w.id (.ofText w.name)

/-- The messages of a round at a time. -/
def round (seconds : Float32) : List Message :=
  waves.map fun w => .update w.id ⟨(w.value seconds).toBits⟩

/-- Sends messages, and counts the bytes. -/
def sendAll (e : Engine Unit) (messages : List Message) : Except Dispatch.Fault (Nat × Engine Unit) :=
  messages.foldlM
    (fun (bytes, e) m =>
      let (result, e) := e.request m
      result.map fun n => (bytes + n, e))
    (0, e)

/-- What a simulation did. -/
structure Summary where
  endpoint : String
  rounds : Nat
  bytes : Nat
  deriving DecidableEq, Repr

namespace Summary

/-- How many values were sent. -/
def updates (s : Summary) : Nat :=
  s.rounds * waves.length

/-- A summary as it is shown. -/
def shown (s : Summary) : Format → String
  | .json => Format.line (Document.record [("type", .text "simulate-summary"),
      ("endpoint", .text s.endpoint), ("aliases", .number waves.length),
      ("updates", .number s.updates), ("bytes", .number s.bytes)]).render
  | _ => Format.line (s.endpoint ++ ": sent " ++ toString waves.length ++ " aliases and " ++
      toString s.updates ++ " updates (" ++ toString s.bytes ++ " bytes)")

end Summary

end SerialLink.Simulation

namespace SerialLink.Command

open Simulation in
/-- Sends as many rounds as asked for, but at most `limit`; `elapsed` tells the time of each. -/
def runSimulate (host : Host) (elapsed : Nat → Float32) (limit : Nat) (format : Format)
    (link : LinkArguments) (count : Option Nat) : Except Failure Outcome := do
  let (endpoint, e) ← link.attach host { state := () }
  let rounds := min (count.getD limit) limit
  let messages := labels ++ (List.range rounds).flatMap fun n => round (elapsed n)
  let (bytes, e) ← (sendAll e messages).mapError (Failure.ofCall "send failed")
  let sent := (e.attachedLink?.map fun (_, l) => l.near.sent).getD []
  let (closed, _) := e.close
  closed.mapError (Failure.ofCall "close failed")
  return { output := (Summary.mk endpoint rounds bytes).shown format, sent := sent }

end SerialLink.Command
