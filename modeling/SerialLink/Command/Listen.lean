import SerialLink.Command.Link
import SerialLink.Command.Outcome
import SerialLink.Command.Tap
import SerialLink.Display.Summary

/-!
# Listening

`listen` shows messages as they come, until enough were shown, nothing came for too long, or the
worker ended. It waits for a record for one poll at a time; a poll that brings none looks at the
worker, which may have kept more records and ended since.
-/

namespace SerialLink.Listen

/-- What one poll brings. -/
inductive Poll where
  | record (r : Record)
  /-- no record in time; what was kept before the worker was looked at, whether it has ended, and
  whether the last record is too long ago -/
  | quiet (late : List Record) (ended overdue : Bool)
  deriving DecidableEq, Repr

/-- Why listening ends. -/
inductive Finish where
  | done
  | idle (limit : Nat)
  | workerEnded
  deriving DecidableEq, Repr

/-- Enough records have been shown. -/
def enough (count : Option Nat) (shown : Nat) : Bool :=
  count.any (· ≤ shown)

/-- The records shown over some polls, of which `shown` were before, and why listening ends. Where
the polls end, the program is interrupted. -/
def receive (count idle : Option Nat) : Nat → List Poll → List Record × Finish
  | _, [] => ([], .done)
  | shown, poll :: polls =>
    if enough count shown then ([], .done)
    else match poll with
      | .record r =>
        let (records, finish) := receive count idle (shown + 1) polls
        (r :: records, finish)
      | .quiet late ended overdue =>
        if ended then (late, .workerEnded)
        else match idle with
          | some limit => if overdue then ([], .idle limit) else receive count idle shown polls
          | none => receive count idle shown polls

/-- The polls of a worker that has done all it can without waiting: its records, and then nothing. -/
def settledPolls (e : Engine Tap) : List Poll :=
  e.state.records.map .record ++ [.quiet [] (!e.receiving) true]

/-- The failure that a finish is, if it is one. -/
def failureOf (endpoint : String) (report : Option Session.Report) : Finish → Option Failure
  | .done => none
  | .idle limit =>
    some ⟨Failure.late, "no message from " ++ endpoint ++ " within " ++ toString limit ++ "ms"⟩
  | .workerEnded =>
    match report.map Session.Report.exit with
    | none | some .stopped => none
    | some exit => some (.within endpoint Failure.unreachable exit.text)

end SerialLink.Listen

namespace SerialLink.Command

open Listen in
/-- Shows messages as they come, then the series and the report. -/
def runListen (host : Host) (clock : Nat → UInt64) (format : Format) (link : LinkArguments)
    (count idle : Option Nat) : Except Failure Outcome := do
  let table ← Tap.table
  let e : Engine Tap := { state := { clock := clock }, table := table }
  let (endpoint, e) ← link.attach host e
  let (started, e) := e.start
  started.mapError (Failure.ofCall "start failed")
  let e := e.settle
  let (records, finish) := receive count idle 0 (settledPolls e)
  let shown := String.join (records.map (·.shown format))
  let (closed, e) := e.close
  match closed with
  | .error fault => return .failed (.ofCall "close failed" fault) shown
  | .ok () =>
    let report := (e.lastReport.map (·.shown endpoint format)).getD ""
    let output := shown ++ e.state.store.shown format ++ report
    match failureOf endpoint e.lastReport finish with
    | some failure => return .failed failure output
    | none => return { output := output }

end SerialLink.Command
