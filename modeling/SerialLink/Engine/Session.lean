import SerialLink.Dispatch.Table
import SerialLink.Scan.Cycle

/-!
# Receive sessions

A session scans a transport and calls the handler of each frame, until it is told to stop, the
transport yields no more, or too many reads in a row have failed inside frames. A frame or any other
drop starts that count anew; a handler that fails is counted and ends nothing, one that panics ends
the session without a report.
-/

namespace SerialLink

/-- Why a session ended. -/
inductive Session.Exit where
  | stopped
  | connectionLost (reason : String)
  | tooManyReadErrors (count : Nat)
  deriving DecidableEq, Repr

/-- An exit in words. -/
def Session.Exit.text : Exit → String
  | stopped => "stopped"
  | connectionLost reason => "connection lost: " ++ reason
  | tooManyReadErrors count => toString count ++ " consecutive read errors"

/-- What a session did. -/
structure Session.Report where
  stats : Scan.Stats
  handlerFailures : Nat
  exit : Exit
  deriving DecidableEq, Repr

/-- A session between two cycles. -/
structure Session where
  scanner : Scanner := {}
  /-- reads in a row that failed inside frames -/
  readErrors : Nat := 0
  handlerFailures : Nat := 0
  deriving DecidableEq, Repr

namespace Session

/-- The report of a session that ends here. -/
def report (s : Session) (exit : Exit) : Report :=
  ⟨s.scanner.stats, s.handlerFailures, exit⟩

/-- Whether a stop is seen before a cycle, and whether behind one that found the transport at its
end. -/
structure Signal where
  before : Bool := false
  behind : Bool := false
  deriving DecidableEq, Repr

/-- Where a session is after a cycle. -/
inductive Progress where
  | going (session : Session)
  | ended (report : Report)
  | panicked
  deriving DecidableEq, Repr

/-- What a cycle leaves of a session, its transport and the state of the handlers. -/
structure Turn (σ : Type) where
  progress : Progress
  transport : Transport
  state : σ

/-- The progress of a session whose cycle has ended with an event other than a frame. -/
def afterDiscard (limit : Nat) (s : Session) : Scan.Discard → Progress
  | .readFailed .. =>
    let errors := s.readErrors + 1
    if limit < errors then .ended (s.report (.tooManyReadErrors errors))
    else .going { s with readErrors := errors }
  | _ => .going { s with readErrors := 0 }

/-- The progress of a session whose handler has replied. -/
def afterReply (s : Session) : Dispatch.Reply → Progress
  | .done => .going { s with readErrors := 0 }
  | .failed _ => .going { s with readErrors := 0, handlerFailures := s.handlerFailures + 1 }
  | .panicked => .panicked

/-- One cycle, with the call of the frame's handler if there is a frame. `none` when the cycle has
to wait. -/
def turn {σ : Type} (table : Dispatch.Table σ) (limit : Nat) (signal : Signal) (s : Session)
    (t : Transport) (state : σ) : Option (Turn σ) :=
  if signal.before then some ⟨.ended (s.report .stopped), t, state⟩
  else (s.scanner.step table.sizes t).map fun c =>
    let s := { s with scanner := c.scanner }
    match c.result with
    | .ok (.frame frame) =>
      let (reply, state) := table.dispatch frame state
      ⟨s.afterReply reply, c.transport, state⟩
    | .ok (.discarded reason) => ⟨s.afterDiscard limit reason, c.transport, state⟩
    | .error fault =>
      let exit := if signal.behind then .stopped else .connectionLost fault.message
      ⟨.ended (s.report exit), c.transport, state⟩

/-- A session that goes on has taken something from the feed. -/
theorem length_bytes_turn {σ : Type} {table : Dispatch.Table σ} {limit : Nat} {signal : Signal}
    {s s' : Session} {t : Transport} {state : σ} {n : Turn σ}
    (h : s.turn table limit signal t state = some n) (hg : n.progress = .going s') :
    n.transport.feed.bytes.length < t.feed.bytes.length := by
  unfold turn at h
  split at h
  · cases h
    simp at hg
  · obtain ⟨c, hc, rfl⟩ := Option.map_eq_some_iff.1 h
    cases hr : c.result with
    | error fault => simp [hr] at hg
    | ok event =>
      have := Scanner.length_bytes_step hc hr
      cases event with
      | frame frame => simpa [hr] using this
      | discarded reason => simpa [hr] using this

/-- Turns until the session ends or has to wait, the n-th of them under the n-th signal. -/
def run {σ : Type} (table : Dispatch.Table σ) (limit : Nat) (signals : Nat → Signal) (s : Session)
    (t : Transport) (state : σ) : Turn σ :=
  match _ : s.turn table limit (signals 0) t state with
  | none => ⟨.going s, t, state⟩
  | some n =>
    match _ : n.progress with
    | .going s => run table limit (fun k => signals (k + 1)) s n.transport n.state
    | _ => n
termination_by t.feed.bytes.length
decreasing_by exact length_bytes_turn (by assumption) (by assumption)

/-- The signals of a session that nobody stops. -/
def unstopped : Nat → Signal := fun _ => {}

end Session

end SerialLink
