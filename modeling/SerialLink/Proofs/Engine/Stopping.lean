import SerialLink.Proofs.Engine.History
import SerialLink.Proofs.Engine.Turns
import SerialLink.Proofs.Scan.CutShort

/-!
# Stopping a worker from outside

A worker looks for the stop before each cycle and behind one that ends in an error, and the stop may
come between any two of these looks, together with the closing of the link or not. `Session.Halts`
says how a session then ends (`Takes.halts`). As long as cycles end with events, the session does
what the same session would do without the stop (`Reaches.of_cutShort`).
-/

namespace SerialLink

namespace Feed

/-- The owner closes the transport behind all that it meets. -/
theorem CutShort.behind {feed : Feed} (unclosed : feed.Unclosed) :
    feed.CutShort (feed ++ [.closed]) := by
  induction feed with
  | nil => exact .under []
  | cons e feed ih =>
    obtain ⟨other, later⟩ := unclosed_cons.1 unclosed
    exact .later e other (ih later)

end Feed

namespace Session

variable {σ : Type} {table : Dispatch.Table σ} {limit : Nat} {signal : Signal}
  {signals : Nat → Signal} {t t' u t₀ u₀ : Transport} {state initial : σ} {s : Session}
  {past taken : List Scan.Cycle} {c : Scan.Cycle} {n : Turn σ} {exit : Exit} {k : Nat}

/-! ## Stops -/

/-- A stop that can be seen is seen by all later looks. -/
structure Lasting (signals : Nat → Signal) : Prop where
  within : ∀ k, (signals k).before = true → (signals k).behind = true
  next : ∀ k, (signals k).behind = true → (signals (k + 1)).before = true

theorem Lasting.behind_of_le (lasting : Lasting signals) {j : Nat} (seen : (signals k).behind = true)
    (later : k ≤ j) : (signals j).behind = true := by
  induction later with
  | refl => exact seen
  | step _ ih => exact lasting.within _ (lasting.next _ ih)

/-- How a session ends that has taken some cycles, each under its signal. -/
inductive Halts (limit : Nat) (signals : Nat → Signal) : List Scan.Cycle → Exit → Prop where
  /-- the stop is seen before the next cycle -/
  | ahead {taken : List Scan.Cycle} (stop : (signals taken.length).before = true) :
      Halts limit signals taken .stopped
  /-- the last cycle ends in an error, and the stop is seen behind it -/
  | behind {front : List Scan.Cycle} {last : Scan.Cycle} {fault : Wire.Fault}
      (error : last.result = .error fault) (stop : (signals front.length).behind = true) :
      Halts limit signals (front ++ [last]) .stopped
  /-- the last cycle ends in an error, and no stop is seen behind it -/
  | lost {front : List Scan.Cycle} {last : Scan.Cycle} {fault : Wire.Fault}
      (error : last.result = .error fault) (untold : (signals front.length).behind = false) :
      Halts limit signals (front ++ [last]) (.connectionLost fault.message)
  /-- with the last cycle, more reads in a row have failed than allowed -/
  | exhausted {taken : List Scan.Cycle} (full : Scan.failuresAtEnd taken = limit + 1) :
      Halts limit signals taken (.tooManyReadErrors (limit + 1))

/-- A stop that can be seen by the end of a cycle is what the session ends with, unless the cycle
under way is one failure too many. -/
theorem Halts.exit_of_behind (halts : Halts limit signals taken exit) (lasting : Lasting signals)
    (took : k < taken.length) (stop : (signals k).behind = true) :
    exit = .stopped ∨
      exit = .tooManyReadErrors (limit + 1) ∧ Scan.failuresAtEnd taken = limit + 1 := by
  cases halts with
  | ahead | behind => exact .inl rfl
  | exhausted full => exact .inr ⟨rfl, full⟩
  | lost error untold =>
    rw [List.length_append, List.length_singleton] at took
    rw [lasting.behind_of_le stop (Nat.le_of_lt_succ took)] at untold
    cases untold

/-! ## The last turn -/

/-- The last turn of a session whose handlers do not panic calls none of them and ends the
session. -/
theorem Reaches.last_turn (calm : table.Calm)
    (reached : Reaches table limit signals t₀ initial past s t state)
    (untold : (signals past.length).before = false)
    (step : s.scanner.step table.sizes t = some c)
    (turned : s.turn table limit (signals past.length) t state = some n)
    (ends : ∀ s', n.progress ≠ .going s') :
    c.frame? = none ∧ n.state = state ∧ ∃ report, n.progress = .ended report ∧
      report.stats = c.scanner.stats ∧ Halts limit signals (past ++ [c]) report.exit := by
  cases result : c.result with
  | error fault =>
    have other : c.frame? = none := by simp [Scan.Cycle.frame?, result]
    obtain rfl := Option.some.inj (turned.symm.trans (turn_of_error untold step result))
    refine ⟨other, rfl, _, rfl, rfl, ?_⟩
    cases stop : (signals past.length).behind with
    | true => exact .behind result stop
    | false => exact .lost result stop
  | ok e =>
    rw [turn_of_event untold step result] at turned
    cases e with
    | frame f =>
      obtain ⟨s', state', goes, -⟩ := (reached.behind calm).frame
        (calm.calmOn [f] f (List.mem_singleton_self f)) step result
      obtain rfl := Option.some.inj (turned.symm.trans goes)
      exact absurd rfl (ends s')
    | discarded reason =>
      have other : c.frame? = none := by simp [Scan.Cycle.frame?, Scan.Event.frame?, result]
      rcases (reached.behind calm).discard step result with ⟨s', goes, -⟩ | ⟨full, ended⟩
      · obtain rfl := Option.some.inj (turned.symm.trans goes)
        exact absurd rfl (ends s')
      · rw [(reached.behind calm).ending_eq other] at ended
        obtain rfl := Option.some.inj (turned.symm.trans ended)
        exact ⟨other, rfl, _, rfl, rfl, .exhausted full⟩

/-- A session whose handlers do not panic has called those of its frames, and no others. -/
theorem Takes.state_eq (calm : table.Calm)
    (takes : Takes table limit signals t₀ initial taken n) :
    n.state = (table.dispatchAll (Scan.frames taken) initial).2 := by
  cases takes with
  | waits reached | told reached => exact (reached.behind calm).state
  | last reached untold step turned ends =>
    obtain ⟨other, same, -⟩ := reached.last_turn calm untold step turned ends
    rw [same, Scan.frames_snoc_of_none other]
    exact (reached.behind calm).state

theorem Takes.not_panicked (calm : table.Calm)
    (takes : Takes table limit signals t₀ initial taken n) : n.progress ≠ .panicked := by
  cases takes with
  | waits | told => simp
  | last reached untold step turned ends =>
    obtain ⟨-, -, report, ended, -⟩ := reached.last_turn calm untold step turned ends
    simp [ended]

/-- How a session ends whose handlers do not panic, and what it counts as frames. -/
theorem Takes.halts (calm : table.Calm) {report : Report}
    (takes : Takes table limit signals t₀ initial taken n) (ended : n.progress = .ended report) :
    Halts limit signals taken report.exit ∧
      report.stats.frames = (Scan.frames taken).length := by
  cases takes with
  | waits => cases ended
  | told reached stop =>
    cases ended
    exact ⟨.ahead stop, reached.frames⟩
  | last reached untold step turned ends =>
    obtain ⟨other, -, report', ended', stats, halts⟩ :=
      reached.last_turn calm untold step turned ends
    obtain rfl : report' = report := Progress.ended.inj (ended'.symm.trans ended)
    refine ⟨halts, ?_⟩
    rw [stats, Scan.frames_of_step step, other, Scan.frames_snoc_of_none other, reached.frames]
    rfl

/-- A session waits only for bytes that may still come, on a transport that nobody closes. -/
theorem Takes.unclosed_of_going {s' : Session}
    (takes : Takes table limit signals t₀ initial taken n) (going : n.progress = .going s') :
    t₀.live = true ∧ t₀.Unclosed := by
  cases takes with
  | told => cases going
  | last reached untold step turned ends => exact absurd going (ends s')
  | waits reached turned =>
    obtain ⟨live, unclosed⟩ := Scan.unclosed_of_step_eq_none (turn_eq_none_iff.1 turned).2
    exact ⟨reached.kept Scan.kept_live ▸ live, reached.kept Scan.kept_unclosed unclosed⟩

/-! ## Beside the session that nobody stops -/

/-- The same event has the same consequence over another transport. -/
theorem turn_of_same_event {e : Scan.Event} {progress : Progress} {state' : σ}
    (untold : signal.before = false) (step : s.scanner.step table.sizes u = some c)
    (ends : c.result = .ok e)
    (step' : s.scanner.step table.sizes t = some { c with transport := t' })
    (turned : s.turn table limit signal u state = some ⟨progress, c.transport, state'⟩) :
    s.turn table limit {} t state = some ⟨progress, t', state'⟩ := by
  cases e with
  | frame f =>
    obtain ⟨rfl, -, rfl⟩ := Turn.mk.inj (Option.some.inj
      (turned.symm.trans (turn_of_frame untold step ends)))
    exact turn_of_frame rfl step' ends
  | discarded reason =>
    obtain ⟨rfl, -, rfl⟩ := Turn.mk.inj (Option.some.inj
      (turned.symm.trans (turn_of_discard untold step ends)))
    exact turn_of_discard rfl step' ends

/-- Wherever a session comes that is told to stop, although its transport may be closed under way, it
would also come without that. -/
theorem Reaches.of_cutShort (cut : t₀.CutShort u₀)
    (reached : Reaches table limit signals u₀ initial past s u state) :
    ∃ past' t, Reaches table limit unstopped t₀ initial past' s t state ∧ t.CutShort u ∧
      past'.map (·.result) = past.map (·.result) := by
  induction reached with
  | start => exact ⟨[], t₀, .start, cut, rfl⟩
  | @more past c s s' u state state' reached step turned ih =>
    obtain ⟨past', t, reached', cut', same⟩ := ih
    obtain ⟨untold, -, e, ends⟩ := event_of_going step turned
    obtain ⟨t', step', cut''⟩ := Scan.step_of_cutShort cut' step ends
    have turned' := turn_of_same_event untold step ends step' turned
    refine ⟨past' ++ [{ c with transport := t' }], t', .more reached' step' turned', cut'', ?_⟩
    rw [List.map_append, List.map_append, same]
    rfl

/-- The frames that a session hands over which is told to stop are the first of those that it would
hand over without that. -/
theorem Takes.frames_isPrefix (calm : table.Calm) (cut : t₀.CutShort u₀)
    (takes : Takes table limit signals u₀ initial taken n) :
    ∃ whole, Takes table limit unstopped t₀ initial whole
        (run table limit unstopped {} t₀ initial) ∧
      Scan.frames taken <+: Scan.frames whole := by
  have extended {past : List Scan.Cycle} {s : Session} {u : Transport} {state : σ}
      (reached : Reaches table limit signals u₀ initial past s u state) :
      ∃ whole, Takes table limit unstopped t₀ initial whole
          (run table limit unstopped {} t₀ initial) ∧
        Scan.frames past <+: Scan.frames whole := by
    obtain ⟨past', t, reached', -, same⟩ := reached.of_cutShort cut
    obtain ⟨whole, longer, takes⟩ := reached'.takes_run
    have alike : Scan.frames past = Scan.frames past' := by
      rw [Scan.frames_eq_results, Scan.frames_eq_results past', same]
    rw [alike]
    exact ⟨whole, takes, longer.filterMap _⟩
  cases takes with
  | waits reached | told reached => exact extended reached
  | last reached untold step turned ends =>
    rw [Scan.frames_snoc_of_none (reached.last_turn calm untold step turned ends).1]
    exact extended reached

end Session

namespace Engine

variable {σ : Type}

/-! ## The engine -/

/-- A session that has ended leaves its report, a closed link and an engine without connection. -/
theorem left_of_ended {e : Engine σ} {id : Nat} {link : Link} {n : Session.Turn σ}
    {report : Session.Report} (attached : e.attachedLink? = some (id, link))
    (ended : n.progress = .ended report) :
    (e.afterTurns id n).worker = .finished report ∧ (e.afterTurns id n).Closed id ∧
      (e.afterTurns id n).connected = false := by
  obtain ⟨here, known⟩ := attachedLink?_eq_some_iff.1 attached
  let e' : Engine σ :=
    { e.updateLink id ({ · with near := n.transport }) with state := n.state }
  have left : e.afterTurns id n =
      { e'.closeLink id with worker := .finished report, connected := false } := by
    rw [afterTurns, ended, progressed, afterSession]
    simp [updateLink, here, e']
  have met : (e'.link? id).isSome := by
    rw [link?] at known
    simp [e', updateLink, link?, known]
  rw [left]
  exact ⟨rfl, closed_closeLink met, rfl⟩

/-- What a call of `stop` makes of a session at work is one way of stopping it: between two cycles
if there is something to read, and else under the call that waits. -/
theorem run_eq_stoppedReport (e : Engine σ) (session : Session) (link : Link) :
    ∃ signals u, Session.Lasting signals ∧ link.near.CutShort u ∧ ∃ t',
      session.run e.table e.config.maxReadErrors.toNat signals u e.state =
        ⟨.ended (e.stoppedReport session link), t', e.state⟩ := by
  unfold stoppedReport
  dsimp only
  split
  · refine ⟨fun _ => ⟨true, true⟩, link.near, ⟨fun _ _ => rfl, fun _ _ => rfl⟩, .never,
      link.near, ?_⟩
    exact Session.run_of_ended _ (Session.turn_of_told rfl)
  · next waiting =>
    have waits := (Session.turn_eq_none_iff.1 waiting).2
    obtain ⟨-, unclosed⟩ := Scan.unclosed_of_step_eq_none waits
    have cut : link.near.CutShort { link.near with feed := link.near.feed ++ [.closed] } :=
      .ahead (.behind unclosed.never)
    let signals : Nat → Session.Signal := fun k => ⟨decide (k ≠ 0), true⟩
    refine ⟨signals, _, ⟨fun _ _ => rfl, fun k _ => by simp [signals]⟩, cut, ?_⟩
    cases step : session.scanner.step e.table.sizes
        { link.near with feed := link.near.feed ++ [.closed] } with
    | none =>
      have never := (Scan.unclosed_of_step_eq_none step).2.never
      exact absurd (List.mem_append_right link.near.feed (List.mem_singleton_self _)) never
    | some c =>
      cases result : c.result with
      | ok event =>
        obtain ⟨t', step', -⟩ := Scan.step_of_cutShort cut step result
        cases waits.symm.trans step'
      | error fault =>
        have turned : session.turn e.table e.config.maxReadErrors.toNat (signals 0)
            { link.near with feed := link.near.feed ++ [.closed] } e.state =
            some ⟨.ended (Session.report { session with scanner := c.scanner } .stopped),
              c.transport, e.state⟩ := Session.turn_of_error rfl step result
        refine ⟨c.transport, ?_⟩
        rw [Session.run_of_ended signals turned]
        rw [show (⟨false, true⟩ : Session.Signal) = signals 0 from rfl, turned]

/-- How many reads in a row may fail inside frames. -/
def limit (e : Engine σ) : Nat :=
  e.config.maxReadErrors.toNat

/-- What a new session of the engine comes to, over a transport and under some signals. -/
def ran (e : Engine σ) (signals : Nat → Session.Signal) (t : Transport) : Session.Turn σ :=
  Session.run e.table e.limit signals {} t e.state

/-- The cycles that a new session of the engine takes. -/
def Takes (e : Engine σ) (signals : Nat → Session.Signal) (t : Transport)
    (taken : List Scan.Cycle) : Prop :=
  Session.Takes e.table e.limit signals t e.state taken (e.ran signals t)

/-- What becomes of an engine whose worker is told to stop at some moment, over a transport that is
`free` but for being closed under way: `taken` are the cycles that the worker takes, and `whole`
those that it would take over `free` if nobody told it to stop. -/
structure Obeys (e : Engine σ) (id : Nat) (near free : Transport)
    (signals : Nat → Session.Signal) (taken whole : List Scan.Cycle) : Prop where
  takes : e.Takes signals near taken
  wouldTake : e.Takes Session.unstopped free whole
  /-- the handlers are called for the frames of the cycles taken, and no others -/
  calls : (e.ran signals near).state = (e.table.dispatchAll (Scan.frames taken) e.state).2
  wouldCall : (e.ran Session.unstopped free).state =
    (e.table.dispatchAll (Scan.frames whole) e.state).2
  /-- these are the first frames of those for which they would be called without the stop -/
  first : Scan.frames taken <+: Scan.frames whole
  /-- no cycle is taken once the stop was seen before one -/
  none : ∀ k, (signals k).before = true → taken.length ≤ k
  /-- at most the frame of the cycle under way is handed over behind the stop -/
  one : ∀ k, (signals (k + 1)).before = true → (Scan.frames (taken.drop k)).length ≤ 1
  /-- the worker comes this far in steps of the engine -/
  steps : Steps e (e.afterTurns id (e.ran signals near))
  calm : (e.ran signals near).progress ≠ .panicked
  /-- it waits only as long as nobody closes the transport -/
  waits : ∀ session, (e.ran signals near).progress = .going session →
    near.live = true ∧ near.Unclosed
  /-- it ends because it sees the stop, or behind an error without seeing it, or at the limit -/
  halts : ∀ report, (e.ran signals near).progress = .ended report →
    Session.Halts e.limit signals taken report.exit
  /-- it ends because it sees the stop or at the limit if the stop comes before the end of its last
  cycle -/
  exit : ∀ report, (e.ran signals near).progress = .ended report →
    (∃ k < taken.length, (signals k).behind = true) →
      report.exit = .stopped ∨
        report.exit = .tooManyReadErrors (e.limit + 1) ∧ Scan.failuresAtEnd taken = e.limit + 1
  reports : ∀ report, (e.ran signals near).progress = .ended report →
    report.stats.frames = (Scan.frames taken).length
  /-- the link is closed behind it, and the engine not connected -/
  leaves : ∀ report, (e.ran signals near).progress = .ended report →
    let e' := e.afterTurns id (e.ran signals near)
    e'.worker = .finished report ∧ e'.Closed id ∧ e'.connected = false

/-- **A stop is obeyed.** Let a worker with handlers that do not panic be started on any transport,
and let it be told to stop at any moment, be it before a cycle, during one, or never; the transport
may be closed at any moment too. The worker takes no cycle once it has seen the stop, and hands over
at most one frame behind the stop, that of the cycle under way. What it hands over are the first
frames of those that it would hand over otherwise, and it reports their number. It ends with the exit
for a stop or at the limit of failed reads; that the connection is lost is its exit only if no stop is
seen behind the cycle that failed. When it has ended, the link is closed and the engine is not
connected. -/
theorem stops_are_obeyed {e e₁ : Engine σ} {id : Nat} {link : Link} {free : Transport}
    {signals : Nat → Session.Signal} (calm : e₁.table.Calm) (started : e.start = (.ok (), e₁))
    (attached : e₁.attachedLink? = some (id, link)) (lasting : Session.Lasting signals)
    (cut : free.CutShort link.near) :
    ∃ taken whole, Obeys e₁ id link.near free signals taken whole := by
  obtain ⟨taken, takes⟩ :=
    Session.takes_run e₁.table e₁.limit signals link.near e₁.state
  obtain ⟨whole, would, first⟩ := takes.frames_isPrefix calm cut
  have none (k : Nat) (stop : (signals k).before = true) : taken.length ≤ k := by
    by_contra more
    rw [takes.untold k (Nat.lt_of_not_le more)] at stop
    cases stop
  refine ⟨taken, whole, {
    takes := takes
    wouldTake := would
    calls := takes.state_eq calm
    wouldCall := would.state_eq calm
    first := first
    none := none
    one := fun k stop => ?_
    steps := .run (worker_of_start started) attached signals
    calm := takes.not_panicked calm
    waits := fun session going => takes.unclosed_of_going going
    halts := fun report ended => (takes.halts calm ended).1
    exit := fun report ended ⟨k, took, stop⟩ =>
      (takes.halts calm ended).1.exit_of_behind lasting took stop
    reports := fun report ended => (takes.halts calm ended).2
    leaves := fun report ended => left_of_ended attached ended }⟩
  have few := none (k + 1) stop
  have shorter := List.length_filterMap_le Scan.Cycle.frame? (taken.drop k)
  rw [List.length_drop] at shorter
  rw [Scan.frames]
  omega

/-- The second of three frames is under way when the stop comes and closes the capture. It is still
handed over, and the third one is not. -/
theorem stops_are_obeyed_behind_second_frame :
    let count : Dispatch.Handler Nat := fun _ n => (.done, n + 1)
    let frame (b : UInt8) := Wire.frameBytes 0x30 [b, 0]
    let free : Transport := .replay "capture" [.data (frame 1 ++ frame 2 ++ frame 3)]
    let near : Transport := .replay "capture"
      [.data (frame 1 ++ (frame 2).take 4), .closed, .data ((frame 2).drop 4 ++ frame 3)]
    let signals : Nat → Session.Signal := fun k => ⟨decide (2 ≤ k), decide (1 ≤ k)⟩
    let e : Engine Nat :=
      { state := 0, table := ⟨[⟨0x30, "count", 2, count⟩]⟩, links := [.capture near],
        attached := some 0, connected := true }
    (∃ taken whole, Obeys e.start.2 0 near free signals taken whole) ∧
      (e.start.2.afterTurns 0 (e.start.2.ran signals near)).worker =
        .finished ⟨{ frames := 2 }, 0, .stopped⟩ ∧
      (e.start.2.ran Session.unstopped free).state = 3 := by
  intro count frame free near signals e
  have calm : e.start.2.table.Calm := by
    intro entry member body n
    obtain rfl := List.mem_singleton.1 member
    simp [count]
  have lasting : Session.Lasting signals := by
    constructor <;> intro k stop <;> simp only [signals, decide_eq_true_eq] at stop ⊢ <;> omega
  have parts : Feed.CutShort
      [.data (frame 1 ++ (frame 2).take 4 ++ ((frame 2).drop 4 ++ frame 3))] near.feed :=
    .within _ (by decide) (.under _)
  have cut : free.CutShort near := .ahead parts
  refine ⟨stops_are_obeyed (e := e) calm rfl rfl lasting cut, ?_, ?_⟩
  all_goals decide +kernel

end Engine

end SerialLink
