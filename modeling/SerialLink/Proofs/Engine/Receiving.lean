import Mathlib.Data.List.DropRight
import SerialLink.Engine.Basic
import SerialLink.Proofs.Dispatch.Calls
import SerialLink.Proofs.Scan.Course

/-!
# A session beside its scanner

A session takes the cycles of its scanner one by one and calls the handler of each frame. It ends at
the first error, or at the first cycle with which more reads in a row have failed inside frames than
its limit allows (`Session.Ends`). `Session.Behind` says what holds of a session behind some cycles.
One more cycle keeps it or ends the session, by the way the cycle ends (`Behind.error`,
`Behind.frame`, `Behind.discard`), and so a whole run does what `Ends` says
(`Behind.run_completes`). An engine is then left with a report and a closed link (`settle_of_run`).
-/

namespace SerialLink

/-- A place in a list with one more element is the last one or a place in the list. -/
theorem split_snoc {α : Type} {past older newer : List α} {last x : α}
    (split : past ++ [last] = older ++ x :: newer) :
    (newer = [] ∧ past = older ∧ last = x) ∨
      ∃ front, newer = front ++ [last] ∧ past = older ++ x :: front := by
  rcases List.eq_nil_or_concat newer with rfl | ⟨front, y, rfl⟩
  · obtain ⟨rfl, same⟩ := List.append_inj' split rfl
    exact .inl ⟨rfl, rfl, List.singleton_inj.1 same⟩
  · rw [List.concat_eq_append, ← List.cons_append, ← List.append_assoc] at split
    obtain ⟨rfl, same⟩ := List.append_inj' split rfl
    refine .inr ⟨front, ?_, rfl⟩
    rw [List.concat_eq_append, List.singleton_inj.1 same]

/-! ## Cycles of a run -/

namespace Scan

/-- The frame of an event. -/
def Event.frame? : Event → Option Wire.Frame
  | .frame f => some f
  | .discarded _ => none

/-- The frame that a cycle ends with. -/
def Cycle.frame? (c : Cycle) : Option Wire.Frame :=
  match c.result with
  | .ok e => e.frame?
  | .error _ => none

/-- The frames of some cycles, in order. -/
def frames (cycles : List Cycle) : List Wire.Frame :=
  cycles.filterMap Cycle.frame?

theorem frames_cons (c : Cycle) (cycles : List Cycle) :
    frames (c :: cycles) = c.frame?.toList ++ frames cycles := by
  cases ends : c.frame? with
  | none => exact List.filterMap_cons_none ends
  | some f => exact List.filterMap_cons_some ends

/-- The frame of a result. -/
def resultFrame? : Except Wire.Fault Event → Option Wire.Frame
  | .ok e => e.frame?
  | .error _ => none

/-- The frames of cycles depend on how the cycles end, and on nothing else. -/
theorem frames_eq_results (cycles : List Cycle) :
    frames cycles = (cycles.map (·.result)).filterMap resultFrame? := by
  rw [List.filterMap_map]
  rfl

/-- The frames of cycles that have ended with some events and then with an error. -/
theorem frames_of_results {cycles : List Cycle} {events : List Event} {fault : Wire.Fault}
    (results : cycles.map (·.result) = events.map .ok ++ [.error fault]) :
    frames cycles = events.filterMap Event.frame? := by
  rw [frames_eq_results, results, List.filterMap_append, List.filterMap_map]
  exact List.append_nil _

/-- A read failed inside a frame. -/
def Cycle.readFailed (c : Cycle) : Bool :=
  match c.result with
  | .ok (.discarded (.readFailed ..)) => true
  | _ => false

/-- How many cycles in a row, up to the last one, had a read that failed inside a frame. -/
def failuresAtEnd (cycles : List Cycle) : Nat :=
  (cycles.rtakeWhile Cycle.readFailed).length

theorem failuresAtEnd_snoc (cycles : List Cycle) (c : Cycle) :
    failuresAtEnd (cycles ++ [c]) = if c.readFailed then failuresAtEnd cycles + 1 else 0 := by
  rw [failuresAtEnd, List.rtakeWhile_concat]
  split
  · rw [List.length_append, List.length_singleton, failuresAtEnd]
  · rfl

theorem frames_snoc_of_some {c : Cycle} {f : Wire.Frame} (ends : c.frame? = some f)
    (cycles : List Cycle) : frames (cycles ++ [c]) = frames cycles ++ [f] := by
  simp [frames, ends]

theorem frames_snoc_of_none {c : Cycle} (ends : c.frame? = none) (cycles : List Cycle) :
    frames (cycles ++ [c]) = frames cycles := by
  simp [frames, ends]

end Scan

namespace Session

variable {σ : Type} {table : Dispatch.Table σ} {limit : Nat}

/-- Which of a scanner's cycles a session takes, and how it ends. -/
inductive Ends (limit : Nat) (cycles : List Scan.Cycle) : List Scan.Cycle → Exit → Prop where
  /-- with the last cycle, and with none before it, more reads in a row have failed than allowed -/
  | exhausted {taken rest : List Scan.Cycle} (split : cycles = taken ++ rest)
      (full : Scan.failuresAtEnd taken = limit + 1)
      (first : ∀ earlier, earlier <+: taken → earlier ≠ taken →
        Scan.failuresAtEnd earlier ≤ limit) :
      Ends limit cycles taken (.tooManyReadErrors (limit + 1))
  /-- that never happens up to the error that ends the cycles -/
  | lost {front : List Scan.Cycle} {last : Scan.Cycle} {fault : Wire.Fault}
      (split : cycles = front ++ [last]) (error : last.result = .error fault)
      (never : ∀ earlier, earlier <+: cycles → Scan.failuresAtEnd earlier ≤ limit) :
      Ends limit cycles cycles (.connectionLost fault.message)

/-- Where no read fails inside a frame, all cycles are taken. -/
theorem Ends.of_none_failed {cycles taken : List Scan.Cycle} {exit : Exit}
    (ends : Ends limit cycles taken exit) (none : ∀ c ∈ cycles, c.readFailed = false) :
    taken = cycles ∧ ∃ last fault, cycles.getLast? = some last ∧ last.result = .error fault ∧
      exit = .connectionLost fault.message := by
  cases ends with
  | @exhausted _ rest split full first =>
    rcases List.eq_nil_or_concat taken with rfl | ⟨front, c, rfl⟩
    · cases full
    · have member : c ∈ cycles := by simp [split]
      rw [List.concat_eq_append, Scan.failuresAtEnd_snoc, none c member] at full
      cases full
  | @lost _ last fault split error never => exact ⟨rfl, last, fault, by simp [split], error, rfl⟩

/-- Where a session is behind some cycles that did not end it, the handlers having begun with
`initial`. -/
structure Behind (table : Dispatch.Table σ) (limit : Nat) (initial : σ) (past : List Scan.Cycle)
    (s : Session) (state : σ) : Prop where
  errors : s.readErrors = Scan.failuresAtEnd past
  within : ∀ earlier, earlier <+: past → Scan.failuresAtEnd earlier ≤ limit
  failures : s.handlerFailures = table.failures (Scan.frames past) initial
  state : state = (table.dispatchAll (Scan.frames past) initial).2

theorem behind_nil (initial : σ) : Behind table limit initial [] {} initial where
  errors := rfl
  within earlier none := by
    rw [List.prefix_nil.1 none]
    exact Nat.zero_le limit
  failures := rfl
  state := rfl

theorem within_snoc {past : List Scan.Cycle} {c : Scan.Cycle}
    (within : ∀ earlier, earlier <+: past → Scan.failuresAtEnd earlier ≤ limit)
    (few : Scan.failuresAtEnd (past ++ [c]) ≤ limit) :
    ∀ earlier, earlier <+: past ++ [c] → Scan.failuresAtEnd earlier ≤ limit := by
  intro earlier shorter
  rcases List.prefix_concat_iff.1 shorter with rfl | shorter
  · exact few
  · exact within earlier shorter

/-- What a session leaves that took some cycles, the last of which ended it. -/
def ending (table : Dispatch.Table σ) (initial : σ) (taken : List Scan.Cycle) (last : Scan.Cycle)
    (exit : Exit) : Turn σ :=
  ⟨.ended ⟨last.scanner.stats, table.failures (Scan.frames taken) initial, exit⟩, last.transport,
    (table.dispatchAll (Scan.frames taken) initial).2⟩

/-! ## One turn -/

section

variable {signal : Signal} {s s' : Session} {t : Transport} {state : σ} {c : Scan.Cycle}

theorem turn_of_told (stop : signal.before = true) :
    s.turn table limit signal t state = some ⟨.ended (s.report .stopped), t, state⟩ := by
  rw [turn, if_pos stop]

theorem turn_of_frame {f : Wire.Frame} (untold : signal.before = false)
    (step : s.scanner.step table.sizes t = some c) (ok : c.result = .ok (.frame f)) :
    s.turn table limit signal t state =
      some ⟨afterReply { s with scanner := c.scanner } (table.dispatch f state).1, c.transport,
        (table.dispatch f state).2⟩ := by
  simp [turn, untold, step, ok]

theorem turn_of_discard {reason : Scan.Discard} (untold : signal.before = false)
    (step : s.scanner.step table.sizes t = some c) (ok : c.result = .ok (.discarded reason)) :
    s.turn table limit signal t state =
      some ⟨afterDiscard limit { s with scanner := c.scanner } reason, c.transport, state⟩ := by
  simp [turn, untold, step, ok]

/-- Behind an error it is looked again whether the session was told to stop. -/
theorem turn_of_error {fault : Wire.Fault} (untold : signal.before = false)
    (step : s.scanner.step table.sizes t = some c) (ends : c.result = .error fault) :
    s.turn table limit signal t state =
      some ⟨.ended (report { s with scanner := c.scanner }
        (if signal.behind then .stopped else .connectionLost fault.message)), c.transport,
        state⟩ := by
  simp [turn, untold, step, ends]

theorem scanner_of_afterReply {reply : Dispatch.Reply} (going : s.afterReply reply = .going s') :
    s'.scanner = s.scanner := by
  cases reply <;> cases going <;> rfl

theorem scanner_of_afterDiscard {reason : Scan.Discard}
    (going : s.afterDiscard limit reason = .going s') : s'.scanner = s.scanner := by
  cases reason with
  | readFailed =>
    simp only [afterDiscard] at going
    split at going <;> cases going
    rfl
  | unknownCommand | sizeMismatch | checksumMismatch =>
    cases going
    rfl

end

/-- A cycle without a frame calls no handler. -/
theorem Behind.ending_eq {initial state : σ} {past : List Scan.Cycle} {s : Session} {c : Scan.Cycle}
    (behind : Behind table limit initial past s state) (other : c.frame? = none) (exit : Exit) :
    ending table initial (past ++ [c]) c exit =
      ⟨.ended ⟨c.scanner.stats, s.handlerFailures, exit⟩, c.transport, state⟩ := by
  rw [ending, Scan.frames_snoc_of_none other, ← behind.failures, ← behind.state]

/-- An error ends the session. -/
theorem Behind.error {initial state : σ} {past : List Scan.Cycle} {s : Session} {t : Transport}
    {c : Scan.Cycle} {fault : Wire.Fault} (behind : Behind table limit initial past s state)
    (step : s.scanner.step table.sizes t = some c) (ends : c.result = .error fault) :
    s.turn table limit {} t state =
      some (ending table initial (past ++ [c]) c (.connectionLost fault.message)) := by
  have other : c.frame? = none := by simp [Scan.Cycle.frame?, ends]
  rw [behind.ending_eq other, turn_of_error rfl step ends]
  rfl

/-- A frame is handed to its handler, and the session goes on whatever the handler comes to. -/
theorem Behind.frame {initial state : σ} {past : List Scan.Cycle} {s : Session} {t : Transport}
    {c : Scan.Cycle} {f : Wire.Frame} (behind : Behind table limit initial past s state)
    (calm : ∀ state, (table.dispatch f state).1 ≠ .panicked)
    (step : s.scanner.step table.sizes t = some c) (ok : c.result = .ok (.frame f)) :
    ∃ s' state', s.turn table limit {} t state = some ⟨.going s', c.transport, state'⟩ ∧
      s'.scanner = c.scanner ∧ Behind table limit initial (past ++ [c]) s' state' := by
  have taken : Scan.frames (past ++ [c]) = Scan.frames past ++ [f] :=
    Scan.frames_snoc_of_some (by simp [Scan.Cycle.frame?, Scan.Event.frame?, ok]) past
  have none : Scan.failuresAtEnd (past ++ [c]) = 0 := by
    simp [Scan.failuresAtEnd_snoc, Scan.Cycle.readFailed, ok]
  have within := within_snoc behind.within (none ▸ Nat.zero_le limit)
  have same := behind.state.symm
  rw [turn_of_frame rfl step ok]
  cases reply : (table.dispatch f state).1 with
  | panicked => exact absurd reply (calm state)
  | done | failed fault =>
    refine ⟨_, _, rfl, rfl, none.symm, within, ?_, ?_⟩
    · rw [taken, Dispatch.Table.failures, Dispatch.Table.dispatchAll_snoc, same, reply]
      simp [behind.failures, Dispatch.Table.failures, Dispatch.Reply.isFailure]
    · rw [taken, Dispatch.Table.dispatchAll_snoc, same]

/-- Of all that is dropped only a read that failed counts, and it ends the session when it is one
more in a row than allowed. -/
theorem Behind.discard {initial state : σ} {past : List Scan.Cycle} {s : Session} {t : Transport}
    {c : Scan.Cycle} {reason : Scan.Discard} (behind : Behind table limit initial past s state)
    (step : s.scanner.step table.sizes t = some c) (ok : c.result = .ok (.discarded reason)) :
    (∃ s', s.turn table limit {} t state = some ⟨.going s', c.transport, state⟩ ∧
      s'.scanner = c.scanner ∧ Behind table limit initial (past ++ [c]) s' state) ∨
    (Scan.failuresAtEnd (past ++ [c]) = limit + 1 ∧
      s.turn table limit {} t state =
        some (ending table initial (past ++ [c]) c (.tooManyReadErrors (limit + 1)))) := by
  have other : c.frame? = none := by simp [Scan.Cycle.frame?, Scan.Event.frame?, ok]
  have goesOn : ∀ n, Scan.failuresAtEnd (past ++ [c]) = n → n ≤ limit →
      Behind table limit initial (past ++ [c]) { s with scanner := c.scanner, readErrors := n }
        state := by
    rintro _ rfl few
    refine ⟨rfl, within_snoc behind.within few, ?_, ?_⟩
    · rw [Scan.frames_snoc_of_none other, ← behind.failures]
    · rw [Scan.frames_snoc_of_none other, ← behind.state]
  rw [turn_of_discard rfl step ok]
  cases reason with
  | readFailed stage text =>
    have count : Scan.failuresAtEnd (past ++ [c]) = s.readErrors + 1 := by
      simp [Scan.failuresAtEnd_snoc, Scan.Cycle.readFailed, ok, behind.errors]
    have before := behind.within past (List.prefix_refl past)
    rw [← behind.errors] at before
    rcases Nat.lt_or_ge limit (s.readErrors + 1) with full | few
    · right
      have exactly : s.readErrors + 1 = limit + 1 := by omega
      refine ⟨count.trans exactly, ?_⟩
      rw [behind.ending_eq other]
      simp [afterDiscard, report, exactly]
    · left
      refine ⟨_, ?_, rfl, goesOn _ count few⟩
      simp [afterDiscard, Nat.not_lt.2 few]
  | unknownCommand | sizeMismatch | checksumMismatch =>
    left
    have none : Scan.failuresAtEnd (past ++ [c]) = 0 := by
      simp [Scan.failuresAtEnd_snoc, Scan.Cycle.readFailed, ok]
    exact ⟨_, rfl, rfl, goesOn 0 none (Nat.zero_le limit)⟩

/-! ## A whole run -/

/-- A run, by the way its first turn ends. -/
theorem run_eq (signals : Nat → Signal) (s : Session) (t : Transport) (state : σ) :
    s.run table limit signals t state =
      match s.turn table limit (signals 0) t state with
      | none => ⟨.going s, t, state⟩
      | some n =>
        match n.progress with
        | .going s' => s'.run table limit (fun k => signals (k + 1)) n.transport n.state
        | _ => n := by
  rw [run]
  split
  · next waits => rw [waits]
  · next n turned =>
    rw [turned]
    dsimp only
    split
    · next s' progress => rw [progress]
    · next ended =>
      split
      · next s' progress => exact absurd progress (ended s')
      · rfl

section

variable (signals : Nat → Signal) {s s' : Session} {t t' : Transport} {state state' : σ}

theorem run_of_none (waits : s.turn table limit (signals 0) t state = none) :
    s.run table limit signals t state = ⟨.going s, t, state⟩ := by
  rw [run_eq, waits]

theorem run_of_going
    (turned : s.turn table limit (signals 0) t state = some ⟨.going s', t', state'⟩) :
    s.run table limit signals t state =
      s'.run table limit (fun k => signals (k + 1)) t' state' := by
  rw [run_eq, turned]

theorem run_of_ended {report : Report}
    (turned : s.turn table limit (signals 0) t state = some ⟨.ended report, t', state'⟩) :
    s.run table limit signals t state = ⟨.ended report, t', state'⟩ := by
  rw [run_eq, turned]

theorem run_of_panicked
    (turned : s.turn table limit (signals 0) t state = some ⟨.panicked, t', state'⟩) :
    s.run table limit signals t state = ⟨.panicked, t', state'⟩ := by
  rw [run_eq, turned]

end

/-- What a session comes to with some cycles behind it and others ahead: it takes some of these, as
`Ends` says, and has called the handler of each frame. -/
def Completes (table : Dispatch.Table σ) (limit : Nat) (initial : σ)
    (past ahead : List Scan.Cycle) (n : Turn σ) : Prop :=
  ∃ more last exit, more.getLast? = some last ∧ Ends limit (past ++ ahead) (past ++ more) exit ∧
    n = ending table initial (past ++ more) last exit

/-- A cycle that is taken was ahead before. -/
theorem Completes.cons {initial : σ} {past ahead : List Scan.Cycle} {c : Scan.Cycle} {n : Turn σ}
    (completes : Completes table limit initial (past ++ [c]) ahead n) :
    Completes table limit initial past (c :: ahead) n := by
  obtain ⟨more, last, exit, final, ends, left⟩ := completes
  simp only [List.append_assoc, List.singleton_append] at ends left
  refine ⟨c :: more, last, exit, ?_, ends, left⟩
  rw [List.getLast?_cons, final, Option.getD_some]

/-- A session over a transport that never waits completes its scanner's cycles, if no handler panics
that is called. -/
theorem Behind.run_completes {initial state : σ} {past : List Scan.Cycle} {s : Session}
    {t : Transport} (behind : Behind table limit initial past s state) (quiet : t.live = false)
    (calm : table.CalmOn (Scan.frames (s.scanner.cycles table.sizes t))) :
    Completes table limit initial past (s.scanner.cycles table.sizes t)
      (s.run table limit unstopped t state) := by
  induction size : t.feed.bytes.length using Nat.strongRecOn generalizing past s t state with
  | ind n ih =>
    have takesPlace : (s.scanner.step table.sizes t).isSome := Scan.step_isSome quiet
    obtain ⟨c, step⟩ := Option.isSome_iff_exists.1 takesPlace
    -- Behind a cycle that the session goes on after, the rest is the induction hypothesis.
    have goesOn : ∀ {e : Scan.Event} {s' : Session} {state' : σ}, c.result = .ok e →
        s.turn table limit {} t state = some ⟨.going s', c.transport, state'⟩ →
        s'.scanner = c.scanner → Behind table limit initial (past ++ [c]) s' state' →
        Completes table limit initial past (s.scanner.cycles table.sizes t)
          (s.run table limit unstopped t state) := by
      intro e s' state' ok turned scanner behind'
      have shorter : c.transport.feed.bytes.length < n := size ▸ Scanner.length_bytes_step step ok
      have quiet' : c.transport.live = false := (Scan.kept_live.step step).trans quiet
      rw [Scanner.cycles_of_event step ok, ← scanner] at calm ⊢
      have calm' : table.CalmOn (Scan.frames (s'.scanner.cycles table.sizes c.transport)) := by
        intro f member
        refine calm f ?_
        rw [Scan.frames_cons]
        exact List.mem_append_right _ member
      rw [run_of_going unstopped turned]
      exact (ih _ shorter behind' quiet' calm' rfl).cons
    cases result : c.result with
    | error fault =>
      rw [Scanner.cycles_of_error step result]
      refine ⟨[c], c, _, rfl, ?_, run_of_ended unstopped (behind.error step result)⟩
      have none : Scan.failuresAtEnd (past ++ [c]) = 0 := by
        simp [Scan.failuresAtEnd_snoc, Scan.Cycle.readFailed, result]
      exact .lost rfl result (within_snoc behind.within (none ▸ Nat.zero_le limit))
    | ok e =>
      cases e with
      | frame f =>
        have called : f ∈ Scan.frames (s.scanner.cycles table.sizes t) := by
          rw [Scanner.cycles_of_event step result, Scan.frames_cons]
          simp [Scan.Cycle.frame?, Scan.Event.frame?, result]
        obtain ⟨s', state', turned, scanner, behind'⟩ := behind.frame (calm f called) step result
        exact goesOn result turned scanner behind'
      | discarded reason =>
        rcases behind.discard step result with ⟨s', turned, scanner, behind'⟩ | ⟨full, turned⟩
        · exact goesOn result turned scanner behind'
        · rw [Scanner.cycles_of_event step result]
          refine ⟨[c], c, _, rfl, ?_, run_of_ended unstopped turned⟩
          rw [← List.singleton_append, ← List.append_assoc]
          refine .exhausted rfl full fun earlier shorter other => ?_
          rcases List.prefix_concat_iff.1 shorter with same | shorter
          · exact absurd same other
          · exact behind.within earlier shorter

/-- Where no read fails inside a frame, a new session takes all cycles up to the error. -/
theorem run_of_none_failed {t : Transport} (quiet : t.live = false)
    (calm : table.CalmOn (Scan.frames (Scanner.cycles table.sizes {} t)))
    (none : ∀ c ∈ Scanner.cycles table.sizes {} t, c.readFailed = false) (limit : Nat)
    (initial : σ) :
    ∃ last fault, (Scanner.cycles table.sizes {} t).getLast? = some last ∧
      last.result = .error fault ∧
      run table limit unstopped {} t initial =
        ending table initial (Scanner.cycles table.sizes {} t) last
          (.connectionLost fault.message) := by
  have fresh : Behind table limit initial [] {} initial := behind_nil initial
  obtain ⟨taken, last, exit, final, ends, ran⟩ := fresh.run_completes quiet calm
  simp only [List.nil_append] at ends ran
  obtain ⟨rfl, last', fault, final', error, rfl⟩ := ends.of_none_failed none
  obtain rfl : last = last' := Option.some.inj (final.symm.trans final')
  exact ⟨last, fault, final, error, ran⟩

end Session

/-! ## The engine behind a session -/

theorem Link.isOpen_close_near (l : Link) : (l.close .near).near.isOpen = false := by
  unfold Link.close
  cases l.near.kind <;> rfl

namespace Engine

variable {σ : Type}

theorem attachedLink?_eq_some_iff {e : Engine σ} {id : Nat} {link : Link} :
    e.attachedLink? = some (id, link) ↔ e.attached = some id ∧ e.link? id = some link := by
  simp only [attachedLink?, Option.bind_eq_bind, Option.bind_eq_some_iff, Option.pure_def,
    Option.some.injEq, Prod.mk.injEq]
  constructor
  · rintro ⟨n, number, l, known, rfl, rfl⟩
    exact ⟨number, known⟩
  · rintro ⟨number, known⟩
    exact ⟨id, number, link, known, rfl, rfl⟩

/-- What goes on unless a worker is there has found none. -/
theorem absent_of_unlessReceiving {α : Type} {e e' : Engine σ} {a : α}
    {next : Engine σ → Except Dispatch.Fault α × Engine σ}
    (done : e.unlessReceiving next = (.ok a, e')) :
    ∃ e₀ : Engine σ, e₀.worker = .absent ∧ next e₀ = (.ok a, e') := by
  unfold unlessReceiving at done
  split at done
  · cases done
  · split at done
    · next e₀ collected absent => exact ⟨_, absent, done⟩
    · cases done

theorem worker_of_start {e e₁ : Engine σ} (started : e.start = (.ok (), e₁)) :
    e₁.worker = .running {} := by
  obtain ⟨e₀, -, next⟩ := absent_of_unlessReceiving started
  split at next
  · cases next
    rfl
  · cases next

/-- The report of a session that ended is kept, its link is closed and the engine disconnected. -/
theorem settle_of_run {e : Engine σ} {session : Session} {id : Nat} {link : Link}
    {report : Session.Report} {t : Transport} {state : σ} (running : e.worker = .running session)
    (attached : e.attachedLink? = some (id, link))
    (ran : session.run e.table e.config.maxReadErrors.toNat Session.unstopped link.near e.state =
      ⟨.ended report, t, state⟩) :
    e.settle.worker = .finished report ∧ e.settle.state = state ∧
      (e.settle.link? id).map (·.near.isOpen) = some false ∧ e.settle.connected = false := by
  obtain ⟨number, known⟩ := attachedLink?_eq_some_iff.1 attached
  have settled : e.settle =
      { (e.updateLink id ({ · with near := t })).closeLink id with
        state := state, worker := .finished report, connected := false } := by
    rw [settle, running, attached]
    simp [ran, afterSession, updateLink, closeLink, number]
  have closed : e.settle.link? id = some (({ link with near := t } : Link).close .near) := by
    rw [link?] at known
    rw [settled, link?]
    simp [closeLink, updateLink, known]
  refine ⟨by rw [settled], by rw [settled], ?_, by rw [settled]⟩
  rw [closed, Option.map_some, Link.isOpen_close_near]

/-- **A receiving engine does what its scanner tells.** Let receiving be started over a transport
that never waits, as a capture does not whatever its reads come to, with handlers that do not
panic. The worker takes the scanner's cycles up to the first error or up to the first with which
more reads in a row have failed inside frames than the configuration allows; nothing else ends it.
It calls the handlers for the frames of these cycles, once each and in order, and reports the
scanner's counts, the calls that failed and the reason. Then the link is closed and the engine is
not connected. -/
theorem session_follows_scanner {e e₁ : Engine σ} {id : Nat} {link : Link} (calm : e₁.table.Calm)
    (started : e.start = (.ok (), e₁)) (attached : e₁.attachedLink? = some (id, link))
    (quiet : link.near.live = false) :
    ∃ taken last exit,
      Session.Ends e₁.config.maxReadErrors.toNat
        (Scanner.cycles e₁.table.sizes {} link.near) taken exit ∧
      taken.getLast? = some last ∧
      e₁.settle.worker = .finished
        ⟨last.scanner.stats, e₁.table.failures (Scan.frames taken) e₁.state, exit⟩ ∧
      e₁.settle.state = (e₁.table.dispatchAll (Scan.frames taken) e₁.state).2 ∧
      (e₁.settle.link? id).map (·.near.isOpen) = some false ∧
      e₁.settle.connected = false := by
  have fresh : Session.Behind e₁.table e₁.config.maxReadErrors.toNat e₁.state [] {} e₁.state :=
    Session.behind_nil e₁.state
  obtain ⟨taken, last, exit, final, ends, ran⟩ := fresh.run_completes quiet (calm.calmOn _)
  refine ⟨taken, last, exit, ends, final, ?_⟩
  exact settle_of_run (worker_of_start started) attached ran

/-- Two frames, one of which its handler refuses, and then two headers that cannot be read where
one may be. -/
theorem session_follows_scanner_to_the_limit :
    let refuse : Dispatch.Handler Nat := fun body n =>
      (if body = [0, 0] then .failed .notConnected else .done, n + 1)
    let lost : IoFailure := ⟨.other, "lost"⟩
    let feed : Feed := [.data (Wire.frameBytes 0x30 [0, 0] ++ Wire.frameBytes 0x30 [1, 0]),
      .data [Wire.marker], .failed lost, .data [Wire.marker], .failed lost, .data [1, 2, 3]]
    let e : Engine Nat :=
      { state := 0, config := { maxReadErrors := 1 }, table := ⟨[⟨0x30, "count", 2, refuse⟩]⟩,
        links := [.capture (.replay "script" feed)], attached := some 0, connected := true }
    ∃ taken last exit,
      Session.Ends 1 (Scanner.cycles e.table.sizes {} (.replay "script" feed)) taken exit ∧
      taken.getLast? = some last ∧
      e.start.2.settle.worker = .finished
        ⟨last.scanner.stats, e.table.failures (Scan.frames taken) 0, exit⟩ ∧
      e.start.2.settle.state = (e.table.dispatchAll (Scan.frames taken) 0).2 ∧
      (e.start.2.settle.link? 0).map (·.near.isOpen) = some false ∧
      e.start.2.settle.connected = false := by
  intro refuse lost feed e
  have calm : e.start.2.table.Calm := by
    intro entry member body n
    obtain rfl := List.mem_singleton.1 member
    simp only [refuse]
    split <;> simp
  exact session_follows_scanner (e := e) calm rfl rfl rfl

end Engine

end SerialLink
