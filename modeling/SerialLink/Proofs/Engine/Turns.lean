import SerialLink.Proofs.Engine.Receiving
import SerialLink.Proofs.Scan.Accounting
import SerialLink.Proofs.Scan.Flowing
import SerialLink.Proofs.Scan.Waiting

/-!
# Sessions turn by turn

A session takes its scanner's cycles one by one, each in a turn under a signal of its own.
`Session.Reaches` says where it is behind cycles that did not end it, and `Session.Takes` which
cycles it takes in all and what its last turn leaves. Every run takes some (`Session.takes_run`), and
none of them is taken behind a stop that was seen (`Takes.untold`).
-/

namespace SerialLink

namespace Scan

theorem Cycle.frame?_eq_some_iff {c : Cycle} {f : Wire.Frame} :
    c.frame? = some f ↔ c.result = .ok (.frame f) := by
  rcases c with ⟨fault | (f' | reason), scanner, t⟩ <;> simp [frame?, Event.frame?]

theorem frames_snoc (cycles : List Cycle) (c : Cycle) :
    frames (cycles ++ [c]) = frames cycles ++ c.frame?.toList := by
  rw [frames, frames, List.filterMap_append]
  cases ends : c.frame? <;> simp [ends]

/-- A frame is counted when a cycle ends with one. -/
theorem frames_of_step {sizes : CommandSizes} {s : Scanner} {t : Transport} {c : Cycle}
    (step : s.step sizes t = some c) :
    c.scanner.stats.frames = s.stats.frames + c.frame?.toList.length := by
  cases ends : c.result with
  | error fault =>
    obtain ⟨noise, cause, -, stats, -⟩ := breaks_of_error step ends
    simp [stats, Stats.skip, Cycle.frame?, ends]
  | ok e =>
    obtain ⟨n, scanner⟩ := scanner_of_event step ends
    rw [scanner]
    rcases e with f | (_ | _ | _ | _) <;>
      simp [Stats.count, Stats.skip, Cycle.frame?, Event.frame?, ends]

/-- Over a steady transport no read fails inside a frame. -/
theorem readFailed_of_steady {sizes : CommandSizes} {s : Scanner} {t : Transport}
    (steady : t.Steady) : ∀ c ∈ s.cycles sizes t, c.readFailed = false := by
  intro c member
  obtain ⟨s', t', kept, step⟩ := kept_steady.mem_cycles member
  rcases c with ⟨fault | (f | (_ | _ | _ | ⟨stage, reason⟩)), scanner, t₁⟩
  case ok.discarded.readFailed =>
    exfalso
    obtain ⟨place, noise, cause, breaks, -⟩ := breaks_of_readFailed step rfl
    obtain ⟨t₂, n, kept₂, read⟩ := kept_steady.breaks breaks
    have steady₂ : t₂.Steady := kept₂ (kept steady)
    rcases Nat.lt_or_ge t₂.feed.bytes.length n with short | enough
    · obtain ⟨t₃, closed, -⟩ := steady₂.readExact_of_short short
      cases read.symm.trans closed
    · obtain ⟨t₃, whole, -⟩ := steady₂.readExact enough
      cases read.symm.trans whole
  all_goals rfl

end Scan

namespace Session

variable {σ : Type}

section

variable (table : Dispatch.Table σ) (limit : Nat) (signals : Nat → Signal) (t₀ : Transport)
  (initial : σ)

/-- Where a new session is that has taken some cycles and goes on. -/
inductive Reaches : List Scan.Cycle → Session → Transport → σ → Prop where
  | start : Reaches [] {} t₀ initial
  | more {past : List Scan.Cycle} {c : Scan.Cycle} {s s' : Session} {t : Transport}
      {state state' : σ} (reached : Reaches past s t state)
      (step : s.scanner.step table.sizes t = some c)
      (turned : s.turn table limit (signals past.length) t state =
        some ⟨.going s', c.transport, state'⟩) :
      Reaches (past ++ [c]) s' c.transport state'

/-- The cycles that a new session takes in all, and what its last turn leaves. -/
inductive Takes : List Scan.Cycle → Turn σ → Prop where
  /-- the next cycle has to wait -/
  | waits {past : List Scan.Cycle} {s : Session} {t : Transport} {state : σ}
      (reached : Reaches table limit signals t₀ initial past s t state)
      (turned : s.turn table limit (signals past.length) t state = none) :
      Takes past ⟨.going s, t, state⟩
  /-- a stop is seen before the next cycle -/
  | told {past : List Scan.Cycle} {s : Session} {t : Transport} {state : σ}
      (reached : Reaches table limit signals t₀ initial past s t state)
      (stop : (signals past.length).before = true) :
      Takes past ⟨.ended (s.report .stopped), t, state⟩
  /-- the next cycle is the last one -/
  | last {past : List Scan.Cycle} {c : Scan.Cycle} {s : Session} {t : Transport} {state : σ}
      {n : Turn σ} (reached : Reaches table limit signals t₀ initial past s t state)
      (untold : (signals past.length).before = false)
      (step : s.scanner.step table.sizes t = some c)
      (turned : s.turn table limit (signals past.length) t state = some n)
      (ends : ∀ s', n.progress ≠ .going s') :
      Takes (past ++ [c]) n

end

variable {table : Dispatch.Table σ} {limit : Nat} {signal : Signal} {signals : Nat → Signal}
  {t t₀ : Transport} {state initial : σ} {s s' : Session} {past taken : List Scan.Cycle}
  {c : Scan.Cycle} {n : Turn σ}

/-! ## One turn -/

/-- A turn that is not told to stop is a cycle. -/
theorem turn_eq_none_iff :
    s.turn table limit signal t state = none ↔
      signal.before = false ∧ s.scanner.step table.sizes t = none := by
  unfold turn
  cases signal.before <;> simp

theorem step_of_turn (untold : signal.before = false)
    (turned : s.turn table limit signal t state = some n) :
    ∃ c, s.scanner.step table.sizes t = some c ∧ n.transport = c.transport := by
  rw [turn, untold, if_neg Bool.false_ne_true] at turned
  obtain ⟨c, step, rfl⟩ := Option.map_eq_some_iff.1 turned
  refine ⟨c, step, ?_⟩
  split <;> rfl

/-- Behind an event it is not looked for a stop. -/
theorem turn_of_event {e : Scan.Event} (untold : signal.before = false)
    (step : s.scanner.step table.sizes t = some c) (ends : c.result = .ok e) :
    s.turn table limit signal t state = s.turn table limit {} t state := by
  cases e with
  | frame f =>
    rw [turn_of_frame untold step ends]
    exact (turn_of_frame rfl step ends).symm
  | discarded reason =>
    rw [turn_of_discard untold step ends]
    exact (turn_of_discard rfl step ends).symm

/-- A turn behind which the session goes on was not told to stop, and its cycle ended with an
event. -/
theorem event_of_going {t' : Transport} {state' : σ} (step : s.scanner.step table.sizes t = some c)
    (turned : s.turn table limit signal t state = some ⟨.going s', t', state'⟩) :
    signal.before = false ∧ s'.scanner = c.scanner ∧ ∃ e, c.result = .ok e := by
  cases stop : signal.before with
  | true => cases turned.symm.trans (turn_of_told stop)
  | false =>
    refine ⟨rfl, ?_⟩
    cases ends : c.result with
    | error fault => cases turned.symm.trans (turn_of_error stop step ends)
    | ok e =>
      cases e with
      | frame f =>
        obtain ⟨going, -⟩ := Turn.mk.inj (Option.some.inj
          (turned.symm.trans (turn_of_frame stop step ends)))
        exact ⟨scanner_of_afterReply going.symm, _, rfl⟩
      | discarded reason =>
        obtain ⟨going, -⟩ := Turn.mk.inj (Option.some.inj
          (turned.symm.trans (turn_of_discard stop step ends)))
        exact ⟨scanner_of_afterDiscard going.symm, _, rfl⟩

/-! ## Whole runs -/

/-- A session that has come somewhere takes some more cycles, as its run from there does. -/
theorem Reaches.takes (reached : Reaches table limit signals t₀ initial past s t state) :
    ∃ taken, past <+: taken ∧ Takes table limit signals t₀ initial taken
      (s.run table limit (fun k => signals (past.length + k)) t state) := by
  induction size : t.feed.bytes.length using Nat.strongRecOn generalizing past s t state with
  | ind size ih =>
    cases turned : s.turn table limit (signals past.length) t state with
    | none =>
      rw [run_of_none _ turned]
      exact ⟨past, List.prefix_rfl, .waits reached turned⟩
    | some n =>
      cases stop : (signals past.length).before with
      | true =>
        obtain rfl := Option.some.inj (turned.symm.trans (turn_of_told stop))
        rw [run_of_ended _ turned]
        exact ⟨past, List.prefix_rfl, .told reached stop⟩
      | false =>
        obtain ⟨c, step, left⟩ := step_of_turn stop turned
        have last (ends : ∀ s', n.progress ≠ .going s') :
            Takes table limit signals t₀ initial (past ++ [c]) n :=
          .last reached stop step turned ends
        obtain ⟨progress, t', state'⟩ := n
        obtain rfl : t' = c.transport := left
        cases progress with
        | going s' =>
          -- The turns ahead are those of the session behind one more cycle.
          have shorter := length_bytes_turn turned rfl
          obtain ⟨taken, longer, takes⟩ := ih _ (size ▸ shorter) (.more reached step turned) rfl
          refine ⟨taken, (List.prefix_append past [c]).trans longer, ?_⟩
          rw [run_of_going _ turned]
          simpa only [List.length_append, List.length_singleton, Nat.add_assoc, Nat.add_comm 1]
            using takes
        | ended report =>
          rw [run_of_ended _ turned]
          exact ⟨past ++ [c], List.prefix_append past [c], last (by simp)⟩
        | panicked =>
          rw [run_of_panicked _ turned]
          exact ⟨past ++ [c], List.prefix_append past [c], last (by simp)⟩

theorem Reaches.run_eq (reached : Reaches table limit signals t₀ initial past s t state) :
    run table limit signals {} t₀ initial =
      s.run table limit (fun k => signals (past.length + k)) t state := by
  induction reached with
  | start => simp only [List.length_nil, Nat.zero_add]
  | more reached step turned ih =>
    rw [ih, run_of_going _ turned]
    simp only [List.length_append, List.length_singleton, Nat.add_assoc, Nat.add_comm 1]

/-- Every run takes some cycles, among them those behind which it has come somewhere. -/
theorem Reaches.takes_run (reached : Reaches table limit signals t₀ initial past s t state) :
    ∃ taken, past <+: taken ∧
      Takes table limit signals t₀ initial taken (run table limit signals {} t₀ initial) := by
  rw [reached.run_eq]
  exact reached.takes

theorem takes_run (table : Dispatch.Table σ) (limit : Nat) (signals : Nat → Signal)
    (t₀ : Transport) (initial : σ) :
    ∃ taken, Takes table limit signals t₀ initial taken (run table limit signals {} t₀ initial) := by
  obtain ⟨taken, -, takes⟩ := (Reaches.start : Reaches table limit signals t₀ initial ..).takes_run
  exact ⟨taken, takes⟩

/-- There is one way to take cycles, and the run leaves what the last turn leaves. -/
theorem Takes.run_eq (takes : Takes table limit signals t₀ initial taken n) :
    run table limit signals {} t₀ initial = n := by
  cases takes with
  | waits reached turned => rw [reached.run_eq, run_of_none _ turned]
  | told reached stop => rw [reached.run_eq, run_of_ended _ (turn_of_told stop)]
  | last reached untold step turned ends =>
    obtain ⟨progress, t', state'⟩ := n
    rw [reached.run_eq]
    cases progress with
    | going s' => exact absurd rfl (ends s')
    | ended report => rw [run_of_ended _ turned]
    | panicked => rw [run_of_panicked _ turned]

/-- A session has been at every cycle that it has taken. -/
theorem Reaches.at_cycle {older newer : List Scan.Cycle}
    (reached : Reaches table limit signals t₀ initial past s t state)
    (split : past = older ++ c :: newer) :
    ∃ s t state, Reaches table limit signals t₀ initial older s t state ∧
      (signals older.length).before = false ∧ s.scanner.step table.sizes t = some c := by
  induction reached generalizing newer with
  | start => simp at split
  | more reached step turned ih =>
    rcases split_snoc split with ⟨-, rfl, rfl⟩ | ⟨front, -, before⟩
    · exact ⟨_, _, _, reached, (event_of_going step turned).1, step⟩
    · exact ih before

theorem Takes.at_cycle {older newer : List Scan.Cycle}
    (takes : Takes table limit signals t₀ initial taken n) (split : taken = older ++ c :: newer) :
    ∃ s t state, Reaches table limit signals t₀ initial older s t state ∧
      (signals older.length).before = false ∧ s.scanner.step table.sizes t = some c := by
  cases takes with
  | waits reached | told reached => exact reached.at_cycle split
  | last reached untold step turned ends =>
    rcases split_snoc split with ⟨-, rfl, rfl⟩ | ⟨front, -, before⟩
    · exact ⟨_, _, _, reached, untold, step⟩
    · exact reached.at_cycle before

/-! ## What is taken -/

/-- What is counted as a frame are the frames of the cycles behind. -/
theorem Reaches.frames (reached : Reaches table limit signals t₀ initial past s t state) :
    s.scanner.stats.frames = (Scan.frames past).length := by
  induction reached with
  | start => rfl
  | more reached step turned ih =>
    obtain ⟨-, scanner, -⟩ := event_of_going step turned
    rw [scanner, Scan.frames_of_step step, ih, Scan.frames_snoc, List.length_append]

/-- What every read keeps, a session keeps. -/
theorem Reaches.kept {R : Transport → Transport → Prop} (kept : Scan.Kept R)
    (reached : Reaches table limit signals t₀ initial past s t state) : R t₀ t := by
  induction reached with
  | start => exact kept.refl t₀
  | more reached step turned ih => exact kept.trans ih (kept.step step)

/-- A session whose handlers do not panic stands as its cycles say. -/
theorem Reaches.behind (reached : Reaches table limit signals t₀ initial past s t state)
    (calm : table.Calm) : Behind table limit initial past s state := by
  induction reached with
  | start => exact behind_nil initial
  | more reached step turned ih =>
    obtain ⟨untold, scanner, e, ends⟩ := event_of_going step turned
    rw [turn_of_event untold step ends] at turned
    cases e with
    | frame f =>
      obtain ⟨s'', state'', same, -, behind⟩ :=
        ih.frame (calm.calmOn [f] f (List.mem_singleton_self f)) step ends
      cases turned.symm.trans same
      exact behind
    | discarded reason =>
      rcases ih.discard step ends with ⟨s'', same, -, behind⟩ | ⟨-, ended⟩
      · cases turned.symm.trans same
        exact behind
      · cases turned.symm.trans ended

/-- No cycle is taken behind a stop that was seen. -/
theorem Takes.untold (takes : Takes table limit signals t₀ initial taken n) :
    ∀ k < taken.length, (signals k).before = false := by
  intro k less
  have split : taken = taken.take k ++ taken[k] :: taken.drop (k + 1) := by
    rw [← List.drop_eq_getElem_cons, List.take_append_drop]
  obtain ⟨s, t, state, -, untold, -⟩ := takes.at_cycle split
  rwa [List.length_take_of_le (Nat.le_of_lt less)] at untold

end Session

end SerialLink
