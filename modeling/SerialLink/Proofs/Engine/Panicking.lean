import SerialLink.Proofs.Engine.Stopping

/-!
# Handlers that panic

A handler that panics ends its session. Beside a table there may be another one that does the same
except that nothing panics (`Table.Calms`); there always is one (`Table.calms_calmed`). A session
takes the cycles that it would take with that one, up to and including the first whose frame makes a
handler panic (`Session.takes_of_calms`).
-/

namespace SerialLink

namespace Dispatch

/-- The reply of a handler that returns instead of panicking. -/
def Reply.calmed : Reply → Reply
  | .panicked => .done
  | reply => reply

theorem Reply.calmed_ne_panicked (reply : Reply) : reply.calmed ≠ .panicked := by
  cases reply <;> simp [calmed]

theorem Reply.calmed_of_ne {reply : Reply} (other : reply ≠ .panicked) : reply.calmed = reply := by
  cases reply with
  | done | failed => rfl
  | panicked => exact absurd rfl other

variable {σ : Type}

/-- The entry whose handler returns instead of panicking. -/
def Entry.calmed (e : Entry σ) : Entry σ :=
  { e with handler := fun body s => ((e.handler body s).1.calmed, (e.handler body s).2) }

namespace Table

/-- A table does what another one does wherever that one does not panic, and never panics itself. -/
structure Calms (calmed t : Table σ) : Prop where
  sizes : calmed.sizes = t.sizes
  same : ∀ f s, (t.dispatch f s).1 ≠ .panicked → calmed.dispatch f s = t.dispatch f s
  calm : calmed.Calm

/-- The table whose handlers return instead of panicking. -/
def calmed (t : Table σ) : Table σ :=
  ⟨t.entries.map Entry.calmed⟩

theorem lookup_calmed (t : Table σ) (command : UInt16) :
    t.calmed.lookup command = (t.lookup command).map Entry.calmed := by
  rw [lookup, calmed, List.find?_map]
  rfl

theorem calms_calmed (t : Table σ) : t.calmed.Calms t where
  sizes := by
    funext command
    rw [sizes, lookup_calmed, Option.map_map]
    rfl
  same f s other := by
    rw [dispatch] at other ⊢
    rw [dispatch, lookup_calmed]
    cases found : t.lookup f.command with
    | none => rfl
    | some e =>
      rw [found] at other
      exact Prod.ext (Reply.calmed_of_ne other) rfl
  calm e member body s := by
    obtain ⟨e', -, rfl⟩ := List.mem_map.1 member
    exact Reply.calmed_ne_panicked _

/-- No handler panics when the handlers are called for some frames, one after the other. -/
def Quiet (t : Table σ) (frames : List Wire.Frame) (s : σ) : Prop :=
  .panicked ∉ (t.dispatchAll frames s).1

instance (t : Table σ) (frames : List Wire.Frame) (s : σ) : Decidable (t.Quiet frames s) :=
  inferInstanceAs (Decidable (_ ∉ _))

variable {t calmed : Table σ} {frames : List Wire.Frame} {f : Wire.Frame} {s : σ}

theorem quiet_nil : t.Quiet [] s :=
  List.not_mem_nil

theorem quiet_snoc : t.Quiet (frames ++ [f]) s ↔
    t.Quiet frames s ∧ (t.dispatch f (t.dispatchAll frames s).2).1 ≠ .panicked := by
  simp [Quiet, dispatchAll_snoc, eq_comm]

/-- As long as nothing panics, the calls are the same. -/
theorem Calms.dispatchAll (calms : calmed.Calms t) (quiet : t.Quiet frames s) :
    calmed.dispatchAll frames s = t.dispatchAll frames s := by
  induction frames using List.reverseRecOn with
  | nil => rfl
  | append_singleton frames f ih =>
    obtain ⟨before, last⟩ := quiet_snoc.1 quiet
    rw [dispatchAll_snoc, dispatchAll_snoc, ih before, calms.same _ _ last]

end Table

end Dispatch

namespace Session

variable {σ : Type} {table calmed : Dispatch.Table σ} {limit : Nat} {signals : Nat → Signal}
  {t t₀ : Transport} {state initial : σ} {s : Session} {past taken : List Scan.Cycle}
  {c : Scan.Cycle} {n : Turn σ}

/-- As long as no handler panics, a session comes as far as it would if none did. -/
theorem Reaches.of_calms (calms : calmed.Calms table)
    (reached : Reaches calmed limit signals t₀ initial past s t state)
    (quiet : table.Quiet (Scan.frames past) initial) :
    Reaches table limit signals t₀ initial past s t state := by
  induction reached with
  | start => exact .start
  | @more past c s s' t state state' reached step turned ih =>
    obtain ⟨untold, -, e, ends⟩ := event_of_going step turned
    have step' := step
    rw [calms.sizes] at step'
    cases e with
    | discarded reason =>
      have other : c.frame? = none := by simp [Scan.Cycle.frame?, Scan.Event.frame?, ends]
      rw [Scan.frames_snoc_of_none other] at quiet
      refine .more (ih quiet) step' ?_
      rw [← turned, turn_of_discard untold step ends, turn_of_discard untold step' ends]
    | frame f =>
      have handed : c.frame? = some f := Scan.Cycle.frame?_eq_some_iff.2 ends
      rw [Scan.frames_snoc_of_some handed, Dispatch.Table.quiet_snoc] at quiet
      obtain ⟨before, last⟩ := quiet
      have now : state = (table.dispatchAll (Scan.frames past) initial).2 := by
        rw [(reached.behind calms.calm).state, calms.dispatchAll before]
      refine .more (ih before) step' ?_
      rw [← turned, turn_of_frame untold step ends, turn_of_frame untold step' ends,
        calms.same f state (now ▸ last)]

/-- If no handler panics at all, the session is the one that it would be if none did. -/
theorem Takes.of_calms (calms : calmed.Calms table)
    (takes : Takes calmed limit signals t₀ initial taken n)
    (quiet : table.Quiet (Scan.frames taken) initial) :
    Takes table limit signals t₀ initial taken n := by
  cases takes with
  | waits reached turned =>
    refine .waits (reached.of_calms calms quiet) ?_
    rw [turn_eq_none_iff] at turned ⊢
    rwa [← calms.sizes]
  | told reached stop => exact .told (reached.of_calms calms quiet) stop
  | @last past c s t state _ reached untold step turned ends =>
    obtain ⟨other, -⟩ := reached.last_turn calms.calm untold step turned ends
    rw [Scan.frames_snoc_of_none other] at quiet
    have step' := step
    rw [calms.sizes] at step'
    refine .last (reached.of_calms calms quiet) untold step' ?_ ends
    rw [← turned]
    cases result : c.result with
    | error fault => rw [turn_of_error untold step result, turn_of_error untold step' result]
    | ok e =>
      cases e with
      | frame f => simp [Scan.Cycle.frame?, Scan.Event.frame?, result] at other
      | discarded reason =>
        rw [turn_of_discard untold step result, turn_of_discard untold step' result]

/-- The first of some cycles with whose frame a handler panics. -/
structure FirstPanic (table : Dispatch.Table σ) (initial : σ) (older : List Scan.Cycle)
    (c : Scan.Cycle) (f : Wire.Frame) : Prop where
  handed : c.result = .ok (.frame f)
  before : table.Quiet (Scan.frames older) initial
  panics : (table.dispatch f (table.dispatchAll (Scan.frames older) initial).2).1 = .panicked

theorem exists_firstPanic {cycles : List Scan.Cycle}
    (panics : ¬table.Quiet (Scan.frames cycles) initial) :
    ∃ older c newer f, cycles = older ++ c :: newer ∧ FirstPanic table initial older c f := by
  induction cycles using List.reverseRecOn with
  | nil => exact absurd Dispatch.Table.quiet_nil panics
  | append_singleton cycles last ih =>
    by_cases before : table.Quiet (Scan.frames cycles) initial
    · cases handed : last.frame? with
      | none =>
        rw [Scan.frames_snoc_of_none handed] at panics
        exact absurd before panics
      | some f =>
        rw [Scan.frames_snoc_of_some handed, Dispatch.Table.quiet_snoc] at panics
        exact ⟨cycles, last, [], f, rfl, Scan.Cycle.frame?_eq_some_iff.1 handed, before,
          Decidable.not_not.1 fun other => panics ⟨before, other⟩⟩
    · obtain ⟨older, c, newer, f, split, first⟩ := ih before
      exact ⟨older, c, newer ++ [last], f, by simp [split], first⟩

/-- The first panic ends the session, behind the call that has panicked. -/
theorem FirstPanic.takes {older newer : List Scan.Cycle} {f : Wire.Frame}
    (first : FirstPanic table initial older c f) (calms : calmed.Calms table)
    (takes : Takes calmed limit signals t₀ initial (older ++ c :: newer) n) :
    Takes table limit signals t₀ initial (older ++ [c])
      ⟨.panicked, c.transport, (table.dispatchAll (Scan.frames older ++ [f]) initial).2⟩ := by
  obtain ⟨s, t, state, reached, untold, step⟩ := takes.at_cycle rfl
  obtain rfl : state = (table.dispatchAll (Scan.frames older) initial).2 := by
    rw [(reached.behind calms.calm).state, calms.dispatchAll first.before]
  rw [calms.sizes] at step
  have turned : s.turn table limit (signals older.length) t
      (table.dispatchAll (Scan.frames older) initial).2 = _ :=
    turn_of_frame untold step first.handed
  rw [first.panics] at turned
  rw [Dispatch.Table.dispatchAll_snoc]
  exact .last (reached.of_calms calms first.before) untold step turned (by simp)

/-- A session is the one in which nothing panics, or it ends with the first panic of that one. -/
theorem takes_of_calms (calms : calmed.Calms table) (limit : Nat) (signals : Nat → Signal)
    (t₀ : Transport) (initial : σ) :
    ∃ whole, Takes calmed limit signals t₀ initial whole
        (run calmed limit signals {} t₀ initial) ∧
      ((table.Quiet (Scan.frames whole) initial ∧
          run table limit signals {} t₀ initial = run calmed limit signals {} t₀ initial) ∨
        ∃ older c newer f, whole = older ++ c :: newer ∧ FirstPanic table initial older c f ∧
          Takes table limit signals t₀ initial (older ++ [c])
            (run table limit signals {} t₀ initial) ∧
          run table limit signals {} t₀ initial =
            ⟨.panicked, c.transport,
              (table.dispatchAll (Scan.frames older ++ [f]) initial).2⟩) := by
  obtain ⟨whole, takes⟩ := takes_run calmed limit signals t₀ initial
  refine ⟨whole, takes, ?_⟩
  by_cases quiet : table.Quiet (Scan.frames whole) initial
  · exact .inl ⟨quiet, (takes.of_calms calms quiet).run_eq⟩
  · obtain ⟨older, c, newer, f, rfl, first⟩ := exists_firstPanic quiet
    have ended := first.takes calms takes
    exact .inr ⟨older, c, newer, f, rfl, first, ended.run_eq ▸ ended, ended.run_eq⟩

end Session

end SerialLink
