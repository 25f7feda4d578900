import SerialLink.Proofs.Dispatch.Registration
import SerialLink.Proofs.Engine.Changes

/-!
# Calls that are refused

A call of an engine may be refused for the state that the engine is in, for the link or the device
that it is given, or for a command that is taken. All checks stand in front of the first change, but
for one: `connect` and `start` collect a worker that has ended before they look any further. So a
call that is refused leaves everything but such a worker as it was (`leftAlone_of_refused`), and so
does any series of them (`refused_calls_leave_engine`). A registration is made in place, on the
engine's own table, and leaves no part of itself behind (`registerInPlace_eq`).
-/

namespace SerialLink

namespace Engine

variable {σ : Type} {e e' e'' : Engine σ}

/-! ## Calls -/

/-- Registers on the engine's table itself, while it takes registrations. -/
def registerInPlace (e : Engine σ) (call : Dispatch.Registration σ) :
    Except Dispatch.Fault Unit × Engine σ :=
  if e.frozen then (.error .registrationClosed, e)
  else
    let (result, table) := call.carryOut.on e.table
    (result, { e with table := table })

/-- Registering in place comes to the same as replacing the table by a new one. -/
theorem registerInPlace_eq (e : Engine σ) (call : Dispatch.Registration σ) :
    e.registerInPlace call = e.register fun table => call.onto table := by
  unfold registerInPlace register
  split
  · rfl
  · rw [Dispatch.Registration.carryOut_on]
    dsimp only
    cases call.onto e.table <;> rfl

/-- A call that an engine may refuse. -/
inductive Call (σ : Type) where
  | connect (id : Nat)
  | connectLine (host : Host) (config : LineConfig)
  | start
  | join
  | register (call : Dispatch.Registration σ)

/-- What a call is answered with and the engine that it leaves; `none` while it waits. -/
def Call.on (e : Engine σ) : Call σ → Option (Except Dispatch.Fault Unit × Engine σ)
  | connect id => some (e.connect id)
  | connectLine host config => some (e.connectLine host config)
  | start => some e.start
  | join => e.join.map fun (result, e) => (result.map fun _ => (), e)
  | register call => some (e.registerInPlace call)

/-- The faults with which a call is refused. A worker that has panicked is none: the call that is
answered so has asked for the worker and got it. -/
inductive Refusal : Call σ → Dispatch.Fault → Prop where
  | receiving {id : Nat} : Refusal (.connect id) .alreadyReceiving
  | closed {id : Nat} : Refusal (.connect id) (.transport .closed)
  | unopened {host : Host} {config : LineConfig} {cause : Transport.Fault}
      (fails : host.openLine config = .error cause) :
      Refusal (.connectLine host config) (.transport cause)
  | started : Refusal .start .alreadyReceiving
  | unconnected : Refusal .start .notConnected
  | unstarted : Refusal .join .notReceiving
  | frozen {call : Dispatch.Registration σ} : Refusal (.register call) .registrationClosed
  | taken {call : Dispatch.Registration σ} {command : UInt16} {name : String} :
      Refusal (.register call) (.duplicateCommand command name)

/-- Some calls, each of which is refused by the engine that the one before it has left. -/
inductive Refused : Engine σ → List (Call σ) → Engine σ → Prop where
  | nil (e : Engine σ) : Refused e [] e
  | cons {e e' e'' : Engine σ} {call : Call σ} {calls : List (Call σ)} {fault : Dispatch.Fault}
      (refusal : Refusal call fault) (answered : call.on e = some (.error fault, e'))
      (later : Refused e' calls e'') : Refused e (call :: calls) e''

/-! ## What a refused call leaves -/

/-- An engine later on that is as it was, but that a worker which had ended may have been
collected. -/
structure LeftAlone (e e' : Engine σ) : Prop where
  attached : e'.attached = e.attached
  /-- every link, the attached one or another, is open or closed as it was -/
  links : e'.links = e.links
  writer : e'.writer = e.writer
  connected : e'.connected = e.connected
  table : e'.table = e.table
  frozen : e'.frozen = e.frozen
  state : e'.state = e.state
  config : e'.config = e.config
  worker : e'.worker = e.worker ∧ e'.lastReport = e.lastReport ∨
    ∃ report, e.worker = .finished report ∧ e'.worker = .absent ∧ e'.lastReport = some report

theorem LeftAlone.refl (e : Engine σ) : LeftAlone e e :=
  ⟨rfl, rfl, rfl, rfl, rfl, rfl, rfl, rfl, .inl ⟨rfl, rfl⟩⟩

theorem LeftAlone.trans (first : LeftAlone e e') (second : LeftAlone e' e'') :
    LeftAlone e e'' where
  attached := second.attached.trans first.attached
  links := second.links.trans first.links
  writer := second.writer.trans first.writer
  connected := second.connected.trans first.connected
  table := second.table.trans first.table
  frozen := second.frozen.trans first.frozen
  state := second.state.trans first.state
  config := second.config.trans first.config
  worker := by
    rcases first.worker with ⟨same, told⟩ | ⟨report, finished, absent, told⟩
    · rcases second.worker with ⟨same', told'⟩ | ⟨report, finished, absent, told'⟩
      · exact .inl ⟨same'.trans same, told'.trans told⟩
      · exact .inr ⟨report, same ▸ finished, absent, told'⟩
    · rcases second.worker with ⟨same, told'⟩ | ⟨report', finished', -, -⟩
      · exact .inr ⟨report, finished, same.trans absent, told'.trans told⟩
      · -- There is only one worker to collect.
        rw [absent] at finished'
        cases finished'

/-- Collecting leaves an engine alone whose worker has not panicked. -/
theorem leftAlone_collect (other : e.worker ≠ .panicked) : LeftAlone e e.collect.2 := by
  rw [collect_eq]
  refine ⟨rfl, rfl, rfl, rfl, rfl, rfl, rfl, rfl, ?_⟩
  cases worker : e.worker with
  | finished report =>
    exact .inr ⟨report, rfl, by simp [receiving, worker], by simp [uncollected?, worker]⟩
  | panicked => exact absurd worker other
  | absent | running | ending => exact .inl (by simp [receiving, uncollected?, worker])

/-- A worker that has panicked is what a call tells that finds one. -/
theorem ne_panicked_of_unlessReceiving {fault : Dispatch.Fault}
    {next : Engine σ → Except Dispatch.Fault Unit × Engine σ}
    (done : e.unlessReceiving next = (.error fault, e')) (other : fault ≠ .workerPanicked) :
    e.worker ≠ .panicked := by
  intro panicked
  rw [unlessReceiving_of_panicked panicked] at done
  exact other (Except.error.inj (congrArg Prod.fst done)).symm

theorem leftAlone_of_connect {id : Nat} {fault : Dispatch.Fault}
    (done : e.connect id = (.error fault, e')) (other : fault ≠ .workerPanicked) :
    LeftAlone e e' := by
  rcases cases_of_connect done with ⟨-, rfl⟩ | ⟨succeeds, -⟩
  · exact leftAlone_collect (ne_panicked_of_unlessReceiving done other)
  · cases succeeds

theorem leftAlone_of_start {fault : Dispatch.Fault} (done : e.start = (.error fault, e'))
    (other : fault ≠ .workerPanicked) : LeftAlone e e' := by
  rcases cases_of_start done with ⟨-, rfl⟩ | ⟨succeeds, -⟩
  · exact leftAlone_collect (ne_panicked_of_unlessReceiving done other)
  · cases succeeds

/-- A device that is not opened is no matter of the engine. -/
theorem connectLine_of_unopened {host : Host} {config : LineConfig} {cause : Transport.Fault}
    (fails : host.openLine config = .error cause) :
    e.connectLine host config = (.error (.transport cause), e) := by
  rw [connectLine, fails]

theorem eq_of_join {result : Except Dispatch.Fault Session.Report}
    (done : e.join = some (result, e')) (refused : result = .error .notReceiving) : e' = e := by
  unfold join at done
  split at done
  · cases done
    rfl
  · cases done
  · cases done
  · cases done
    cases refused
  · cases done
    cases refused

theorem eq_of_registerInPlace {call : Dispatch.Registration σ} {fault : Dispatch.Fault}
    (done : e.registerInPlace call = (.error fault, e')) : e' = e := by
  rw [registerInPlace_eq, register] at done
  split at done
  · cases done
    rfl
  · split at done
    · cases done
      rfl
    · cases done

theorem leftAlone_of_refused {call : Call σ} {fault : Dispatch.Fault}
    (refusal : Refusal call fault) (answered : call.on e = some (.error fault, e')) :
    LeftAlone e e' := by
  cases refusal with
  | receiving | closed => exact leftAlone_of_connect (Option.some.inj answered) (by simp)
  | unopened fails =>
    have kept : e.connectLine _ _ = (_, e') := Option.some.inj answered
    rw [connectLine_of_unopened fails] at kept
    cases kept
    exact .refl e
  | started | unconnected => exact leftAlone_of_start (Option.some.inj answered) (by simp)
  | unstarted =>
    obtain ⟨⟨result, left⟩, joined, told⟩ := Option.map_eq_some_iff.1 answered
    obtain ⟨failed, rfl⟩ := Prod.mk.inj told
    have refused : result = .error .notReceiving := by
      cases result with
      | error fault => exact congrArg _ (Except.error.inj failed)
      | ok report => cases failed
    rw [eq_of_join joined refused]
    exact .refl e
  | frozen | taken =>
    rw [eq_of_registerInPlace (Option.some.inj answered)]
    exact .refl e

/-- **Refused calls leave the engine as it was.** Let an engine, whatever it has been through, refuse
any calls one after the other: `connect` because a worker is there or the link is closed, `start`
because a worker is there or no link is connected, the opening of a device that fails, `join` because
there is no worker, and registrations, carried out on its own table, because the table is frozen or a
command is taken. Then the attached link and all others, open or closed, the writer, whether it
counts as connected, the registrations and whether it takes more of them, all are what they were. At
most a worker that had ended without a panic has been collected, and its report is the last one. A
link that was refused has not been attached by it, nor closed. -/
theorem refused_calls_leave_engine {calls : List (Call σ)} (refused : Refused e calls e') :
    LeftAlone e e' ∧ ∀ id, .connect id ∈ calls →
      (e'.attached = some id ↔ e.attached = some id) ∧ e'.link? id = e.link? id := by
  have alone : LeftAlone e e' := by
    induction refused with
    | nil e => exact .refl e
    | cons refusal answered _ ih => exact (leftAlone_of_refused refusal answered).trans ih
  refine ⟨alone, fun id _ => ⟨by rw [alone.attached], ?_⟩⟩
  rw [link?, link?, alone.links]

/-- A command that is taken is refused, and so are a link and a second worker while one is at work.
Behind the end of a session five calls are refused, the first of which collects the worker. -/
theorem refused_calls_leave_engine_behind_session :
    let entry : Dispatch.Registration Nat := .raw 7 0 "counter" fun _ n => (.done, n + 1)
    let nowhere : Host := ⟨fun _ => .error .noEntry⟩
    let report : Session.Report := ⟨{}, 0, .connectionLost "connection closed"⟩
    let first : Engine Nat := { state := 0, links := [Link.pair, Link.pair.close .near, Link.pair] }
    let registered := (first.registerInPlace entry).2
    let atWork := (registered.connect 0).2.start.2
    let ended := atWork.progressed (.ended report)
    let collected := { ended with worker := .absent, lastReport := some report }
    let calls : List (Call Nat) :=
      [.connect 1, .start, .join, .register entry, .connectLine nowhere { device := "tty" }]
    (Refused registered [.register entry] registered ∧ LeftAlone registered registered) ∧
      (Refused atWork [.connect 2, .start] atWork ∧ LeftAlone atWork atWork) ∧
      (Refused ended calls collected ∧ LeftAlone ended collected ∧
        collected.link? 1 = ended.link? 1) ∧
      atWork.worker = .running {} ∧ ended.worker = .finished report := by
  intro entry nowhere report first registered atWork ended collected calls
  have taken : Refused registered [.register entry] registered := .cons .taken rfl (.nil _)
  have busy : Refused atWork [.connect 2, .start] atWork :=
    .cons .receiving rfl (.cons .started rfl (.nil _))
  have behind : Refused ended calls collected :=
    .cons .closed rfl (.cons .unconnected rfl (.cons .unstarted rfl (.cons .frozen rfl
      (.cons (.unopened rfl) rfl (.nil _)))))
  obtain ⟨alone, links⟩ := refused_calls_leave_engine behind
  have kept := (links 1 (List.mem_cons_self)).2
  exact ⟨⟨taken, (refused_calls_leave_engine taken).1⟩, ⟨busy, (refused_calls_leave_engine busy).1⟩,
    ⟨behind, alone, kept⟩, rfl, rfl⟩

end Engine

end SerialLink
