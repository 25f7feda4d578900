import SerialLink.Proofs.Engine.History

/-!
# What a step changes

Every step of an engine's history changes some of its fields and keeps the others. `Change` says
which, once for each way in which an event can end, with what it depends on; `Step.change` is the
proof. What keeps to fields is then proved by cases on `Change`, and no call is opened again.
-/

namespace SerialLink

namespace Engine

variable {σ : Type} {e e' : Engine σ} {event : Event σ}

/-! ## Workers that have ended -/

/-- The report of a worker that has ended and was not collected yet. -/
def uncollected? (e : Engine σ) : Option Session.Report :=
  match e.worker with
  | .finished report => some report
  | _ => none

/-- The worker, if there is one, has ended without a panic. -/
def calm (e : Engine σ) : Bool :=
  match e.worker with
  | .absent | .finished _ => true
  | _ => false

theorem calm_iff : e.calm = true ↔ e.worker = .absent ∨ ∃ report, e.worker = .finished report := by
  cases worker : e.worker <;> simp [calm, worker]

theorem receiving_of_calm (calm : e.calm = true) : e.receiving = false := by
  cases worker : e.worker <;> simp_all [Engine.calm, receiving]

theorem uncollected?_of_receiving (atWork : e.receiving = true) : e.uncollected? = none := by
  cases worker : e.worker <;> simp_all [receiving, uncollected?]

/-- The engine whose worker, if it has ended, is gone. -/
theorem collect_eq (e : Engine σ) :
    e.collect.2 =
      { e with
        worker := if e.receiving then e.worker else .absent
        lastReport := e.uncollected? <|> e.lastReport } := by
  rcases e with ⟨_, _, _, _, _, _, _, _, _ | _ | _ | _ | _, _⟩ <;> rfl

theorem absent_of_collect (ended : e.receiving = false) : e.collect.2.worker = .absent := by
  rw [collect_eq, ended]
  rfl

theorem receiving_collect (e : Engine σ) : e.collect.2.receiving = e.receiving := by
  rcases e with ⟨_, _, _, _, _, _, _, _, _ | _ | _ | _ | _, _⟩ <;> rfl

theorem uncollected?_collect (e : Engine σ) : e.collect.2.uncollected? = none := by
  rcases e with ⟨_, _, _, _, _, _, _, _, _ | _ | _ | _ | _, _⟩ <;> rfl

/-- What goes on unless a worker is there is refused, or done by an engine without one. -/
theorem cases_of_unlessReceiving {α : Type} {result : Except Dispatch.Fault α}
    {next : Engine σ → Except Dispatch.Fault α × Engine σ}
    (done : e.unlessReceiving next = (result, e')) :
    (result.isOk = false ∧ e' = e.collect.2) ∨
      (e.calm = true ∧ next e.collect.2 = (result, e')) := by
  unfold unlessReceiving at done
  rcases e with ⟨_, _, _, _, _, _, _, _, _ | _ | _ | _ | _, _⟩
  · exact .inr ⟨rfl, done⟩
  · obtain ⟨rfl, rfl⟩ := Prod.mk.inj done
    exact .inl ⟨rfl, rfl⟩
  · obtain ⟨rfl, rfl⟩ := Prod.mk.inj done
    exact .inl ⟨rfl, rfl⟩
  · exact .inr ⟨rfl, done⟩
  · obtain ⟨rfl, rfl⟩ := Prod.mk.inj done
    exact .inl ⟨rfl, rfl⟩

/-- Nothing goes on in front of a worker that has panicked; it is collected. -/
theorem unlessReceiving_of_panicked {α : Type} (panicked : e.worker = .panicked)
    (next : Engine σ → Except Dispatch.Fault α × Engine σ) :
    e.unlessReceiving next = (.error .workerPanicked, { e with worker := .absent }) := by
  simp [unlessReceiving, collect, panicked]

/-! ## The attached link -/

/-- Some links later on, where the attached one is closed. -/
structure Shut (e : Engine σ) (links : List Link) : Prop where
  kept : LinksKept e.links links
  closed : ∀ id, e.attached = some id → (e.link? id).isSome →
    ∃ link, links[id]? = some link ∧ link.near.isOpen = false

/-- The engine with its end of the attached link closed. -/
def closeAttached (e : Engine σ) : Engine σ :=
  match e.attached with
  | some id => e.closeLink id
  | none => e

theorem closeAttached_eq (e : Engine σ) :
    e.closeAttached = { e with links := e.closeAttached.links } := by
  rcases e with ⟨_, _, _, _, _, _ | id, _, _, _, _⟩ <;> rfl

theorem shut_closeAttached (e : Engine σ) : e.Shut e.closeAttached.links := by
  unfold closeAttached
  cases attached : e.attached with
  | none => exact ⟨.refl _, by simp [attached]⟩
  | some id =>
    refine ⟨linksKept_closeLink e id, ?_⟩
    intro id' same known
    obtain rfl : id = id' := Option.some.inj (attached.symm.trans same)
    exact closed_closeLink known

theorem Shut.of_collect {links : List Link} (shut : e.collect.2.Shut links) : e.Shut links := by
  rw [collect_eq] at shut
  exact ⟨shut.kept, shut.closed⟩

/-! ## Steps -/

/-- What a step changes, and what it depends on. -/
inductive Change (e : Engine σ) : Event σ → Engine σ → Prop where
  | connectFails {id : Nat} (fails : (e.connect id).1.isOk = false) :
      Change e (.connect id) e.collect.2
  | attaches {id : Nat} {links : List Link} (succeeds : (e.connect id).1.isOk = true)
      (calm : e.calm = true) (known : (e.link? id).isSome) (shut : e.Shut links) :
      Change e (.connect id)
        { e.collect.2 with
          links := links, attached := some id, writer := some id, connected := true }
  | startFails (fails : e.start.1.isOk = false) : Change e .start e.collect.2
  | starts (succeeds : e.start.1.isOk = true) (calm : e.calm = true)
      (attached : e.attached.isSome) (connected : e.connected = true) :
      Change e .start { e.collect.2 with frozen := true, worker := .running {} }
  | stops {links : List Link} {worker : Worker} (shut : e.Shut links)
      (same : worker = e.worker ∨
        ∃ session report, e.worker = .running session ∧ worker = .ending report) :
      Change e .stop { e with links := links, worker := worker, connected := false }
  | releases {links : List Link} (ended : e.receiving = false) (shut : e.Shut links) :
      Change e .close
        { e.collect.2 with links := links, attached := none, writer := none, connected := false }
  | joins (ended : e.receiving = false) : Change e .join e.collect.2
  | registers (f : Dispatch.Table σ → Except Dispatch.Fault (Dispatch.Table σ)) :
      Change e (.register f)
        { e with table := if e.frozen then e.table else (f e.table).toOption.getD e.table }
  | sends {command : UInt16} {body : List UInt8} {links : List Link}
      (kept : LinksKept e.links links) :
      Change e (.requestRaw command body) { e with links := links }
  | outside {links : List Link} {state : σ} (kept : LinksKept e.links links) :
      Change e .outside { e with links := links, state := state }
  | goesOn {session : Session} {links : List Link} {state : σ} (atWork : e.receiving = true)
      (kept : LinksKept e.links links) :
      Change e (.worker (.going session))
        { e with links := links, state := state, worker := .running session }
  | ends {report : Session.Report} {links : List Link} {state : σ} (atWork : e.receiving = true)
      (kept : LinksKept e.links links) :
      Change e (.worker (.ended report))
        { e with
          links := links, state := state, worker := .finished report, connected := false }
  | panics {links : List Link} {state : σ} (atWork : e.receiving = true)
      (kept : LinksKept e.links links) :
      Change e (.worker .panicked) { e with links := links, state := state, worker := .panicked }

/-- A call of `connect` does nothing but collect, or finds the link open and attaches it in the place
of the one that was attached, which it closes. -/
theorem cases_of_connect {id : Nat} {result : Except Dispatch.Fault Unit}
    (done : e.connect id = (result, e')) :
    (result.isOk = false ∧ e' = e.collect.2) ∨
      (result = .ok () ∧ e.calm = true ∧
        (∃ link, e.link? id = some link ∧ link.near.isOpen = true) ∧
        e' = { e.collect.2.closeAttached with
          attached := some id, writer := some id, connected := true }) := by
  rcases cases_of_unlessReceiving done with refused | ⟨calm, done⟩
  · exact .inl refused
  · dsimp only at done
    split at done
    · obtain ⟨rfl, rfl⟩ := Prod.mk.inj done
      exact .inl ⟨rfl, rfl⟩
    · next link known =>
      split at done
      · next isOpen =>
        obtain ⟨rfl, rfl⟩ := Prod.mk.inj done
        rw [collect_eq] at known
        exact .inr ⟨rfl, calm, ⟨link, known, isOpen⟩, rfl⟩
      · obtain ⟨rfl, rfl⟩ := Prod.mk.inj done
        exact .inl ⟨rfl, rfl⟩

theorem change_of_connect {id : Nat} {result : Except Dispatch.Fault Unit}
    (done : e.connect id = (result, e')) : Change e (.connect id) e' := by
  have same : (e.connect id).1 = result := congrArg Prod.fst done
  rcases cases_of_connect done with ⟨fails, rfl⟩ | ⟨rfl, calm, ⟨link, known, -⟩, rfl⟩
  · exact .connectFails (same ▸ fails)
  · have shut := e.collect.2.shut_closeAttached
    rw [closeAttached_eq]
    exact .attaches (same ▸ rfl) calm (known ▸ rfl) shut.of_collect

/-- A call of `start` does nothing but collect, or begins a session on the attached link. -/
theorem cases_of_start {result : Except Dispatch.Fault Unit} (done : e.start = (result, e')) :
    (result.isOk = false ∧ e' = e.collect.2) ∨
      (result = .ok () ∧ e.calm = true ∧ (e.attached.isSome ∧ e.connected = true) ∧
        e' = { e.collect.2 with frozen := true, worker := .running {} }) := by
  rcases cases_of_unlessReceiving done with refused | ⟨calm, done⟩
  · exact .inl refused
  · split at done
    · next ready =>
      obtain ⟨rfl, rfl⟩ := Prod.mk.inj done
      rw [collect_eq] at ready
      exact .inr ⟨rfl, calm, Bool.and_eq_true_iff.1 ready, rfl⟩
    · obtain ⟨rfl, rfl⟩ := Prod.mk.inj done
      exact .inl ⟨rfl, rfl⟩

theorem change_of_start {result : Except Dispatch.Fault Unit} (done : e.start = (result, e')) :
    Change e .start e' := by
  have same : e.start.1 = result := congrArg Prod.fst done
  rcases cases_of_start done with ⟨fails, rfl⟩ | ⟨rfl, calm, ⟨attached, connected⟩, rfl⟩
  · exact .startFails (same ▸ fails)
  · exact .starts (same ▸ rfl) calm attached connected

/-- The stop reaches a session at work, and no other worker. -/
theorem worker_stop (e : Engine σ) :
    e.stop.worker = e.worker ∨
      ∃ session report, e.worker = .running session ∧ e.stop.worker = .ending report := by
  simp only [stop]
  split
  · next running _ => exact .inr ⟨_, _, running, rfl⟩
  · exact .inl rfl

theorem change_stop (e : Engine σ) : Change e .stop e.stop := by
  have stopped : e.stop =
      { e.closeAttached with worker := e.stop.worker, connected := false } := rfl
  rw [stopped, closeAttached_eq]
  exact .stops e.shut_closeAttached e.worker_stop

theorem change_close (ended : e.receiving = false) : Change e .close e.close.2 := by
  have stopped : e.stop = { e.closeAttached with connected := false } := by
    rcases e with ⟨_, _, _, _, _, _ | id, _, _, _ | _ | _ | _ | _, _⟩ <;>
      first | rfl | cases ended
  have quiet : e.stop.receiving = false := by
    rw [stopped, closeAttached_eq]
    exact ended
  rw [close_eq, settle_of_ended quiet, stopped, closeAttached_eq, collect_eq]
  have changed := Change.releases ended e.shut_closeAttached
  rw [collect_eq] at changed
  exact changed

theorem change_of_join {result : Except Dispatch.Fault Session.Report}
    (done : e.join = some (result, e')) : Change e .join e' := by
  unfold join at done
  split at done
  · next absent =>
    cases done
    have changed := Change.joins (e := e) (by rw [receiving, absent])
    rwa [show e.collect.2 = e by rw [collect, absent]] at changed
  · cases done
  · cases done
  · next finished =>
    cases done
    exact .joins (by rw [receiving, finished])
  · next panicked =>
    cases done
    exact .joins (by rw [receiving, panicked])

theorem change_register (e : Engine σ)
    (f : Dispatch.Table σ → Except Dispatch.Fault (Dispatch.Table σ)) :
    Change e (.register f) (e.register f).2 := by
  have same : (e.register f).2 =
      { e with table := if e.frozen then e.table else (f e.table).toOption.getD e.table } := by
    unfold register
    split
    · rfl
    · split
      · next refused =>
        rw [refused]
        rfl
      · next accepted =>
        rw [accepted]
        rfl
  rw [same]
  exact .registers f

theorem linksKept_sendRawOn (e : Engine σ) (id : Nat) (command : UInt16) (body : List UInt8) :
    ∃ links, LinksKept e.links links ∧
      (e.sendRawOn id command body).2 = { e with links := links } := by
  unfold sendRawOn
  split
  · exact ⟨e.links, .refl _, rfl⟩
  · next link known =>
    refine ⟨_, .modify e.links id fun link' known' closed => ?_, rfl⟩
    obtain rfl : link = link' := Option.some.inj (known.symm.trans known')
    rwa [link.isOpen_near_sendRaw]

theorem change_requestRaw (e : Engine σ) (command : UInt16) (body : List UInt8) :
    Change e (.requestRaw command body) (e.requestRaw command body).2 := by
  cases writer : e.writer with
  | none =>
    simp only [requestRaw, writer]
    exact .sends (.refl _)
  | some id =>
    obtain ⟨links, kept, sent⟩ := linksKept_sendRawOn e id command body
    simp only [requestRaw, writer]
    rw [sent]
    exact .sends kept

/-- What the worker comes to, behind turns that have changed the links and the handlers' state. -/
theorem change_progressed {links : List Link} (atWork : e.receiving = true)
    (kept : LinksKept e.links links) (state : σ) (progress : Session.Progress) :
    Change e (.worker progress)
      (progressed { e with links := links, state := state } progress) := by
  cases progress with
  | going session => exact .goesOn atWork kept
  | panicked => exact .panics atWork kept
  | ended report =>
    change Change e _ { closeAttached { e with links := links, state := state } with
      worker := .finished report, connected := false }
    have shut := shut_closeAttached { e with links := links, state := state }
    rw [closeAttached_eq]
    exact .ends atWork (kept.trans shut.kept)

theorem Step.change (step : Step e event e') : Change e event e' := by
  cases step with
  | connect id => exact change_of_connect rfl
  | start => exact change_of_start rfl
  | stop => exact change_stop e
  | close ended => exact change_close ended
  | join joined => exact change_of_join joined
  | register f => exact change_register e f
  | requestRaw command body => exact change_requestRaw e command body
  | turns running attached turned =>
    obtain ⟨-, known⟩ := attachedLink?_eq_some_iff.1 attached
    refine change_progressed (by rw [receiving, running]) (.modify e.links _ ?_) _ _
    intro link' known' closed
    obtain rfl := Option.some.inj (known.symm.trans known')
    exact Session.closed_of_turn turned closed
  | ends atWork report => exact change_progressed atWork (.refl _) e.state _
  | panics atWork => exact change_progressed atWork (.refl _) e.state _
  | outside kept state => exact .outside kept

end Engine

end SerialLink
