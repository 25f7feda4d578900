import Mathlib.Logic.Relation
import SerialLink.Proofs.Engine.Receiving

/-!
# Histories of engines

What becomes of an engine is told by the calls on it, by what its worker comes to in between, and by
what happens to the links outside. `Engine.Step` has all of these one at a time: a worker goes on by
one turn of its session, and may end at any point, with any report or in a panic. A call that waits
for the worker takes place once the worker has ended. So what a settled engine has done
(`Steps.settle`) and what a call of `close` does that has to wait (`Steps.close`) are several steps.
`Engine.Runs` keeps the steps of a history with the engine that stood before each.
-/

namespace SerialLink

/-! ## What stays closed -/

/-- Some links later on: all are there still, and what was closed has stayed closed. -/
def LinksKept (links links' : List Link) : Prop :=
  ∀ (id : Nat) (link : Link), links[id]? = some link →
    ∃ link' : Link, links'[id]? = some link' ∧
      (link.near.isOpen = false → link'.near.isOpen = false)

theorem LinksKept.refl (links : List Link) : LinksKept links links :=
  fun _ link known => ⟨link, known, id⟩

theorem LinksKept.trans {links links' links'' : List Link} (first : LinksKept links links')
    (second : LinksKept links' links'') : LinksKept links links'' := by
  intro id link known
  obtain ⟨link', known', closed⟩ := first id link known
  obtain ⟨link'', known'', closed'⟩ := second id link' known'
  exact ⟨link'', known'', fun shut => closed' (closed shut)⟩

theorem LinksKept.isSome {links links' : List Link} (kept : LinksKept links links') {id : Nat}
    (known : links[id]?.isSome) : links'[id]?.isSome := by
  obtain ⟨link, found⟩ := Option.isSome_iff_exists.1 known
  obtain ⟨link', found', -⟩ := kept id link found
  exact found' ▸ rfl

theorem LinksKept.append (links more : List Link) : LinksKept links (links ++ more) := by
  intro id link known
  obtain ⟨within, -⟩ := List.getElem?_eq_some_iff.1 known
  exact ⟨link, (List.getElem?_append_left within).trans known, fun closed => closed⟩

theorem LinksKept.modify (links : List Link) (id : Nat) {f : Link → Link}
    (kept : ∀ link, links[id]? = some link → link.near.isOpen = false →
      (f link).near.isOpen = false) : LinksKept links (links.modify id f) := by
  intro id' link known
  by_cases same : id = id'
  · subst same
    exact ⟨f link, by simp [known], kept link known⟩
  · exact ⟨link, by simp [same, known], fun closed => closed⟩

/-- A read does not open what is closed. -/
theorem Scan.kept_closed : Scan.Kept fun t t' => t.isOpen = false → t'.isOpen = false where
  trans first second closed := second (first closed)
  reads := by
    intro t t₁ n result read closed
    unfold Transport.readExact at read
    split at read
    · cases read
      exact closed
    · rw [closed, if_neg (by simp)] at read
      cases read
      exact closed

/-- A turn of a session leaves its transport as it was, or as its cycle does. -/
theorem Session.transport_of_turn {σ : Type} {table : Dispatch.Table σ} {limit : Nat}
    {signal : Signal} {s : Session} {t : Transport} {state : σ} {n : Turn σ}
    (turned : s.turn table limit signal t state = some n) :
    n.transport = t ∨ ∃ c, s.scanner.step table.sizes t = some c ∧ n.transport = c.transport := by
  unfold turn at turned
  split at turned
  · cases turned
    exact .inl rfl
  · obtain ⟨c, step, rfl⟩ := Option.map_eq_some_iff.1 turned
    refine .inr ⟨c, step, ?_⟩
    split <;> rfl

theorem Session.closed_of_turn {σ : Type} {table : Dispatch.Table σ} {limit : Nat}
    {signal : Signal} {s : Session} {t : Transport} {state : σ} {n : Turn σ}
    (turned : s.turn table limit signal t state = some n) (closed : t.isOpen = false) :
    n.transport.isOpen = false := by
  rcases transport_of_turn turned with same | ⟨c, step, same⟩
  · rwa [same]
  · rw [same]
    exact Scan.kept_closed.step step closed

/-- What is written at an end opens and closes nothing. -/
theorem Link.isOpen_near_write (l : Link) (e : End) (bytes : List UInt8) :
    (l.write e bytes).2.near.isOpen = l.near.isOpen := by
  unfold Link.write Transport.writeAll
  cases fault : (l.endpoint e).writeFault bytes with
  | some fault => rfl
  | none => cases e <;> rfl

theorem Link.isOpen_near_sendRaw (l : Link) (e : End) (command : UInt16) (body : List UInt8) :
    (l.sendRaw e command body).2.near.isOpen = l.near.isOpen := by
  have written (bytes : List UInt8) := l.isOpen_near_write e bytes
  unfold Link.sendRaw
  split
  · rfl
  · next bytes _ =>
    have same := written bytes
    split
    · next failed => rwa [failed] at same
    · next sent => rwa [sent] at same

namespace Engine

variable {σ : Type}

/-- The engine's end of a link is closed. -/
def Closed (e : Engine σ) (id : Nat) : Prop :=
  ∃ link, e.link? id = some link ∧ link.near.isOpen = false

theorem Closed.of_linksKept {e e' : Engine σ} {id : Nat} (closed : e.Closed id)
    (kept : LinksKept e.links e'.links) : e'.Closed id := by
  obtain ⟨link, known, shut⟩ := closed
  obtain ⟨link', known', still⟩ := kept id link known
  exact ⟨link', known', still shut⟩

theorem linksKept_closeLink (e : Engine σ) (id : Nat) :
    LinksKept e.links (e.closeLink id).links :=
  .modify e.links id fun link _ _ => link.isOpen_close_near

theorem closed_closeLink {e : Engine σ} {id : Nat} (known : (e.link? id).isSome) :
    (e.closeLink id).Closed id := by
  obtain ⟨link, found⟩ := Option.isSome_iff_exists.1 known
  rw [link?] at found
  exact ⟨link.close .near, by simp [closeLink, updateLink, link?, found], link.isOpen_close_near⟩

/-! ## What happens to an engine -/

/-- One thing that happens to an engine. -/
inductive Event (σ : Type) where
  | connect (id : Nat)
  | start
  | stop
  | close
  | join
  | register (f : Dispatch.Table σ → Except Dispatch.Fault (Dispatch.Table σ))
  | requestRaw (command : UInt16) (body : List UInt8)
  /-- the worker has come this far -/
  | worker (progress : Session.Progress)
  /-- something other than the engine -/
  | outside

/-- The engine whose worker has come this far. -/
def progressed (e : Engine σ) : Session.Progress → Engine σ
  | .going session => { e with worker := .running session }
  | .ended report => e.afterSession report
  | .panicked => { e with worker := .panicked }

/-- The engine whose worker has taken turns on a link, which left this. -/
def afterTurns (e : Engine σ) (id : Nat) (n : Session.Turn σ) : Engine σ :=
  progressed { e.updateLink id ({ · with near := n.transport }) with state := n.state } n.progress

/-- One step in the life of an engine, a call or another event. -/
inductive Step : Engine σ → Event σ → Engine σ → Prop where
  | connect (e : Engine σ) (id : Nat) : Step e (.connect id) (e.connect id).2
  | start (e : Engine σ) : Step e .start e.start.2
  | stop (e : Engine σ) : Step e .stop e.stop
  /-- a call that finds a worker waits until it has ended -/
  | close {e : Engine σ} (ended : e.receiving = false) : Step e .close e.close.2
  | join {e e' : Engine σ} {result : Except Dispatch.Fault Session.Report}
      (joined : e.join = some (result, e')) : Step e .join e'
  | register (e : Engine σ) (f : Dispatch.Table σ → Except Dispatch.Fault (Dispatch.Table σ)) :
      Step e (.register f) (e.register f).2
  | requestRaw (e : Engine σ) (command : UInt16) (body : List UInt8) :
      Step e (.requestRaw command body) (e.requestRaw command body).2
  /-- the worker takes a turn of its session on the attached link -/
  | turns {e : Engine σ} {session : Session} {id : Nat} {link : Link} {signal : Session.Signal}
      {n : Session.Turn σ} (running : e.worker = .running session)
      (attached : e.attachedLink? = some (id, link))
      (turned : session.turn e.table e.config.maxReadErrors.toNat signal link.near e.state =
        some n) :
      Step e (.worker n.progress) (e.afterTurns id n)
  /-- the worker ends, whatever it has come to -/
  | ends {e : Engine σ} (atWork : e.receiving = true) (report : Session.Report) :
      Step e (.worker (.ended report)) (e.progressed (.ended report))
  /-- the worker panics -/
  | panics {e : Engine σ} (atWork : e.receiving = true) :
      Step e (.worker .panicked) (e.progressed .panicked)
  /-- links are made and used by others, and closed ones are not opened; what handlers act on is
  theirs too -/
  | outside (e : Engine σ) {links : List Link} (kept : LinksKept e.links links) (state : σ) :
      Step e .outside { e with links := links, state := state }

/-- An engine comes to be another one by some steps. -/
def Steps : Engine σ → Engine σ → Prop :=
  Relation.ReflTransGen fun e e' => ∃ event, Step e event e'

theorem Step.steps {e e' : Engine σ} {event : Event σ} (step : Step e event e') : Steps e e' :=
  .single ⟨event, step⟩

/-! ## What takes several steps -/

/-- A link that is put where it is already changes nothing. -/
theorem updateLink_self {e : Engine σ} {id : Nat} {link : Link} (known : e.link? id = some link) :
    e.updateLink id ({ · with near := link.near }) = e := by
  have same : e.links.modify id ({ · with near := link.near }) = e.links := by
    refine List.ext_getElem? fun i => ?_
    rw [List.getElem?_modify]
    split
    · next here =>
      subst here
      rw [link?] at known
      simp [known]
    · simp
  simp [updateLink, same]

/-- What its worker comes to does not depend on what it was at. -/
theorem progressed_of_worker (e : Engine σ) (worker : Worker) (progress : Session.Progress) :
    progressed { e with worker := worker } progress = progressed e progress := by
  rcases e with ⟨_, _, _, _, _, _ | id, _, _, _, _⟩ <;> cases progress <;> rfl

/-- Turns behind others leave what they would leave alone. -/
theorem afterTurns_afterTurns (e : Engine σ) (id : Nat) (session : Session) (t : Transport)
    (state : σ) (n : Session.Turn σ) :
    (e.afterTurns id ⟨.going session, t, state⟩).afterTurns id n = e.afterTurns id n := by
  have twice : (e.links.modify id ({ · with near := t })).modify id
      ({ · with near := n.transport }) = e.links.modify id ({ · with near := n.transport }) :=
    List.modify_modify_eq ..
  have worker := progressed_of_worker
    { e.updateLink id ({ · with near := n.transport }) with state := n.state } (.running session)
    n.progress
  rw [afterTurns, afterTurns, afterTurns, ← worker]
  simp only [progressed, updateLink, twice]

/-- A worker that goes on as far as it can, whenever it is told to stop, takes its turns one by
one. -/
theorem Steps.run {e : Engine σ} {session : Session} {id : Nat} {link : Link}
    (running : e.worker = .running session) (attached : e.attachedLink? = some (id, link))
    (signals : Nat → Session.Signal) :
    Steps e (e.afterTurns id (session.run e.table e.config.maxReadErrors.toNat signals
      link.near e.state)) := by
  -- A turn that goes on takes something from the feed.
  induction size : link.near.feed.bytes.length using Nat.strong_induction_on
    generalizing e session link signals with
  | h size ih =>
    subst size
    obtain ⟨here, known⟩ := attachedLink?_eq_some_iff.1 attached
    cases turned : session.turn e.table e.config.maxReadErrors.toNat (signals 0) link.near
        e.state with
    | none =>
      have same : e.afterTurns id ⟨.going session, link.near, e.state⟩ = e := by
        rw [afterTurns, updateLink_self known, progressed, ← running]
      rw [Session.run_of_none signals turned, same]
      exact .refl
    | some n =>
      have turn := (Step.turns running attached turned).steps
      rcases n with ⟨session' | report | _, t, state⟩
      · have shorter := Session.length_bytes_turn turned rfl
        have attached' : (e.afterTurns id ⟨.going session', t, state⟩).attachedLink? =
            some (id, { link with near := t }) := by
          rw [link?] at known
          simp [attachedLink?_eq_some_iff, afterTurns, progressed, updateLink, link?, here, known]
        have later := ih t.feed.bytes.length shorter rfl attached' (fun k => signals (k + 1)) rfl
        rw [afterTurns_afterTurns] at later
        rw [Session.run_of_going signals turned]
        exact turn.trans later
      · rw [Session.run_of_ended signals turned]
        exact turn
      · rw [Session.run_of_panicked signals turned]
        exact turn

theorem settle_of_running {e : Engine σ} {session : Session} {id : Nat} {link : Link}
    (running : e.worker = .running session) (attached : e.attachedLink? = some (id, link)) :
    e.settle = e.afterTurns id (session.run e.table e.config.maxReadErrors.toNat
      Session.unstopped link.near e.state) := by
  unfold settle
  rw [running, attached]
  dsimp only [afterTurns]
  split <;> next progress => rw [progress, progressed]

theorem settle_of_ending {e : Engine σ} {report : Session.Report}
    (ending : e.worker = .ending report) : e.settle = e.afterSession report := by
  unfold settle
  rw [ending]

theorem settle_of_ended {e : Engine σ} (ended : e.receiving = false) : e.settle = e := by
  unfold settle
  split
  · next running _ => simp [receiving, running] at ended
  · next ending => simp [receiving, ending] at ended
  · rfl

/-- What its worker does as far as it can without waiting. -/
theorem Steps.settle {e : Engine σ} (attached : e.receiving = true → e.attachedLink?.isSome) :
    Steps e e.settle := by
  cases worker : e.worker with
  | running session =>
    have atWork : e.receiving = true := by rw [receiving, worker]
    obtain ⟨⟨id, link⟩, here⟩ := Option.isSome_iff_exists.1 (attached atWork)
    rw [settle_of_running worker here]
    exact .run worker here Session.unstopped
  | ending report =>
    have atWork : e.receiving = true := by rw [receiving, worker]
    rw [settle_of_ending worker]
    exact (Step.ends atWork report).steps
  | absent | finished | panicked =>
    have ended : e.receiving = false := by rw [receiving, worker]
    rw [settle_of_ended ended]
    exact .refl

/-- There is nothing to stop behind the end of a session. -/
theorem stop_afterSession (e : Engine σ) (report : Session.Report) :
    (e.afterSession report).stop = e.afterSession report := by
  have closed (link : Link) : (link.close .near).close .near = link.close .near := by
    unfold Link.close
    cases kind : link.near.kind <;> simp [Link.update, Transport.close, Transport.hangUp, kind]
  cases attached : e.attached with
  | none => simp [stop, afterSession, attached]
  | some id =>
    have twice : (e.links.modify id (·.close .near)).modify id (·.close .near) =
        e.links.modify id (·.close .near) := by
      rw [List.modify_modify_eq]
      exact congrArg _ (funext closed)
    simp [stop, afterSession, attached, closeLink, updateLink, twice]

theorem close_eq (e : Engine σ) :
    e.close.2 = { e.stop.settle.collect.2 with attached := none, writer := none } := rfl

/-- A call of `close` that finds a worker tells it to stop, waits until it has ended, and then finds
none at work. -/
theorem Steps.close {e : Engine σ} (attached : e.receiving = true → e.attachedLink?.isSome) :
    Steps e e.close.2 := by
  cases atWork : e.receiving with
  | false => exact (Step.close atWork).steps
  | true =>
    obtain ⟨⟨id, link⟩, here⟩ := Option.isSome_iff_exists.1 (attached atWork)
    have stopping : ∃ report, e.stop.worker = .ending report := by
      cases worker : e.worker with
      | running session => exact ⟨_, by simp [stop, worker, here]; rfl⟩
      | ending report => exact ⟨report, by simp [stop, worker]⟩
      | absent | finished | panicked => simp [receiving, worker] at atWork
    obtain ⟨report, ending⟩ := stopping
    have ended : (e.stop.afterSession report).receiving = false := rfl
    have same : (e.stop.afterSession report).close.2 = e.close.2 := by
      rw [close_eq, close_eq, stop_afterSession, settle_of_ended ended, settle_of_ending ending]
    have ends : Step e.stop (.worker (.ended report)) (e.stop.afterSession report) :=
      .ends (by rw [receiving, ending]) report
    rw [← same]
    exact (Step.stop e).steps.trans (ends.steps.trans (Step.close ended).steps)

/-- A moment of a history: an event and the engine that it happened to. -/
structure Moment (σ : Type) where
  before : Engine σ
  event : Event σ

/-- The histories of an engine: what has happened to it, in order, and what it is then. -/
inductive Runs (first : Engine σ) : List (Moment σ) → Engine σ → Prop where
  | nil : Runs first [] first
  | snoc {past : List (Moment σ)} {e e' : Engine σ} {event : Event σ} (runs : Runs first past e)
      (step : Step e event e') : Runs first (past ++ [⟨e, event⟩]) e'

end Engine

end SerialLink
