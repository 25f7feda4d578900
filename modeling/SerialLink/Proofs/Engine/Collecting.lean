import SerialLink.Proofs.Engine.Lifecycle
import SerialLink.Proofs.Engine.Panicking
import SerialLink.Proofs.Scan.Delivery

/-!
# Collecting a worker that has panicked

A worker that has panicked is there until a call asks for it. That call fails and changes nothing
but that the worker is gone (`Engine.Collects`), and no call fails so behind it before another
worker is started (`Engine.AfterPanic`). What has not been read by then is still there to be read
(`Runs.feedsKept`).
-/

namespace SerialLink

/-! ## What is left to read -/

/-- Some links later on, from which nothing was read and to which nothing came. -/
def FeedsKept (links links' : List Link) : Prop :=
  ∀ (id : Nat) (link : Link), links[id]? = some link →
    ∃ link' : Link, links'[id]? = some link' ∧ link'.near.feed = link.near.feed

theorem FeedsKept.refl (links : List Link) : FeedsKept links links :=
  fun _ link known => ⟨link, known, rfl⟩

theorem FeedsKept.trans {links links' links'' : List Link} (first : FeedsKept links links')
    (second : FeedsKept links' links'') : FeedsKept links links'' := by
  intro id link known
  obtain ⟨link', known', same⟩ := first id link known
  obtain ⟨link'', known'', same'⟩ := second id link' known'
  exact ⟨link'', known'', same'.trans same⟩

theorem FeedsKept.modify (links : List Link) (id : Nat) {f : Link → Link}
    (kept : ∀ link, links[id]? = some link → (f link).near.feed = link.near.feed) :
    FeedsKept links (links.modify id f) := by
  intro id' link known
  by_cases same : id = id'
  · subst same
    exact ⟨f link, by simp [known], kept link known⟩
  · exact ⟨link, by simp [same, known], rfl⟩

theorem Link.feed_close_near (l : Link) : (l.close .near).near.feed = l.near.feed := by
  unfold Link.close
  cases l.near.kind <;> rfl

/-- What is sent at the near end comes to the far one. -/
theorem Link.feed_sendRaw_near (l : Link) (command : UInt16) (body : List UInt8) :
    (l.sendRaw .near command body).2.near.feed = l.near.feed := by
  have written (bytes : List UInt8) : (l.write .near bytes).2.near.feed = l.near.feed := by
    unfold Link.write Transport.writeAll
    cases fault : (l.endpoint .near).writeFault bytes <;> rfl
  unfold Link.sendRaw
  split
  · rfl
  · next bytes _ =>
    have same := written bytes
    split
    · next failed => rwa [failed] at same
    · next sent => rwa [sent] at same

namespace Engine

variable {σ : Type} {e e' first : Engine σ} {event : Event σ} {past : List (Moment σ)} {id : Nat}

theorem feedsKept_closeAttached (e : Engine σ) : FeedsKept e.links e.closeAttached.links := by
  unfold closeAttached
  cases e.attached with
  | none => exact .refl _
  | some id => exact .modify _ _ fun link _ => link.feed_close_near

/-- No call reads from a link. -/
theorem feedsKept_of_step (step : Step e event e') (ended : e.receiving = false)
    (inside : event ≠ .outside) : FeedsKept e.links e'.links := by
  have collected : e.collect.2.links = e.links := by rw [collect_eq]
  cases step with
  | connect id =>
    rcases cases_of_connect (Prod.eta (e.connect id)).symm with ⟨-, same⟩ | ⟨-, -, -, same⟩
    · rw [same, collected]
      exact .refl _
    · have kept := e.collect.2.feedsKept_closeAttached
      rw [same]
      rwa [collected] at kept
  | start =>
    rcases cases_of_start (Prod.eta e.start).symm with ⟨-, same⟩ | ⟨-, -, -, same⟩
    · rw [same, collected]
      exact .refl _
    · rw [same]
      exact collected ▸ .refl _
  | stop => exact e.feedsKept_closeAttached
  | close =>
    have quiet : e.stop.receiving = false := by
      rcases e.worker_stop with same | ⟨session, report, running, -⟩
      · rwa [receiving, same]
      · rw [receiving, running] at ended
        cases ended
    rw [close_eq, settle_of_ended quiet, collect_eq]
    exact e.feedsKept_closeAttached
  | join joined =>
    unfold join at joined
    split at joined
    · cases joined
      exact .refl _
    · cases joined
    · cases joined
    · cases joined
      rw [collect_eq]
      exact .refl _
    · cases joined
      rw [collect_eq]
      exact .refl _
  | register f =>
    unfold register
    split
    · exact .refl _
    · split <;> exact .refl _
  | requestRaw command body =>
    unfold requestRaw
    split
    · exact .refl _
    · next id _ =>
      unfold sendRawOn
      dsimp only
      split
      · exact .refl _
      · next link known =>
        refine .modify _ _ fun link' known' => ?_
        obtain rfl : link = link' := Option.some.inj (known.symm.trans known')
        exact link.feed_sendRaw_near command body
  | turns running =>
    rw [receiving, running] at ended
    cases ended
  | ends atWork | panics atWork =>
    rw [atWork] at ended
    cases ended
  | outside => exact absurd rfl inside

/-! ## The call that asks for the worker -/

/-- What the calls make of an engine whose worker has panicked. -/
structure Collects (e : Engine σ) : Prop where
  join : e.join = some (.error .workerPanicked, { e with worker := .absent })
  start : e.start = (.error .workerPanicked, { e with worker := .absent })
  connect : ∀ id, e.connect id = (.error .workerPanicked, { e with worker := .absent })
  /-- the link is closed and let go of all the same -/
  close : e.close = (.error .workerPanicked,
    { e with
      links := e.closeAttached.links, worker := .absent, attached := none, writer := none,
      connected := false })
  closes : ∀ id, e.attached = some id → (e.link? id).isSome → e.close.2.Closed id
  /-- behind such a call there is nothing more to ask for -/
  again : ({ e with worker := .absent } : Engine σ).join =
    some (.error .notReceiving, { e with worker := .absent })

theorem collects_of_panicked (panicked : e.worker = .panicked) : e.Collects := by
  have stopped : e.stop = { e with links := e.closeAttached.links, connected := false } := by
    have same : e.stop = { e.closeAttached with worker := e.stop.worker, connected := false } := rfl
    have still : e.stop.worker = e.worker := by simp [stop, panicked]
    rw [same, still, closeAttached_eq]
  have closed : e.close = (.error .workerPanicked,
      { e with
        links := e.closeAttached.links, worker := .absent, attached := none, writer := none,
        connected := false }) := by
    have quiet : e.stop.receiving = false := by rw [stopped, receiving, panicked]
    rw [close, settle_of_ended quiet, stopped]
    simp [collect, panicked]
  exact {
    join := by simp [join, collect, panicked]
    start := unlessReceiving_of_panicked panicked _
    connect := fun id => unlessReceiving_of_panicked panicked _
    close := closed
    closes := fun id attached known => by
      rw [closed]
      exact e.shut_closeAttached.closed id attached known
    again := rfl }

/-! ## Histories behind a panic -/

namespace Moment

/-- The moment is a call that collects the worker if it has ended. -/
def collects (m : Moment σ) : Bool :=
  match m.event with
  | .connect _ | .start | .close | .join => true
  | _ => false

/-- The fault that such a call is answered with. -/
def fault? (m : Moment σ) : Option Dispatch.Fault :=
  match m.event with
  | .connect id => fault (m.before.connect id).1
  | .start => fault m.before.start.1
  | .close => fault m.before.close.1
  | .join => m.before.join.bind fun (result, _) => fault result
  | _ => none
where
  fault {α : Type} : Except Dispatch.Fault α → Option Dispatch.Fault
    | .ok _ => none
    | .error fault => some fault

theorem fault?_of_panicked {m : Moment σ} (panicked : m.before.worker = .panicked) :
    m.fault? = some .workerPanicked ↔ m.collects = true := by
  have collects := collects_of_panicked panicked
  unfold fault? Moment.collects
  cases m.event with
  | connect id => simp [collects.connect, fault?.fault]
  | start => simp [collects.start, fault?.fault]
  | close => simp [collects.close, fault?.fault]
  | join => simp [collects.join, fault?.fault]
  | _ => simp

theorem fault?_of_absent {m : Moment σ} (absent : m.before.worker = .absent) :
    m.fault? ≠ some .workerPanicked := by
  have collected : m.before.collect = (.ok (), m.before) := by rw [collect, absent]
  unfold fault?
  cases m.event with
  | connect id =>
    simp only [Engine.connect, unlessReceiving, collected, absent]
    split
    · simp [fault?.fault]
    · split <;> simp [fault?.fault]
  | start =>
    simp only [Engine.start, unlessReceiving, collected, absent]
    split <;> simp [fault?.fault]
  | close =>
    have still : m.before.stop.worker = .absent := by simp [Engine.stop, absent]
    have quiet : m.before.stop.receiving = false := by rw [receiving, still]
    simp [Engine.close, settle_of_ended quiet, collect, still, fault?.fault]
  | join => simp [Engine.join, absent, fault?.fault]
  | _ => simp

end Moment

/-- The worker that has panicked stays until the first call that asks for it. -/
theorem Runs.worker_of_panicked (runs : Runs first past e) (panicked : first.worker = .panicked)
    (none : ∀ m ∈ past, m.starts = false) :
    e.worker = if past.any Moment.collects then .absent else .panicked := by
  induction runs with
  | nil => exact panicked
  | @snoc past e e' event runs step ih =>
    have before := ih fun m member => none m (List.mem_append_left _ member)
    have now : (Moment.mk e event).starts = false := none _ (by simp)
    have ended : e.receiving = false := by
      rw [receiving, before]
      cases past.any Moment.collects <;> rfl
    have gone := absent_of_collect ended
    rw [List.any_append]
    cases step.change with
    | connectFails | startFails | joins | releases => simpa [Moment.collects] using gone
    | attaches => simpa [Moment.collects] using gone
    | starts succeeds =>
      rw [Moment.starts, succeeds] at now
      cases now
    | stops _ same =>
      rcases same with rfl | ⟨session, report, running, -⟩
      · simpa [Moment.collects] using before
      · rw [receiving, running] at ended
        cases ended
    | registers | sends | outside => simpa [Moment.collects] using before
    | goesOn atWork | ends atWork | panics atWork =>
      rw [atWork] at ended
      cases ended

/-- Each moment of a history stands behind those before it. -/
theorem Runs.at_moment (runs : Runs first past e) {older newer : List (Moment σ)} {m : Moment σ}
    (split : past = older ++ m :: newer) : Runs first older m.before := by
  induction runs generalizing newer with
  | nil => simp at split
  | @snoc past e e' event runs step ih =>
    rcases split_snoc split with ⟨-, rfl, rfl⟩ | ⟨front, -, before⟩
    · exact runs
    · exact ih before

/-- A worker that has panicked leaves no report, and the table is as it was. -/
theorem Runs.kept_of_panicked (runs : Runs first past e) (panicked : first.worker = .panicked)
    (none : ∀ m ∈ past, m.starts = false) :
    e.lastReport = first.lastReport ∧ e.frozen = first.frozen ∧
      (first.frozen = true → e.table = first.table) := by
  induction runs with
  | nil => exact ⟨rfl, rfl, fun _ => rfl⟩
  | @snoc past e e' event runs step ih =>
    have earlier : ∀ m ∈ past, m.starts = false :=
      fun m member => none m (List.mem_append_left _ member)
    obtain ⟨report, frozen, table⟩ := ih earlier
    have now : (Moment.mk e event).starts = false := none _ (by simp)
    have nothing : (Moment.mk e event).collected? = .none := by
      have before := runs.worker_of_panicked panicked earlier
      have empty : e.uncollected? = .none := by
        rw [uncollected?, before]
        cases past.any Moment.collects <;> rfl
      cases event <;> first | exact empty | rfl
    refine ⟨?_, ?_, fun fixed => ?_⟩
    · rw [step.change.lastReport, nothing, ← report]
      rfl
    · rw [step.change.frozen, now, Bool.or_false, frozen]
    · rw [step.change.table, frozen, fixed, if_pos rfl, table fixed]

/-- What holds behind a panic until the next worker is started, whatever happens. -/
structure AfterPanic (first : Engine σ) (past : List (Moment σ)) (e : Engine σ) : Prop where
  /-- the worker is there until a call asks for it -/
  worker : e.worker = if past.any Moment.collects then .absent else .panicked
  /-- which then fails, and changes nothing else -/
  collects : past.any Moment.collects = false → e.Collects
  /-- the first call that asks is answered that the worker has panicked, and no other is -/
  answers : ∀ older m newer, past = older ++ m :: newer →
    (m.fault? = some .workerPanicked ↔
      m.collects = true ∧ older.any Moment.collects = false)
  lastReport : e.lastReport = first.lastReport
  frozen : e.frozen = first.frozen
  table : first.frozen = true → e.table = first.table

theorem Runs.afterPanic (runs : Runs first past e) (panicked : first.worker = .panicked)
    (none : ∀ m ∈ past, m.starts = false) : AfterPanic first past e := by
  obtain ⟨report, frozen, table⟩ := runs.kept_of_panicked panicked none
  have worker := runs.worker_of_panicked panicked none
  refine ⟨worker, fun unasked => ?_, fun older m newer split => ?_, report, frozen, table⟩
  · rw [unasked] at worker
    exact collects_of_panicked worker
  · have before := (runs.at_moment split).worker_of_panicked panicked fun m' member =>
      none m' (split ▸ List.mem_append_left _ member)
    cases asked : older.any Moment.collects with
    | false =>
      rw [asked] at before
      simpa using Moment.fault?_of_panicked before
    | true =>
      rw [asked] at before
      simpa using Moment.fault?_of_absent before

/-- Behind a panic nothing is read before the next worker is started. -/
theorem Runs.feedsKept (runs : Runs first past e) (panicked : first.worker = .panicked)
    (none : ∀ m ∈ past, m.starts = false) (inside : ∀ m ∈ past, m.event ≠ .outside) :
    FeedsKept first.links e.links := by
  induction runs with
  | nil => exact .refl _
  | @snoc past e e' event runs step ih =>
    have earlier : ∀ m ∈ past, m.starts = false :=
      fun m member => none m (List.mem_append_left _ member)
    have before := runs.worker_of_panicked panicked earlier
    have ended : e.receiving = false := by
      rw [receiving, before]
      cases past.any Moment.collects <;> rfl
    have kept := ih earlier fun m member => inside m (List.mem_append_left _ member)
    exact kept.trans (feedsKept_of_step step ended (inside ⟨e, event⟩ (by simp)))

/-! ## The engine -/

/-- What becomes of an engine whose worker hands over the frames of some cycles and then one with
which a handler panics, over the transport `near` of a link. -/
structure Panicked (e : Engine σ) (id : Nat) (near : Transport) (older : List Scan.Cycle)
    (c : Scan.Cycle) (f : Wire.Frame) : Prop where
  first : Session.FirstPanic e.table e.state older c f
  takes : e.Takes Session.unstopped near (older ++ [c])
  /-- the handlers were called for these frames and no others, and no report is left -/
  left : e.settle =
    { e.updateLink id ({ · with near := c.transport }) with
      state := (e.table.dispatchAll (Scan.frames older ++ [f]) e.state).2, worker := .panicked }
  /-- what is left to read begins right behind the frame -/
  served : Scan.Delivered e.table.sizes near.feed.bytes c.transport.feed.bytes f
  /-- the worker is not collected before it has ended -/
  busy : e.join = none ∧ e.start = (.error .alreadyReceiving, e) ∧
    ∀ id, e.connect id = (.error .alreadyReceiving, e)
  behind : ∀ past e', Runs e.settle past e' → (∀ m ∈ past, m.starts = false) →
    AfterPanic e.settle past e'
  /-- once it is collected, another worker can be started -/
  restarts : ({ e.settle with worker := .absent } : Engine σ).start.1 = .ok ()
  /-- which begins with what is left to read on the same link -/
  resumes : ∀ past e', Runs e.settle past e' → (∀ m ∈ past, m.starts = false) →
    (∀ m ∈ past, m.event ≠ .outside) → e'.start.1 = .ok () → e'.attached = some id →
      ∃ link, e'.start.2.attachedLink? = some (id, link) ∧
        e'.start.2.worker = .running {} ∧ link.near.feed = c.transport.feed

theorem busy_of_running {session : Session} (running : e.worker = .running session) :
    e.join = none ∧ e.start = (.error .alreadyReceiving, e) ∧
      ∀ id, e.connect id = (.error .alreadyReceiving, e) := by
  have refused {α : Type} (next : Engine σ → Except Dispatch.Fault α × Engine σ) :
      e.unlessReceiving next = (.error .alreadyReceiving, e) := by
    simp [unlessReceiving, collect, running]
  exact ⟨by simp [join, running], refused _, fun id => refused _⟩

/-- What was started is attached and counts as connected. -/
theorem connected_of_start {e₁ : Engine σ} (started : e.start = (.ok (), e₁)) :
    e₁.attached.isSome ∧ e₁.connected = true := by
  obtain ⟨e₀, -, next⟩ := absent_of_unlessReceiving started
  split at next
  · next ready =>
    cases next
    exact Bool.and_eq_true_iff.1 ready
  · cases next

theorem attached_of_start {e₁ : Engine σ} (started : e.start = (.ok (), e₁)) :
    e₁.attached = e.attached ∧ e₁.links = e.links := by
  rcases cases_of_unlessReceiving started with ⟨fails, -⟩ | ⟨-, next⟩
  · cases fails
  · split at next
    · cases next
      rw [collect_eq]
      exact ⟨rfl, rfl⟩
    · cases next

/-- The first panic of a session becomes that of its engine. -/
theorem panicked_of_first {e₁ : Engine σ} {link : Link} {older : List Scan.Cycle} {c : Scan.Cycle}
    {f : Wire.Frame} (started : e.start = (.ok (), e₁))
    (attached : e₁.attachedLink? = some (id, link))
    (first : Session.FirstPanic e₁.table e₁.state older c f)
    (takes : e₁.Takes Session.unstopped link.near (older ++ [c]))
    (ran : e₁.ran Session.unstopped link.near = ⟨.panicked, c.transport,
      (e₁.table.dispatchAll (Scan.frames older ++ [f]) e₁.state).2⟩) :
    Panicked e₁ id link.near older c f := by
  have running := worker_of_start started
  obtain ⟨here, connected⟩ := connected_of_start started
  obtain ⟨number, known⟩ := attachedLink?_eq_some_iff.1 attached
  have left : e₁.settle =
      { e₁.updateLink id ({ · with near := c.transport }) with
        state := (e₁.table.dispatchAll (Scan.frames older ++ [f]) e₁.state).2,
        worker := .panicked } := by
    have turned := settle_of_running running attached
    change e₁.settle = e₁.afterTurns id (e₁.ran Session.unstopped link.near) at turned
    rw [turned, ran, afterTurns, progressed]
  have panicked : e₁.settle.worker = .panicked := by rw [left]
  obtain ⟨s, t, state, reached, -, step⟩ := takes.at_cycle rfl
  refine {
    first := first
    takes := takes
    left := left
    served := (Scan.delivered_of_step step first.handed).of_suffix (reached.kept Scan.kept_suffix)
    busy := busy_of_running running
    behind := fun past e' runs none => runs.afterPanic panicked none
    restarts := ?_
    resumes := fun past e' runs none inside succeeds same => ?_ }
  · rw [left]
    simp [start, unlessReceiving, collect, updateLink, here, connected]
  · have before : e₁.settle.links[id]? = some { link with near := c.transport } := by
      rw [link?] at known
      rw [left]
      simp [updateLink, known]
    obtain ⟨link', known', feed⟩ := runs.feedsKept panicked none inside id _ before
    have again : e'.start = (.ok (), e'.start.2) := Prod.ext succeeds rfl
    obtain ⟨same', links⟩ := attached_of_start again
    refine ⟨link', attachedLink?_eq_some_iff.2 ⟨same'.trans same, ?_⟩, worker_of_start again, feed⟩
    rw [link?, links, known']

/-- **A panic ends a session and nothing else.** Let a worker be started whose handlers may panic,
over any transport, and consider the same worker with handlers that do the same but do not panic. If
no frame makes a handler panic, the two do the same. Otherwise the handlers are called for the frames
up to the first that does, and for none behind it. The worker leaves no report. The first call of
`join`, `start`, `connect` or `close` behind its end is answered that it has panicked, and no other
call is; but for `close`, which closes the link and lets go of it, that call changes nothing else. A
later `join` finds no worker. If another worker is started on the same link, it begins right behind
the frame with which the handler panicked. -/
theorem panics_are_collected {e e₁ : Engine σ} {id : Nat} {link : Link}
    {calmed : Dispatch.Table σ} (started : e.start = (.ok (), e₁))
    (attached : e₁.attachedLink? = some (id, link)) (calms : calmed.Calms e₁.table) :
    let calm : Engine σ := { e₁ with table := calmed }
    ∃ whole, calm.Takes Session.unstopped link.near whole ∧
      ((e₁.table.Quiet (Scan.frames whole) e₁.state ∧
          e₁.ran Session.unstopped link.near = calm.ran Session.unstopped link.near) ∨
        ∃ older c newer f, whole = older ++ c :: newer ∧ Panicked e₁ id link.near older c f) := by
  obtain ⟨whole, takes, quiet | ⟨older, c, newer, f, split, first, taken, ran⟩⟩ :=
    Session.takes_of_calms calms e₁.limit Session.unstopped link.near e₁.state
  · exact ⟨whole, takes, .inl quiet⟩
  · exact ⟨whole, takes, .inr ⟨older, c, newer, f, split,
      panicked_of_first started attached first taken ran⟩⟩

/-- The second of three frames makes the handler panic; once the worker is collected, another one
reads the third. -/
theorem panics_are_collected_once :
    let count : Dispatch.Handler Nat := fun body n =>
      (if body = [2, 0] then .panicked else .done, n + 1)
    let frame (b : UInt8) := Wire.frameBytes 0x30 [b, 0]
    let near : Transport := .replay "capture" [.data (frame 1 ++ frame 2 ++ frame 3)]
    let e : Engine Nat :=
      { state := 0, table := ⟨[⟨0x30, "count", 2, count⟩]⟩, links := [.capture near],
        attached := some 0, connected := true }
    let e₁ := e.start.2
    let calm : Engine Nat := { e₁ with table := e₁.table.calmed }
    let joined := { e₁.settle with worker := .absent }
    (∃ whole, calm.Takes Session.unstopped near whole ∧
      ((e₁.table.Quiet (Scan.frames whole) 0 ∧
          e₁.ran Session.unstopped near = calm.ran Session.unstopped near) ∨
        ∃ older c newer f, whole = older ++ c :: newer ∧ Panicked e₁ 0 near older c f)) ∧
      e₁.settle.worker = .panicked ∧ e₁.settle.state = 2 ∧
      joined.start.2.settle.worker =
        .finished ⟨{ frames := 1 }, 0, .connectionLost "connection closed"⟩ ∧
      joined.start.2.settle.state = 3 := by
  intro count frame near e e₁ calm joined
  have calms := e₁.table.calms_calmed
  refine ⟨panics_are_collected (e := e) rfl rfl calms, ?_, ?_, ?_, ?_⟩
  all_goals decide +kernel

end Engine

end SerialLink
