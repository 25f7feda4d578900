import SerialLink.Proofs.Engine.Changes

/-!
# The life of an engine

Whatever is called and whenever its worker ends, an engine keeps to a few rules (`Lifecycle`). Each
is kept by a step, by cases on what the step changes (`Sound.step`, `Change.table`,
`Change.workers`, `Change.released`, `Rests.step`, `Change.uncollected`), and so by a history
(`Runs.sound`, `Runs.table` and the others). `lifecycle_is_kept` puts them together.
-/

namespace SerialLink

namespace Engine

variable {σ : Type} {e e' : Engine σ} {event : Event σ}

/-! ## Moments -/

namespace Moment

/-- The moment is a call of `connect` that succeeds. -/
def connects (m : Moment σ) : Bool :=
  match m.event with
  | .connect id => (m.before.connect id).1.isOk
  | _ => false

/-- The moment is a call of `start` that succeeds. -/
def starts (m : Moment σ) : Bool :=
  match m.event with
  | .start => m.before.start.1.isOk
  | _ => false

/-- The worker ends without a panic, with this report. -/
def report? (m : Moment σ) : Option Session.Report :=
  match m.event with
  | .worker (.ended report) => some report
  | _ => none

/-- The worker ends, one way or the other. -/
def ends (m : Moment σ) : Bool :=
  match m.event with
  | .worker (.ended _) | .worker .panicked => true
  | _ => false

/-- The report of the worker that a call finds to have ended, and collects. -/
def collected? (m : Moment σ) : Option Session.Report :=
  match m.event with
  | .connect _ | .start | .close | .join => m.before.uncollected?
  | _ => none

/-- The link that the engine lets go of: one that is replaced, or released by `close`. -/
def released? (m : Moment σ) : Option Nat :=
  if m.connects then m.before.attached
  else match m.event with
    | .close => m.before.attached
    | _ => none

/-- What a registration that takes place makes of a table. -/
def registered (table : Dispatch.Table σ) (m : Moment σ) : Dispatch.Table σ :=
  match m.event with
  | .register f => (f table).toOption.getD table
  | _ => table

theorem registered_of_starts {m : Moment σ} (starts : m.starts = true)
    (table : Dispatch.Table σ) : registered table m = table := by
  rcases m with ⟨before, event⟩
  cases event with
  | start => rfl
  | _ => cases starts

end Moment

/-! ## What every step keeps -/

/-- Any engine in itself: it sends on the attached link, it counts as connected only while one is
attached, which it knows, and it has a worker only once the table is frozen. -/
structure Sound (e : Engine σ) : Prop where
  writer : e.writer = e.attached
  connected : e.connected = true → e.attached.isSome
  known : ∀ id, e.attached = some id → (e.link? id).isSome
  frozen : e.worker ≠ .absent → e.frozen = true

theorem Sound.frozen_of_receiving (sound : e.Sound) (atWork : e.receiving = true) :
    e.frozen = true := by
  refine sound.frozen fun absent => ?_
  rw [receiving, absent] at atWork
  cases atWork

theorem Sound.step (sound : e.Sound) (change : Change e event e') : e'.Sound := by
  have atWorkFrozen := sound.frozen_of_receiving
  obtain ⟨writer, connected, known, frozen⟩ := sound
  cases change with
  | connectFails | startFails | joins =>
    rw [collect_eq]
    refine ⟨writer, connected, known, ?_⟩
    dsimp only
    split
    · exact frozen
    · exact fun there => absurd rfl there
  | attaches _ calm met shut =>
    refine ⟨rfl, fun _ => rfl, ?_, ?_⟩
    · rintro _ ⟨⟩
      exact shut.kept.isSome met
    · exact fun there => absurd (absent_of_collect (receiving_of_calm calm)) there
  | starts _ calm attached _ =>
    rw [collect_eq]
    exact ⟨writer, connected, known, fun _ => rfl⟩
  | stops shut same =>
    refine ⟨writer, by simp, fun id here => shut.kept.isSome (known id here), ?_⟩
    rcases same with rfl | ⟨session, report, running, rfl⟩
    · exact frozen
    · exact fun _ => atWorkFrozen (by rw [receiving, running])
  | releases ended _ =>
    exact ⟨rfl, by simp, by simp, fun there => absurd (absent_of_collect ended) there⟩
  | registers => exact ⟨writer, connected, known, frozen⟩
  | sends kept | outside kept =>
    exact ⟨writer, connected, fun id here => kept.isSome (known id here), frozen⟩
  | goesOn atWork kept | panics atWork kept =>
    exact ⟨writer, connected, fun id here => kept.isSome (known id here),
      fun _ => atWorkFrozen atWork⟩
  | ends atWork kept =>
    exact ⟨writer, by simp, fun id here => kept.isSome (known id here),
      fun _ => atWorkFrozen atWork⟩

theorem Change.frozen (change : Change e event e') :
    e'.frozen = (e.frozen || (Moment.mk e event).starts) := by
  cases change <;> simp_all [Moment.starts, collect_eq]

theorem Change.table (change : Change e event e') :
    e'.table = if e.frozen then e.table else Moment.registered e.table ⟨e, event⟩ := by
  cases change <;> simp [Moment.registered, collect_eq]

theorem Change.workers (change : Change e event e') :
    (Moment.mk e event).starts.toNat + e.receiving.toNat =
      (Moment.mk e event).ends.toNat + e'.receiving.toNat := by
  cases change with
  | connectFails | joins | attaches | releases =>
    change 0 + e.receiving.toNat = 0 + e.collect.2.receiving.toNat
    rw [receiving_collect]
  | startFails fails =>
    have stays : (Moment.mk e .start).starts = false := fails
    rw [stays, receiving_collect]
    rfl
  | starts succeeds calm =>
    have begins : (Moment.mk e .start).starts = true := succeeds
    rw [begins, receiving_of_calm calm]
    rfl
  | stops shut same =>
    rcases same with rfl | ⟨session, report, running, rfl⟩
    · rfl
    · have atWork : e.receiving = true := by rw [receiving, running]
      rw [atWork]
      rfl
  | registers | sends | outside => rfl
  | goesOn atWork | ends atWork | panics atWork =>
    rw [atWork]
    rfl

theorem Change.linksKept (change : Change e event e') : LinksKept e.links e'.links := by
  cases change with
  | connectFails | startFails | starts | joins =>
    rw [collect_eq]
    exact .refl _
  | attaches _ _ _ shut | stops shut | releases _ shut => exact shut.kept
  | registers => exact .refl _
  | sends kept | outside kept | goesOn _ kept | ends _ kept | panics _ kept => exact kept

theorem Change.released (change : Change e event e') (sound : e.Sound) {id : Nat}
    (released : (Moment.mk e event).released? = some id) : e'.Closed id := by
  cases change with
  | attaches succeeds _ _ shut =>
    have connects : (Moment.mk e (.connect _)).connects = true := succeeds
    rw [Moment.released?, connects] at released
    exact shut.closed id released (sound.known id released)
  | releases _ shut => exact shut.closed id released (sound.known id released)
  | connectFails fails =>
    have stays : (Moment.mk e (.connect _)).connects = false := fails
    rw [Moment.released?, stays] at released
    cases released
  | _ => cases released

/-- Nothing can be started. -/
structure Rests (e : Engine σ) : Prop where
  connected : e.connected = false
  calm : e.calm = true

theorem Rests.step (rests : e.Rests) (change : Change e event e')
    (other : (Moment.mk e event).connects = false) : e'.Rests := by
  obtain ⟨connected, calm⟩ := rests
  have ended := receiving_of_calm calm
  cases change with
  | connectFails | startFails | joins =>
    rw [collect_eq, ended]
    exact ⟨connected, rfl⟩
  | attaches succeeds =>
    have connects : (Moment.mk e (.connect _)).connects = true := succeeds
    rw [connects] at other
    cases other
  | starts _ _ _ connects =>
    rw [connects] at connected
    cases connected
  | stops shut same =>
    rcases same with rfl | ⟨session, report, running, rfl⟩
    · exact ⟨rfl, calm⟩
    · rw [Engine.calm, running] at calm
      cases calm
  | releases =>
    rw [collect_eq, ended]
    exact ⟨rfl, rfl⟩
  | registers | sends | outside => exact ⟨connected, calm⟩
  | goesOn atWork | ends atWork | panics atWork =>
    rw [atWork] at ended
    cases ended

theorem Change.rests (change : Change e event e')
    (ends : (Moment.mk e event).report?.isSome) : e'.Rests := by
  cases change with
  | ends => exact ⟨rfl, rfl⟩
  | _ => cases ends

theorem Rests.start (rests : e.Rests) : e.start.1 = .error .notConnected := by
  obtain ⟨connected, calm⟩ := rests
  rcases calm_iff.1 calm with absent | ⟨report, finished⟩
  · simp [Engine.start, unlessReceiving, collect, absent, connected]
  · simp [Engine.start, unlessReceiving, collect, finished, connected]

theorem Change.uncollected (change : Change e event e') :
    e.uncollected?.toList ++ (Moment.mk e event).report?.toList =
      (Moment.mk e event).collected?.toList ++ e'.uncollected?.toList := by
  cases change with
  | connectFails | startFails | joins | attaches | releases =>
    change e.uncollected?.toList ++ [] = e.uncollected?.toList ++ e.collect.2.uncollected?.toList
    rw [uncollected?_collect]
    rfl
  | starts => rfl
  | stops shut same =>
    rcases same with rfl | ⟨session, report, running, rfl⟩
    · exact List.append_nil _
    · rw [uncollected?, running]
      rfl
  | registers | sends | outside => exact List.append_nil _
  | goesOn atWork | ends atWork | panics atWork =>
    rw [uncollected?_of_receiving atWork]
    rfl

theorem Change.lastReport (change : Change e event e') :
    e'.lastReport = ((Moment.mk e event).collected? <|> e.lastReport) := by
  cases change with
  | connectFails | startFails | joins | attaches | starts | releases =>
    rw [collect_eq]
    rfl
  | _ => rfl

/-! ## What every history keeps -/

section Histories

variable {first : Engine σ} {past : List (Moment σ)}

theorem Runs.sound (runs : Runs first past e) (sound : first.Sound) : e.Sound := by
  induction runs with
  | nil => exact sound
  | snoc _ step ih => exact ih.step step.change

theorem Runs.frozen (runs : Runs first past e) (unfrozen : first.frozen = false) :
    e.frozen = past.any Moment.starts := by
  induction runs with
  | nil => exact unfrozen
  | snoc _ step ih => simp [step.change.frozen, ih]

theorem Runs.table (runs : Runs first past e) (unfrozen : first.frozen = false) :
    e.table = (past.takeWhile fun m => !m.starts).foldl Moment.registered first.table := by
  induction runs with
  | nil => rfl
  | @snoc past e e' event runs step ih =>
    rw [step.change.table, runs.frozen unfrozen, List.takeWhile_append]
    cases started : past.any Moment.starts with
    | true =>
      have cut : (past.takeWhile fun m => !m.starts).length ≠ past.length := by
        intro same
        have whole := List.takeWhile_eq_self_iff.1 ((List.takeWhile_prefix _).eq_of_length same)
        obtain ⟨m, member, starts⟩ := List.any_eq_true.1 started
        simpa [starts] using whole m member
      rw [if_pos rfl, if_neg cut, ih]
    | false =>
      have whole : past.takeWhile (fun m => !m.starts) = past := by
        rw [List.takeWhile_eq_self_iff]
        simpa using started
      rw [whole] at ih ⊢
      rw [if_neg Bool.false_ne_true, if_pos rfl, List.foldl_append, ← ih]
      cases starts : (Moment.mk e event).starts with
      | true => simp [starts, Moment.registered_of_starts starts]
      | false => simp [starts]

/-- Every engine of a history has a history of its own. -/
theorem Runs.before (runs : Runs first past e) :
    ∀ m ∈ past, ∃ older, Runs first older m.before := by
  induction runs with
  | nil => simp
  | @snoc past e e' event runs step ih =>
    intro m member
    rcases List.mem_append.1 member with before | now
    · exact ih m before
    · obtain rfl := List.mem_singleton.1 now
      exact ⟨past, runs⟩

theorem Runs.kept (runs : Runs first past e) :
    ∀ m ∈ past, m.before.frozen = true → e.frozen = true ∧ e.table = m.before.table := by
  induction runs with
  | nil => simp
  | @snoc past e e' event runs step ih =>
    intro m member frozen
    have now : e.frozen = true ∧ e.table = m.before.table := by
      rcases List.mem_append.1 member with before | same
      · exact ih m before frozen
      · obtain rfl := List.mem_singleton.1 same
        exact ⟨frozen, rfl⟩
    rw [step.change.frozen, step.change.table, now.1]
    exact ⟨rfl, now.2⟩

theorem Runs.workers (runs : Runs first past e) (none : first.receiving = false) :
    past.countP Moment.starts = past.countP Moment.ends + e.receiving.toNat := by
  induction runs with
  | nil =>
    rw [none]
    rfl
  | snoc _ step ih =>
    have count := step.change.workers
    have last (p : Moment σ → Bool) (m : Moment σ) : [m].countP p = (p m).toNat := by
      cases holds : p m <;> simp [holds]
    rw [List.countP_append, List.countP_append, last, last, ih]
    omega

theorem Runs.released (runs : Runs first past e) (sound : first.Sound) :
    ∀ m ∈ past, ∀ id, m.released? = some id → e.Closed id := by
  induction runs with
  | nil => simp
  | @snoc past e e' event runs step ih =>
    intro m member id released
    rcases List.mem_append.1 member with before | now
    · exact (ih m before id released).of_linksKept step.change.linksKept
    · obtain rfl := List.mem_singleton.1 now
      exact step.change.released (runs.sound sound) released

theorem Runs.rests (runs : Runs first past e) {older newer : List (Moment σ)} {m : Moment σ}
    (split : past = older ++ m :: newer) (ends : m.report?.isSome)
    (none : ∀ m' ∈ newer, m'.connects = false) : e.Rests := by
  induction runs generalizing newer with
  | nil => simp at split
  | @snoc past e e' event runs step ih =>
    rcases split_snoc split with ⟨-, -, rfl⟩ | ⟨front, rfl, before⟩
    · exact step.change.rests ends
    · have rests := ih before fun m' member => none m' (List.mem_append_left _ member)
      exact rests.step step.change (none _ (by simp))

theorem Runs.reports (runs : Runs first past e) (nothing : first.uncollected? = none) :
    past.filterMap Moment.report? = past.filterMap Moment.collected? ++ e.uncollected?.toList := by
  induction runs with
  | nil =>
    rw [nothing]
    rfl
  | @snoc past e e' event runs step ih =>
    have one := step.change.uncollected
    have told (f : Moment σ → Option Session.Report) :
        [Moment.mk e event].filterMap f = (f ⟨e, event⟩).toList := by
      cases told : f ⟨e, event⟩ <;> simp [told]
    rw [List.filterMap_append, List.filterMap_append, told, told, ih, List.append_assoc, one,
      List.append_assoc]

theorem Runs.lastReport (runs : Runs first past e) (nothing : first.lastReport = none) :
    e.lastReport = (past.filterMap Moment.collected?).getLast? := by
  induction runs with
  | nil => exact nothing
  | @snoc past e e' event runs step ih =>
    rw [step.change.lastReport, ih, List.filterMap_append, List.getLast?_append]
    cases collected : (Moment.mk e event).collected? <;> simp [collected]

end Histories

/-- How an engine lives that was made with a table, whatever has happened to it. -/
structure Lifecycle (table : Dispatch.Table σ) (past : List (Moment σ)) (e : Engine σ) : Prop where
  /-- it can send exactly when a link is attached, and it sends on that one -/
  writer : e.writer = e.attached
  /-- it counts as connected only while a link is attached -/
  connected : e.connected = true → e.attachedLink?.isSome
  /-- each start that succeeded has made one worker; at most one of them has not ended -/
  workers : past.countP Moment.starts = past.countP Moment.ends + e.receiving.toNat
  /-- there is a worker only if the table is frozen -/
  frozenForWorker : e.worker ≠ .absent → e.frozen = true
  /-- the table is frozen by the first start that succeeds -/
  frozen : e.frozen = past.any Moment.starts
  /-- a frozen table is neither opened again nor changed -/
  kept : ∀ m ∈ past, m.before.frozen = true → e.frozen = true ∧ e.table = m.before.table
  /-- the table has the registrations that took place before it was frozen, and no others -/
  table : e.table = (past.takeWhile fun m => !m.starts).foldl Moment.registered table
  /-- every worker has had that table -/
  dispatches : ∀ m ∈ past, m.before.receiving = true → m.before.table = e.table
  /-- a link that was replaced or released is closed -/
  released : ∀ m ∈ past, ∀ id, m.released? = some id → e.Closed id
  /-- when a worker has ended without a panic, nothing is started before a link is attached -/
  rests : ∀ older m newer, past = older ++ m :: newer → m.report?.isSome →
    (∀ m' ∈ newer, m'.connects = false) → e.start.1 = .error .notConnected
  /-- each report is collected once and in order, but for one that still waits for it -/
  reports : past.filterMap Moment.report? =
    past.filterMap Moment.collected? ++ e.uncollected?.toList
  /-- the last report is the one that was collected last -/
  lastReport : e.lastReport = (past.filterMap Moment.collected?).getLast?

/-- **An engine keeps its rules through every history.** Let anything happen to a new engine, in any
order and any number of times: calls of `connect`, `start`, `stop`, `close` and `join`,
registrations, requests, turns of its worker, and the worker's end at any point, with a report or in
a panic. A writer is there exactly when a link is attached, and the engine counts as connected only
then. There is never more than one worker, and none before the table is frozen. A frozen table stays
frozen and as it is, so all sessions have the registrations from before the first start that
succeeded. A link that was replaced or released is closed. After a worker has ended without a panic,
`start` finds no connection until a `connect` succeeds. The last report is that of the worker, among
those without a panic, that was collected last. -/
theorem lifecycle_is_kept {state : σ} {config : EngineConfig} {table : Dispatch.Table σ}
    {links : List Link} {past : List (Moment σ)}
    (runs : Runs { state := state, config := config, table := table, links := links } past e) :
    Lifecycle table past e := by
  have fresh :
      ({ state := state, config := config, table := table, links := links } : Engine σ).Sound :=
    ⟨rfl, nofun, nofun, fun there => absurd rfl there⟩
  have sound := runs.sound fresh
  exact {
    writer := sound.writer
    connected := fun connected => by
      obtain ⟨id, attached⟩ := Option.isSome_iff_exists.1 (sound.connected connected)
      obtain ⟨link, known⟩ := Option.isSome_iff_exists.1 (sound.known id attached)
      rw [attachedLink?_eq_some_iff.2 ⟨attached, known⟩]
      rfl
    workers := runs.workers rfl
    frozenForWorker := sound.frozen
    frozen := runs.frozen rfl
    kept := runs.kept
    table := runs.table rfl
    dispatches := fun m member atWork => by
      obtain ⟨older, earlier⟩ := runs.before m member
      have frozen := (earlier.sound fresh).frozen_of_receiving atWork
      exact (runs.kept m member frozen).2.symm
    released := runs.released fresh
    rests := fun _ _ _ split ends none => (runs.rests split ends none).start
    reports := runs.reports rfl
    lastReport := runs.lastReport rfl }

/-- Two sessions on two links: the first worker ends with a report, the second in a panic. -/
theorem lifecycle_is_kept_over_two_sessions :
    let first : Engine Nat := { state := 0, links := [Link.pair, Link.pair] }
    let counter : Dispatch.Table Nat → Except Dispatch.Fault (Dispatch.Table Nat) :=
      fun t => t.registerRaw 7 0 "counter" fun _ n => (.done, n + 1)
    let report : Session.Report := ⟨{}, 0, .connectionLost "connection closed"⟩
    let e₁ := (first.register counter).2
    let e₂ := (e₁.connect 0).2
    let e₃ := e₂.start.2
    let e₄ := e₃.progressed (.ended report)
    let e₅ := e₄.start.2
    let e₆ := (e₅.connect 1).2
    let e₇ := e₆.start.2
    let e₈ := (e₇.register counter).2
    let e₉ := e₈.progressed .panicked
    let past : List (Moment Nat) :=
      [⟨first, .register counter⟩, ⟨e₁, .connect 0⟩, ⟨e₂, .start⟩, ⟨e₃, .worker (.ended report)⟩,
        ⟨e₄, .start⟩, ⟨e₅, .connect 1⟩, ⟨e₆, .start⟩, ⟨e₇, .register counter⟩,
        ⟨e₈, .worker .panicked⟩, ⟨e₉, .close⟩]
    Lifecycle {} past e₉.close.2 ∧ e₄.start.1 = .error .notConnected ∧
      past.filterMap Moment.released? = [0, 1] ∧ e₉.close.2.table.size = 1 ∧
      e₉.close.2.lastReport = some report := by
  intro first counter report e₁ e₂ e₃ e₄ e₅ e₆ e₇ e₈ e₉ past
  have runs : Runs first past e₉.close.2 :=
    .snoc (.snoc (.snoc (.snoc (.snoc (.snoc (.snoc (.snoc (.snoc (.snoc .nil
      (.register first counter)) (.connect e₁ 0)) (.start e₂)) (.ends (by decide +kernel) report))
      (.start e₄)) (.connect e₅ 1)) (.start e₆)) (.register e₇ counter))
      (.panics (by decide +kernel))) (.close (by decide +kernel))
  refine ⟨lifecycle_is_kept runs, ?_, ?_, ?_, ?_⟩
  all_goals decide +kernel

end Engine

end SerialLink
