import Mathlib.Data.List.Induction
import SerialLink.Command.Tap
import SerialLink.Proofs.Dispatch.Registration
import SerialLink.Proofs.Engine.Turns
import SerialLink.Proofs.Message.Stream
import SerialLink.Proofs.Series.Untimed

/-!
# What receiving engines keep of variables

An engine that a follower is registered with reads a stream of messages to the end and leaves the
follower's store as if it had been told of each message directly (`messages_reach_store`). One
message does to the store what it says (`Follower.Keeps.follow`), its handler does nothing else
(`Follows.dispatch`), and so on over the whole stream (`Follows.dispatchAll`).
-/

namespace SerialLink

/-! ## What is done to a store -/

/-- A store that is told of a message at some moment. -/
def SeriesStore.told (moment : UInt64) (s : SeriesStore) : Message → SeriesStore
  | .label id field => s.nameVariable id field.text
  | .update id value => s.record id ⟨moment, value⟩
  | .remove id => s.remove id
  | .apply .. => s

variable {σ : Type}

/-- What a follower does about variables, it does to a store that is a part of its state. -/
structure Follower.Keeps (f : Follower σ) (part : σ → SeriesStore) : Prop where
  named : ∀ id name s, part (f.named id name s) = (part s).nameVariable id name
  valued : ∀ id sample s, part (f.valued id sample s) = (part s).record id sample
  removed : ∀ id s, part (f.removed id s) = (part s).remove id

theorem Follower.store_keeps (moment : UInt64) : (Follower.store moment).Keeps id where
  named _ _ _ := rfl
  valued _ _ _ := rfl
  removed _ _ := rfl

theorem Tap.follower_keeps : Tap.follower.Keeps Tap.store where
  named _ _ _ := rfl
  valued _ _ _ := rfl
  removed _ _ := rfl

namespace Follower.Keeps

variable {f : Follower σ} {part : σ → SeriesStore}

/-- A follower does what its store would be told, moments aside. -/
theorem follow (keeps : f.Keeps part) {s : σ} {store : SeriesStore}
    (same : (part s).untimed = store.untimed) (moment : UInt64) (m : Message) :
    (part (f.follow m s)).untimed = (store.told moment m).untimed := by
  cases m with
  | label id field =>
    rw [Follower.follow, keeps.named]
    exact SeriesStore.untimed_nameVariable same id field.text
  | update id value =>
    rw [Follower.follow, keeps.valued]
    exact SeriesStore.untimed_record same id value (f.now s) moment
  | remove id =>
    rw [Follower.follow, keeps.removed]
    exact SeriesStore.untimed_remove same id
  | apply p i d => exact same

theorem foldl_follow (keeps : f.Keeps part) {s : σ} {store : SeriesStore}
    (same : (part s).untimed = store.untimed) (moment : UInt64) (messages : List Message) :
    (part (messages.foldl (fun s m => f.follow m s) s)).untimed =
      (messages.foldl (SeriesStore.told moment) store).untimed := by
  induction messages generalizing s store with
  | nil => exact same
  | cons m messages ih => exact ih (keeps.follow same moment m)

end Follower.Keeps

/-! ## Tables that follow variables -/

namespace Dispatch.Table

variable {t older table : Table σ} {f : Follower σ}

/-- A table that reads the messages about variables for a follower and knows no other message. -/
structure Follows (t : Table σ) (f : Follower σ) : Prop where
  reads : ∀ kind ∈ variableKinds,
    t.lookup kind.command = some (Entry.ofReader kind f.reader)
  other : t.lookup MessageKind.apply.command = none

/-- Registering a follower adds an entry for each kind of message about variables, none of which
was taken. -/
theorem entries_of_registerFollower (registered : older.registerFollower f = .ok table) :
    table.entries = older.entries ++ variableKinds.map (Entry.ofReader · f.reader) ∧
      ∀ kind ∈ variableKinds, older.lookup kind.command = none := by
  have accepted : (Registration.follower f).onto older = .ok table := registered
  obtain ⟨⟨-, free⟩, rfl⟩ := Registration.onto_eq_ok_iff.1 accepted
  rw [Registration.commands_follower] at free
  exact ⟨rfl, fun kind member => free _ (List.mem_map_of_mem member)⟩

/-- A registered follower is called whatever else is registered before it or behind it. -/
theorem follows_of_registerFollower (registered : older.registerFollower f = .ok table)
    (held : table.entries <+: t.entries) (unhandled : t.lookup MessageKind.apply.command = none) :
    t.Follows f := by
  refine ⟨fun kind member => ?_, unhandled⟩
  obtain ⟨newer, behind⟩ := held
  obtain ⟨entries, free⟩ := entries_of_registerFollower registered
  have own : (Table.mk (variableKinds.map (Entry.ofReader · f.reader))).lookup kind.command =
      some (Entry.ofReader kind f.reader) := by
    cases kind with
    | label | update | remove => rfl
    | apply => exact absurd rfl (mem_variableKinds.1 member)
  have here : t =
      ⟨(older.entries ++ variableKinds.map (Entry.ofReader · f.reader)) ++ newer⟩ := by
    rw [← entries, behind]
  rw [here, lookup_append, lookup_append, free kind member, own]
  rfl

theorem Follows.sizes (follows : t.Follows f) (kind : MessageKind) :
    t.sizes kind.command = if kind = .apply then none else some kind.size := by
  split
  · next other => rw [other, Table.sizes, follows.other, Option.map_none]
  · next concerned =>
    rw [Table.sizes, follows.reads kind (mem_variableKinds.2 concerned)]
    rfl

theorem Follows.fitting (follows : t.Follows f) : Scan.Fitting t.sizes := by
  intro kind size entry
  rw [follows.sizes] at entry
  split at entry
  · cases entry
  · exact (Option.some.inj entry).symm

theorem Follows.known (follows : t.Follows f) (m : Message) :
    m.known t.sizes = decide (m.kind ≠ .apply) := by
  rw [Message.known, follows.sizes]
  split <;> simp_all

/-- The handler of a message does what the follower does about it, and nothing else. -/
theorem Follows.dispatch (follows : t.Follows f) {m : Message} (concerned : m.kind ≠ .apply)
    (s : σ) : t.dispatch m.request.frame s = (.done, f.follow m s) := by
  have found : t.lookup m.request.frame.command = some (Entry.ofReader m.kind f.reader) :=
    follows.reads m.kind (mem_variableKinds.2 concerned)
  rw [Table.dispatch, found]
  exact f.reader.handler_body m s

/-- A frame is delivered for every message about a variable. -/
theorem Follows.frame?_event (follows : t.Follows f) (m : Message) :
    (m.event t.sizes).frame? = if m.kind = .apply then none else some m.request.frame := by
  rw [Message.event, follows.known]
  by_cases other : m.kind = .apply <;> simp [other, Scan.Event.frame?]

theorem Follows.calmOn (follows : t.Follows f) (messages : List Message) :
    t.CalmOn ((messages.map (·.event t.sizes)).filterMap Scan.Event.frame?) := by
  intro frame member s
  obtain ⟨e, told, ends⟩ := List.mem_filterMap.1 member
  obtain ⟨m, -, rfl⟩ := List.mem_map.1 told
  rw [follows.frame?_event] at ends
  split at ends
  · cases ends
  · next concerned =>
    obtain rfl := Option.some.inj ends
    rw [follows.dispatch concerned]
    simp

/-- The handlers of some messages, called in order, do what the follower does about all of them. -/
theorem Follows.dispatchAll (follows : t.Follows f) (messages : List Message) (s : σ) :
    let called :=
      t.dispatchAll ((messages.map (·.event t.sizes)).filterMap Scan.Event.frame?) s
    (∀ reply ∈ called.1, reply = .done) ∧
      called.2 = messages.foldl (fun s m => f.follow m s) s := by
  induction messages using List.reverseRecOn with
  | nil => exact ⟨by simp, rfl⟩
  | append_singleton messages m ih =>
    obtain ⟨replies, state⟩ := ih
    rw [List.map_append, List.filterMap_append, List.foldl_append]
    by_cases other : m.kind = .apply
    · have unread : [m.event t.sizes].filterMap Scan.Event.frame? = [] := by
        simp [follows.frame?_event, other]
      have unchanged : f.follow m = id := by
        cases m <;> first | rfl | cases other
      rw [List.map_singleton, unread, List.append_nil]
      refine ⟨replies, state.trans ?_⟩
      simp [unchanged]
    · have read : [m.event t.sizes].filterMap Scan.Event.frame? = [m.request.frame] := by
        simp [follows.frame?_event, other]
      rw [List.map_singleton, read, dispatchAll_snoc, follows.dispatch other, state]
      refine ⟨fun reply member => ?_, rfl⟩
      rcases List.mem_append.1 member with before | now
      · exact replies reply before
      · exact List.mem_singleton.1 now

end Dispatch.Table

/-! ## A session over a stream of messages -/

/-- What is counted over a stream of messages of which all but the apply messages are known. -/
def Message.statsOf (messages : List (List UInt8 × Message)) (last : List UInt8) : Scan.Stats where
  frames := messages.countP (·.2.kind ≠ .apply)
  unknownCommand := messages.countP (·.2.kind = .apply)
  bytesSkipped := (messages.flatMap Prod.fst).length + last.length

/-- A session over a stream of messages does about all of them what the follower does, and ends
when the stream does. -/
theorem Session.run_stream {table : Dispatch.Table σ} {f : Follower σ} (follows : table.Follows f)
    {messages : List (List UInt8 × Message)} {last : List UInt8}
    (clean : ∀ p ∈ messages, Scan.Noise p.1) (cleanLast : Scan.Noise last) {t : Transport}
    (steady : t.Steady) (received : Message.stream messages last = .ok t.feed.bytes) (limit : Nat)
    (initial : σ) :
    ∃ t', run table limit unstopped {} t initial =
      ⟨.ended ⟨Message.statsOf messages last, 0,
          .connectionLost Wire.Fault.connectionClosed.message⟩,
        t', (messages.map Prod.snd).foldl (fun s m => f.follow m s) initial⟩ := by
  obtain ⟨results, scanner⟩ :=
    Scan.cycles_of_stream follows.fitting clean cleanLast steady received {}
  have events : messages.map (·.2.event table.sizes) =
      (messages.map Prod.snd).map (·.event table.sizes) := by simp
  rw [events] at results
  have frames := Scan.frames_of_results results
  have calm : table.CalmOn (Scan.frames (Scanner.cycles table.sizes {} t)) :=
    frames ▸ follows.calmOn _
  obtain ⟨c, fault, final, error, ran⟩ :=
    run_of_none_failed steady.quiet calm (Scan.readFailed_of_steady steady) limit initial
  have closed : fault = .connectionClosed := by
    have atEnd := congrArg List.getLast? results
    rw [List.getLast?_map, final] at atEnd
    simpa [error] using atEnd
  have stats : c.scanner.stats = Message.statsOf messages last := by
    rw [final, Option.map_some, Option.some.injEq] at scanner
    rw [scanner, Scan.foldl_count_event]
    simp [Message.statsOf, Scan.Stats.skip, follows.known]
  obtain ⟨replies, state⟩ := follows.dispatchAll (messages.map Prod.snd) initial
  rw [← frames] at replies state
  have failures : table.failures (Scan.frames (Scanner.cycles table.sizes {} t)) initial = 0 := by
    refine List.countP_eq_zero.2 fun reply member => ?_
    simp [replies reply member, Dispatch.Reply.isFailure]
  refine ⟨c.transport, ran.trans ?_⟩
  rw [ending, stats, failures, state, closed]

namespace Engine

/-- **What is sent about variables reaches the store.** Let receiving be started with a table in
which a follower is registered and no handler of apply messages, over a transport without failures
whose bytes are any messages, encoded one behind the other with noise around them. Every such stream
can be written; the worker reads it to the end, and its report counts the messages about variables
as frames, the apply messages as unknown commands, the noise as skipped, and nothing else. The
store, empty at first, then holds what it would hold if it had been told of the messages directly
and in order, moments aside. -/
theorem messages_reach_store {f : Follower σ} {part : σ → SeriesStore} (keeps : f.Keeps part)
    {older table : Dispatch.Table σ} (registered : older.registerFollower f = .ok table)
    {e e₁ : Engine σ} (held : table.entries <+: e₁.table.entries)
    (unhandled : e₁.table.lookup MessageKind.apply.command = none)
    (started : e.start = (.ok (), e₁)) (empty : part e₁.state = .empty) {id : Nat} {link : Link}
    (attached : e₁.attachedLink? = some (id, link)) (steady : link.near.Steady)
    {messages : List (List UInt8 × Message)} {last : List UInt8}
    (clean : ∀ p ∈ messages, Scan.Noise p.1) (cleanLast : Scan.Noise last)
    (received : ∀ bytes, Message.stream messages last = .ok bytes → link.near.feed.bytes = bytes)
    (moment : UInt64) :
    (∃ bytes, Message.stream messages last = .ok bytes) ∧
      e₁.settle.worker = .finished ⟨Message.statsOf messages last, 0,
        .connectionLost Wire.Fault.connectionClosed.message⟩ ∧
      (part e₁.settle.state).untimed =
        ((messages.map Prod.snd).foldl (SeriesStore.told moment) .empty).untimed := by
  have written := Scan.stream_eq messages last
  have whole : Message.stream messages last = .ok link.near.feed.bytes := by
    rw [received _ written, written]
  have follows : e₁.table.Follows f :=
    Dispatch.Table.follows_of_registerFollower registered held unhandled
  obtain ⟨t', ran⟩ := Session.run_stream follows clean cleanLast steady whole
    e₁.config.maxReadErrors.toNat e₁.state
  obtain ⟨report, kept, -, -⟩ := settle_of_run (worker_of_start started) attached ran
  refine ⟨⟨_, written⟩, report, ?_⟩
  rw [kept]
  exact keeps.foldl_follow (congrArg SeriesStore.untimed empty) moment _

/-- Six messages on a serial line, one of which is full of markers, come in chunks that break off a
frame; the clock of the follower goes on with every value. -/
theorem messages_reach_store_in_chunks :
    let clocked : Follower (UInt64 × SeriesStore) :=
      { named := fun id name s => (s.1, s.2.nameVariable id name)
        valued := fun id sample s => (s.1 + 1, s.2.record id sample)
        removed := fun id s => (s.1, s.2.remove id)
        now := Prod.fst }
    let term : ControlTerm := ⟨⟨1⟩, ⟨2⟩, ⟨3⟩⟩
    let messages : List (List UInt8 × Message) :=
      [([1, 2], .update 7 ⟨0xA5A5A5A5⟩), ([], .label 7 (.ofText "old")), ([], .remove 7),
        ([3], .apply term term term), ([], .update 7 ⟨0x3F800000⟩),
        ([], .label 7 (.ofText "new"))]
    let bytes := (Message.stream messages [4]).toOption.getD []
    let line : Transport :=
      { Transport.serial "line" with
        live := false, feed := [.idle, .data (bytes.take 9), .interrupted, .data (bytes.drop 9)] }
    let e : Engine (UInt64 × SeriesStore) :=
      { state := (5, .empty), table := ⟨Dispatch.Table.variableKinds.map
          (Dispatch.Entry.ofReader · clocked.reader)⟩,
        links := [{ Link.line "line" with near := line }], attached := some 0, connected := true }
    e.start.2.settle.worker = .finished
        ⟨{ frames := 5, unknownCommand := 1, bytesSkipped := 4 }, 0,
          .connectionLost "connection closed"⟩ ∧
      e.start.2.settle.state.2.untimed = [(7, some "new", [⟨0x3F800000⟩])] := by
  intro clocked term messages bytes line e
  have keeps : clocked.Keeps Prod.snd := ⟨fun _ _ _ => rfl, fun _ _ _ => rfl, fun _ _ => rfl⟩
  have registered : (Dispatch.Table.empty).registerFollower clocked = .ok e.table := rfl
  have held : e.table.entries <+: e.start.2.table.entries := List.prefix_rfl
  have started : e.start = (.ok (), e.start.2) := rfl
  have attached : e.start.2.attachedLink? = some (0, { Link.line "line" with near := line }) := rfl
  have steady : line.Steady := by
    refine ⟨fun _ => rfl, rfl, ?_⟩
    simp [line, Feed.Smooth, Feed.Event.isSmooth]
  have clean : ∀ p ∈ messages, Scan.Noise p.1 := by decide
  have cleanLast : Scan.Noise [4] := by decide
  have received (written : List UInt8) (done : Message.stream messages [4] = .ok written) :
      line.feed.bytes = written := by
    simp [line, bytes, done, Feed.bytes, Feed.Event.bytes, Except.toOption]
  obtain ⟨-, report, store⟩ := messages_reach_store keeps registered held rfl started rfl
    attached steady clean cleanLast received 0
  refine ⟨report, store.trans ?_⟩
  decide +kernel

end Engine

end SerialLink
