import Mathlib.Data.List.Forall2
import Mathlib.Data.List.Pairwise
import SerialLink.Proofs.Dispatch.Calls
import SerialLink.Proofs.Dispatch.Registration
import SerialLink.Proofs.Message.Bijection
import SerialLink.Proofs.Scan.Delivery

/-!
# The one handler of a frame

A handler is watched by one that does the same and writes down what it was called with. Watching the
handlers of some calls leaves undisturbed which calls are accepted (`accepted_watched`) and what is
done (`Watches.dispatch`), so what is written down is what happens without it. For a frame that was
delivered exactly one handler is called, once, with what is in the body
(`handled_of_sizes`, `delivered_frames_are_handled_once`).
-/

namespace SerialLink

namespace Dispatch

/-- What a handler is called with. -/
inductive Given where
  | message (m : Message)
  | body (bytes : List UInt8)
  | name (id : UInt16) (name : String)
  | value (id : UInt16) (sample : Sample)
  | removal (id : UInt16)
  deriving DecidableEq

/-- That a handler was called, and where it stands among the calls that register handlers. -/
structure Called where
  place : Nat
  given : Given
  deriving DecidableEq

end Dispatch

open Dispatch

variable {σ : Type}

/-! ## Writing calls down -/

/-- What a follower is called with for a message, if it is called. -/
def Follower.given (f : Follower σ) (m : Message) (s : σ) : Option Given :=
  match m with
  | .label id field => some (.name id field.text)
  | .update id value => some (.value id ⟨f.now s, value⟩)
  | .remove id => some (.removal id)
  | .apply .. => none

/-- The follower that writes down its calls behind those that were written down before. -/
def Follower.watched (f : Follower σ) (place : Nat) : Follower (σ × List Called) where
  named id name s := (f.named id name s.1, s.2 ++ [⟨place, .name id name⟩])
  valued id sample s := (f.valued id sample s.1, s.2 ++ [⟨place, .value id sample⟩])
  removed id s := (f.removed id s.1, s.2 ++ [⟨place, .removal id⟩])
  now s := f.now s.1

theorem Follower.follow_watched (f : Follower σ) (place : Nat) (m : Message) (s : σ)
    (called : List Called) :
    (f.watched place).follow m (s, called) =
      (f.follow m s, called ++ (f.given m s).toList.map (⟨place, ·⟩)) := by
  cases m with
  | label | update | remove => rfl
  | apply => exact congrArg (Prod.mk s) (List.append_nil called).symm

namespace Dispatch

/-- The reader that writes down its calls. -/
def Reader.watched (r : Reader σ) (place : Nat) : Reader (σ × List Called) where
  act m s := (r.act m s.1, s.2 ++ [⟨place, .message m⟩])
  panics := r.panics

/-- The handler of bodies that writes down its calls. -/
def Handler.watched (handler : Handler σ) (place : Nat) : Handler (σ × List Called) := fun body s =>
  ((handler body s.1).1, (handler body s.1).2, s.2 ++ [⟨place, .body body⟩])

/-- The call that registers watched handlers instead. -/
def Registration.watched (place : Nat) : Registration σ → Registration (σ × List Called)
  | .reader kind r => .reader kind (r.watched place)
  | .raw command size name handler => .raw command size name (handler.watched place)
  | .follower f => .follower (f.watched place)

/-- Some calls, with all handlers watched. -/
def watched (calls : List (Registration σ)) : List (Registration (σ × List Called)) :=
  calls.mapIdx Registration.watched

theorem watched_snoc (calls : List (Registration σ)) (call : Registration σ) :
    watched (calls ++ [call]) = watched calls ++ [call.watched calls.length] :=
  List.mapIdx_concat

/-! ## Watching changes nothing else -/

/-- An entry does what another does, apart from what is written down. -/
structure Entry.Watches (w : Entry (σ × List Called)) (e : Entry σ) : Prop where
  command : w.command = e.command
  size : w.size = e.size
  handler : ∀ body s called, e.handler body s =
    ((w.handler body (s, called)).1, (w.handler body (s, called)).2.1)

theorem Reader.watches (r : Reader σ) (kind : MessageKind) (w : Reader (σ × List Called))
    (acts : ∀ m s called, (w.act m (s, called)).1 = r.act m s) (panics : w.panics = r.panics) :
    (Entry.ofReader kind w).Watches (Entry.ofReader kind r) where
  command := rfl
  size := rfl
  handler body s called := by
    simp only [Entry.ofReader, Reader.handler]
    cases kind.ofBody body with
    | error fault => rfl
    | ok m => rw [acts, panics]

/-- The entries that a watched call asks for watch those that the call asks for. -/
theorem Registration.watches (call : Registration σ) (place : Nat) :
    List.Forall₂ Entry.Watches (call.watched place).entries call.entries := by
  cases call with
  | reader kind r => exact .cons (r.watches kind _ (fun _ _ _ => rfl) rfl) .nil
  | raw command size name handler => exact .cons ⟨rfl, rfl, fun _ _ _ => rfl⟩ .nil
  | follower f =>
    have acts (m : Message) (s : σ) (called : List Called) :
        ((f.watched place).follow m (s, called)).1 = f.follow m s := by
      rw [Follower.follow_watched]
    apply List.forall₂_map_left_iff.2
    apply List.forall₂_map_right_iff.2
    apply List.forall₂_same.2
    intro kind _
    exact f.reader.watches kind _ acts rfl

theorem commands_of_watches {entries : List (Entry σ)} {watching : List (Entry (σ × List Called))}
    (watches : List.Forall₂ Entry.Watches watching entries) :
    watching.map Entry.command = entries.map Entry.command := by
  induction watches with
  | nil => rfl
  | cons first _ ih => rw [List.map_cons, List.map_cons, first.command, ih]

/-- A table does what another does, apart from what is written down. -/
def Watches (w : Table (σ × List Called)) (t : Table σ) : Prop :=
  List.Forall₂ Entry.Watches w.entries t.entries

namespace Watches

variable {w : Table (σ × List Called)} {t : Table σ}

theorem lookup (watches : Watches w t) (command : UInt16) :
    Option.Rel Entry.Watches (w.lookup command) (t.lookup command) := by
  obtain ⟨watching⟩ := w
  obtain ⟨entries⟩ := t
  have listed : List.Forall₂ Entry.Watches watching entries := watches
  unfold Table.lookup
  clear watches
  induction listed with
  | nil => exact .none
  | cons first _ ih =>
    rw [List.find?_cons, List.find?_cons, first.command]
    split
    · exact .some first
    · exact ih

theorem sizes (watches : Watches w t) : w.sizes = t.sizes := by
  funext command
  unfold Table.sizes
  match w.lookup command, t.lookup command, watches.lookup command with
  | _, _, .none => rfl
  | _, _, .some same => exact congrArg some same.size

/-- Without what is written down, a watching table replies and leaves what the other does. -/
theorem dispatch (watches : Watches w t) (f : Wire.Frame) (s : σ) (called : List Called) :
    t.dispatch f s = ((w.dispatch f (s, called)).1, (w.dispatch f (s, called)).2.1) := by
  unfold Table.dispatch
  match w.lookup f.command, t.lookup f.command, watches.lookup f.command with
  | _, _, .none => rfl
  | _, _, .some same => exact same.handler f.body s called

/-- A call is accepted by a table exactly when it is accepted by one that watches it. -/
theorem onto (watches : Watches w t) (call : Registration σ) (place : Nat) :
    ((call.watched place).onto w).isOk = (call.onto t).isOk ∧
      Watches (((call.watched place).onto w).toOption.getD w)
        ((call.onto t).toOption.getD t) := by
  -- Whether a call is accepted is a matter of lengths and commands, and a watched call has the same.
  have fits : (call.watched place).Fits ↔ call.Fits := by
    cases call <;> rfl
  have free : (∀ command ∈ (call.watched place).commands, w.lookup command = none) ↔
      ∀ command ∈ call.commands, t.lookup command = none := by
    unfold Registration.commands
    rw [commands_of_watches (call.watches place)]
    simp only [Table.lookup_eq_none_iff, commands_of_watches watches]
  have same := and_congr fits free
  cases outcome : call.onto t with
  | ok t' =>
    obtain ⟨accepted, rfl⟩ := Registration.onto_eq_ok_iff.1 outcome
    rw [Registration.onto_eq_ok_iff.2 ⟨same.2 accepted, rfl⟩]
    exact ⟨rfl, List.rel_append watches (call.watches place)⟩
  | error fault =>
    cases outcome' : (call.watched place).onto w with
    | error fault' => exact ⟨rfl, watches⟩
    | ok w' =>
      have accepted := same.1 (Registration.onto_eq_ok_iff.1 outcome').1
      rw [Registration.onto_eq_ok_iff.2 ⟨accepted, rfl⟩] at outcome
      cases outcome

end Watches

theorem watches_behind (calls : List (Registration σ)) :
    Watches (behind (watched calls)) (behind calls) := by
  induction calls using List.reverseRecOn with
  | nil => exact .nil
  | append_singleton calls call ih =>
    rw [watched_snoc, behind_snoc, behind_snoc]
    exact (ih.onto call calls.length).2

theorem accepted_watched (calls : List (Registration σ)) :
    accepted (watched calls) = (accepted calls).map fun p => (p.1.watched p.2, p.2) := by
  induction calls using List.reverseRecOn with
  | nil => rfl
  | append_singleton calls call ih =>
    have length : (watched calls).length = calls.length := List.length_mapIdx
    rw [watched_snoc, accepted_snoc, accepted_snoc, ih, List.map_append, length,
      ((watches_behind calls).onto call calls.length).1]
    split
    · rfl
    · rfl

/-! ## What is called for a frame -/

theorem mem_entries_of_accepted {calls : List (Registration σ)} {p : Registration σ × Nat}
    {e : Entry σ} (member : p ∈ accepted calls) (asked : e ∈ p.1.entries) :
    e ∈ (behind calls).entries := by
  rw [entries_behind]
  exact List.mem_flatMap.2 ⟨p, member, asked⟩

/-- What is asked for by a call that was accepted is found in the table. -/
theorem lookup_of_accepted {calls : List (Registration σ)} {p : Registration σ × Nat} {e : Entry σ}
    (member : p ∈ accepted calls) (asked : e ∈ p.1.entries) :
    (behind calls).lookup e.command = some e := by
  have sound := sound_behind calls
  have inside := mem_entries_of_accepted member asked
  obtain ⟨e', found⟩ := Option.isSome_iff_exists.1
    (Table.lookup_isSome_iff.2 (List.mem_map_of_mem inside))
  -- All commands are different, so what is found under this one can only be this entry.
  have same : e' = e := List.inj_on_of_nodup_map sound.different
    (List.mem_of_find?_eq_some found) inside (Table.command_of_lookup found)
  rw [found, same]

/-- No two calls that were accepted have asked for the same command. -/
theorem eq_of_accepted {calls : List (Registration σ)} {p q : Registration σ × Nat}
    {command : UInt16} (hp : p ∈ accepted calls) (hq : q ∈ accepted calls)
    (asked : command ∈ p.1.commands) (asked' : command ∈ q.1.commands) : p = q := by
  have different := (sound_behind calls).different
  rw [entries_behind, List.map_flatMap, List.nodup_flatMap] at different
  have symm : Std.Symm (Function.onFun List.Disjoint fun p : Registration σ × Nat =>
      p.1.entries.map Entry.command) := ⟨fun _ _ => List.disjoint_symm⟩
  by_contra apart
  exact different.2.forall hp hq apart asked asked'

/-- The message kinds that a call registers readers of. -/
def Registration.kinds : Registration σ → List MessageKind
  | .reader kind _ => [kind]
  | .raw .. => []
  | .follower _ => Table.variableKinds

/-- A table calls a single handler for a frame, of the call of registration at some place, and calls
it once. -/
inductive Handled (t : Table (σ × List Called)) (f : Wire.Frame) (place : Nat) :
    Registration σ → Prop where
  /-- a reader is called with the message whose body it is -/
  | reader {r : Reader σ} (m : Message) (command : m.kind.command = f.command)
      (body : m.body = f.body)
      (outcome : ∀ s called, t.dispatch f (s, called) =
        (.done, r.act m s, called ++ [⟨place, .message m⟩])) :
      Handled t f place (.reader m.kind r)
  /-- a handler of bodies is called with the body, and its reply is passed on -/
  | raw {size : Nat} {name : String} {handler : Handler σ}
      (outcome : ∀ s called, t.dispatch f (s, called) =
        ((handler f.body s).1, (handler f.body s).2, called ++ [⟨place, .body f.body⟩])) :
      Handled t f place (.raw f.command size name handler)
  /-- a follower is called with what the message says whose body it is -/
  | follower {follower : Follower σ} (m : Message) (command : m.kind.command = f.command)
      (body : m.body = f.body)
      (outcome : ∀ s called, ∃ given, follower.given m s = some given ∧
        t.dispatch f (s, called) = (.done, follower.follow m s, called ++ [⟨place, given⟩])) :
      Handled t f place (.follower follower)

/-- What a table of watched handlers does with a frame, whose command leads to an entry. -/
theorem dispatch_of_accepted {calls : List (Registration σ)} {p : Registration σ × Nat}
    (member : p ∈ accepted calls) {e : Entry (σ × List Called)}
    (asked : e ∈ (p.1.watched p.2).entries) {f : Wire.Frame} (command : e.command = f.command)
    (s : σ) (called : List Called) :
    (behind (watched calls)).dispatch f (s, called) = e.handler f.body (s, called) := by
  have member' : (p.1.watched p.2, p.2) ∈ accepted (watched calls) := by
    rw [accepted_watched]
    exact List.mem_map_of_mem (f := fun p => (p.1.watched p.2, p.2)) member
  have found := lookup_of_accepted member' asked
  rw [command] at found
  rw [Table.dispatch, found]

/-- A body of the length that a kind of message requires is that of a message of the kind. -/
theorem exists_message_of_accepted {calls : List (Registration σ)} {p : Registration σ × Nat}
    (member : p ∈ accepted calls) {kind : MessageKind} {r : Reader σ}
    (asked : Entry.ofReader kind r ∈ p.1.entries) {f : Wire.Frame}
    (command : kind.command = f.command)
    (sized : (behind calls).sizes f.command = some f.body.length) :
    ∃ m : Message, m.kind = kind ∧ m.body = f.body := by
  have found : (behind calls).lookup kind.command = some (.ofReader kind r) :=
    lookup_of_accepted member asked
  apply MessageKind.exists_body
  rw [Table.sizes, ← command, found] at sized
  exact (Option.some.inj sized).symm

theorem Reader.quiet_of_calm {t : Table σ} (calm : t.Calm) {r : Reader σ} {m : Message}
    (member : Entry.ofReader m.kind r ∈ t.entries) (s : σ) : r.panics m = false := by
  have never : (r.handler m.kind m.body s).1 ≠ .panicked := calm _ member m.body s
  rw [Reader.handler_body] at never
  cases panics : r.panics m with
  | false => rfl
  | true =>
    rw [panics] at never
    exact absurd rfl never

theorem Follower.exists_given {f : Follower σ} {m : Message}
    (concerned : m.kind ∈ Table.variableKinds) (s : σ) : ∃ given, f.given m s = some given := by
  cases m with
  | label | update | remove => exact ⟨_, rfl⟩
  | apply => exact absurd rfl (Table.mem_variableKinds.1 concerned)

/-- A frame of a command that was asked for, and of the length that was asked for with it, is
handled once. -/
theorem handled_of_sizes {calls : List (Registration σ)} (calm : (behind calls).Calm)
    {p : Registration σ × Nat} (member : p ∈ accepted calls) {f : Wire.Frame}
    (asked : f.command ∈ p.1.commands)
    (sized : (behind calls).sizes f.command = some f.body.length) :
    Handled (behind (watched calls)) f p.2 p.1 := by
  obtain ⟨call, place⟩ := p
  cases call with
  | reader kind r =>
    have mine : Entry.ofReader kind r ∈ (Registration.reader kind r).entries :=
      List.mem_singleton_self _
    have command : kind.command = f.command := (List.mem_singleton.1 asked).symm
    obtain ⟨m, rfl, body⟩ := exists_message_of_accepted member mine command sized
    refine .reader m command body fun s called => ?_
    have quiet : (r.watched place).panics m = false :=
      Reader.quiet_of_calm calm (mem_entries_of_accepted member mine) s
    rw [dispatch_of_accepted member (List.mem_singleton_self _) command, ← body]
    show (r.watched place).handler m.kind m.body (s, called) = _
    rw [Reader.handler_body, quiet]
    rfl
  | raw command size name handler =>
    obtain rfl : f.command = command := List.mem_singleton.1 asked
    refine .raw fun s called => ?_
    rw [dispatch_of_accepted member (List.mem_singleton_self _) rfl]
    rfl
  | follower follower =>
    rw [Registration.commands_follower] at asked
    obtain ⟨kind, concerned, command⟩ := List.mem_map.1 asked
    have mine : Entry.ofReader kind follower.reader ∈ (Registration.follower follower).entries :=
      List.mem_map_of_mem concerned
    obtain ⟨m, rfl, body⟩ := exists_message_of_accepted member mine command sized
    refine .follower m command body fun s called => ?_
    obtain ⟨given, told⟩ := Follower.exists_given concerned s
    refine ⟨given, told, ?_⟩
    rw [dispatch_of_accepted member (List.mem_map_of_mem concerned) command, ← body]
    show (follower.watched place).reader.handler m.kind m.body (s, called) = _
    rw [Reader.handler_body]
    show (Reply.done, (follower.watched place).follow m (s, called)) = _
    rw [Follower.follow_watched, told]
    rfl

/-- A body of another length than its kind requires is refused by a reader without a call. -/
theorem Reader.handler_of_length_ne {r : Reader σ} {kind : MessageKind} {body : List UInt8}
    (other : body.length ≠ kind.size) (s : σ) :
    r.handler kind body s =
      (.failed (.frame (.bodySizeMismatch kind.command kind.size body.length)), s) := by
  rw [Reader.handler, MessageKind.ofBody_of_length_ne other]

theorem exists_reader_of_kinds {call : Registration σ} {kind : MessageKind}
    (member : kind ∈ call.kinds) : ∃ r, Entry.ofReader kind r ∈ call.entries := by
  cases call with
  | reader kind' r =>
    obtain rfl := List.mem_singleton.1 member
    exact ⟨r, List.mem_singleton_self _⟩
  | raw => cases member
  | follower f => exact ⟨f.reader, List.mem_map_of_mem member⟩

theorem Registration.kinds_watched (call : Registration σ) (place : Nat) :
    (call.watched place).kinds = call.kinds := by
  cases call <;> rfl

/-- **A delivered frame is handled once.** Let no handler panic that is registered by some calls.
Watching the handlers changes nothing else. Whatever transport a scanner reads that looks up lengths
in the table: for each frame that it delivers there is exactly one accepted call that asked for the
frame's command, one handler of this call is called, once, and told what is in the body, and the
reply is its own. A frame made by hand, in contrast, may have a command that is absent or a body
that no reader takes; then it is refused for that, and no handler is called. -/
theorem delivered_frames_are_handled_once {calls : List (Registration σ)}
    (calm : (behind calls).Calm) :
    ((behind (watched calls)).sizes = (behind calls).sizes ∧ ∀ f s called,
      (behind calls).dispatch f s =
        (((behind (watched calls)).dispatch f (s, called)).1,
          ((behind (watched calls)).dispatch f (s, called)).2.1)) ∧
    (∀ (sc : Scanner) n t, ∀ c ∈ sc.run (behind calls).sizes n t, ∀ f,
      c.result = .ok (.frame f) →
        ∃ p ∈ accepted calls, f.command ∈ p.1.commands ∧
          (∀ q ∈ accepted calls, f.command ∈ q.1.commands → q = p) ∧
          Handled (behind (watched calls)) f p.2 p.1) ∧
    (∀ f : Wire.Frame, f.command ∉ (behind calls).commands → ∀ s called,
      (behind (watched calls)).dispatch f (s, called) =
        (.failed (.unknownCommand f.command), s, called)) ∧
    ∀ p ∈ accepted calls, ∀ kind ∈ p.1.kinds, ∀ f : Wire.Frame, f.command = kind.command →
      f.body.length ≠ kind.size → ∀ s called,
        (behind (watched calls)).dispatch f (s, called) =
          (.failed (.frame (.bodySizeMismatch kind.command kind.size f.body.length)),
            s, called) := by
  have watches := watches_behind calls
  refine ⟨⟨watches.sizes, watches.dispatch⟩, ?_, ?_, ?_⟩
  · intro sc n t c member f frame
    have sized := (Scan.delivered_of_mem_run member frame).registered
    obtain ⟨e, found, -⟩ := Option.map_eq_some_iff.1 sized
    have known : f.command ∈ (behind calls).commands :=
      Table.mem_commands_iff.2 (Table.lookup_isSome_iff.1 (found ▸ rfl))
    obtain ⟨p, accepted, asked⟩ := mem_commands_behind.1 known
    exact ⟨p, accepted, asked, fun q hq asked' => eq_of_accepted hq accepted asked' asked,
      handled_of_sizes calm accepted asked sized⟩
  · intro f absent s called
    rw [Table.mem_commands_iff, ← commands_of_watches watches] at absent
    rw [Table.dispatch, Table.lookup_eq_none_iff.2 absent]
  · intro p accepted kind reads f command other s called
    rw [← Registration.kinds_watched p.1 p.2] at reads
    obtain ⟨r, asked⟩ := exists_reader_of_kinds reads
    rw [dispatch_of_accepted accepted asked command.symm]
    exact Reader.handler_of_length_ne other (s, called)

/-- Of five calls two are refused; a read fails inside a frame, which then comes as a whole. -/
theorem delivered_frames_are_handled_once_behind_refused_calls :
    let counting : Follower Nat :=
      { named := fun _ _ s => s, valued := fun _ _ s => s + 1, removed := fun _ s => s,
        now := UInt64.ofNat }
    let calls : List (Registration Nat) :=
      [.follower counting, .reader .update ⟨fun _ s => s, fun _ => true⟩,
        .raw 0x99 1 "single" fun _ s => (.failed .notConnected, s),
        .raw 0x98 256 "large" fun _ s => (.panicked, s),
        .reader .apply ⟨fun _ s => s, fun _ => false⟩]
    let m : Message := .update 7 ⟨0x3F800000⟩
    let feed : Feed := [.data (m.request.bytes.take 5), .failed ⟨.other, "lost"⟩, .interrupted,
      .data m.request.bytes]
    (behind calls).Calm ∧
      (∃ c ∈ ({} : Scanner).run (behind calls).sizes 2 (.replay "line" feed),
        c.result = .ok (.frame m.request.frame)) ∧
      Handled (behind (watched calls)) m.request.frame 0 (.follower counting) := by
  intro counting calls m feed
  have quiet (kind : MessageKind) (act : Message → Nat → Nat) (body : List UInt8) (s : Nat) :
      ((Reader.mk act fun _ => false).handler kind body s).1 ≠ .panicked := by
    unfold Reader.handler
    split
    · simp
    · simp
  have calm : (behind calls).Calm := by
    have entries : (behind calls).entries = Table.variableKinds.map (.ofReader · counting.reader) ++
        [⟨0x99, "single", 1, fun _ s => (.failed .notConnected, s)⟩,
          .ofReader .apply ⟨fun _ s => s, fun _ => false⟩] := rfl
    intro e member body s
    rw [entries] at member
    simp only [Table.variableKinds, List.map_cons, List.map_nil, List.cons_append, List.nil_append,
      List.mem_cons, List.not_mem_nil, or_false] at member
    rcases member with rfl | rfl | rfl | rfl | rfl
    · exact quiet _ _ body s
    · exact quiet _ _ body s
    · exact quiet _ _ body s
    · simp
    · exact quiet _ _ body s
  have delivered : ∃ c ∈ ({} : Scanner).run (behind calls).sizes 2 (.replay "line" feed),
      c.result = .ok (.frame m.request.frame) := by
    decide +kernel
  refine ⟨calm, delivered, ?_⟩
  obtain ⟨c, member, frame⟩ := delivered
  obtain ⟨p, -, -, only, handled⟩ :=
    (delivered_frames_are_handled_once calm).2.1 {} 2 _ c member _ frame
  have first : (Registration.follower counting, 0) ∈ accepted calls := List.mem_cons_self
  obtain rfl := only _ first (by decide)
  exact handled

end Dispatch

end SerialLink
