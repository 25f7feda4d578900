import Mathlib.Data.List.Induction
import Mathlib.Data.List.Nodup
import SerialLink.Dispatch.Variables
import SerialLink.Proofs.Message.Body

/-!
# Registering handlers

Three kinds of call register handlers: of a reader, of a handler of bodies, and of a follower, which
is three readers. A call is refused for one of the reasons that `Refused` lists
(`onto_eq_error_iff`), and is otherwise taken whole (`onto_eq_ok_iff`). Carried out on the table
itself, one entry after the other, a call comes to the same, so a refused one has added nothing
(`carryOut_on`). Behind any calls the table holds the entries of those that were accepted, in order
and under different commands (`entries_behind`, `sound_behind`), which says everything about what is
found in it (`registrations_are_kept`).
-/

namespace SerialLink

variable {σ : Type}

/-- The reader of all messages about variables. -/
def Follower.reader (f : Follower σ) : Dispatch.Reader σ :=
  ⟨f.follow, fun _ => false⟩

namespace Dispatch

/-- A call that registers handlers. -/
inductive Registration (σ : Type) where
  /-- a reader of one of the four kinds of message; its size is not looked at -/
  | reader (kind : MessageKind) (r : Reader σ)
  | raw (command : UInt16) (size : Nat) (name : String) (handler : Handler σ)
  | follower (f : Follower σ)

namespace Registration

/-- The table behind a call that is accepted, or why the call is refused. -/
def onto (t : Table σ) : Registration σ → Except Fault (Table σ)
  | .reader kind r => t.register kind r
  | .raw command size name handler => t.registerRaw command size name handler
  | .follower f => t.registerFollower f

/-- The entries that a call asks for, in order. -/
def entries : Registration σ → List (Entry σ)
  | .reader kind r => [.ofReader kind r]
  | .raw command size name handler => [⟨command, name, size, handler⟩]
  | .follower f => Table.variableKinds.map (.ofReader · f.reader)

/-- The commands that a call asks for, in order. -/
def commands (call : Registration σ) : List UInt16 :=
  call.entries.map Entry.command

/-- The entry that a call asks for under a command. -/
def lookup (call : Registration σ) (command : UInt16) : Option (Entry σ) :=
  call.entries.find? fun e => e.command == command

/-- The bodies of a handler can be declared by a header. -/
def Fits : Registration σ → Prop
  | .raw _ size _ _ => size ≤ Wire.maxBody
  | _ => True

end Registration

/-- Why a call is refused. -/
inductive Refused (t : Table σ) : Registration σ → Fault → Prop where
  /-- its handler is to take bodies that no header can declare, whatever its command is -/
  | large {command : UInt16} {size : Nat} {name : String} {handler : Handler σ}
      (large : 255 < size) :
      Refused t (.raw command size name handler) (.frame (.bodyTooLarge size 255))
  /-- a command is taken, and none of those that the call asks for before it is -/
  | taken {call : Registration σ} {before after : List UInt16} {command : UInt16} {e : Entry σ}
      (fits : call.Fits) (split : call.commands = before ++ command :: after)
      (free : ∀ earlier ∈ before, t.lookup earlier = none) (found : t.lookup command = some e) :
      Refused t call (.duplicateCommand command e.name)

/-! ## What becomes of a call -/

namespace Table

variable {t : Table σ} {commands : List UInt16} {entries : List (Entry σ)} {fault : Fault}

theorem taken_eq_some_iff :
    t.taken commands = some fault ↔ ∃ before command after e,
      commands = before ++ command :: after ∧ (∀ earlier ∈ before, t.lookup earlier = none) ∧
        t.lookup command = some e ∧ fault = .duplicateCommand command e.name := by
  unfold taken
  rw [List.findSome?_eq_some_iff]
  simp only [Option.map_eq_some_iff, Option.map_eq_none_iff]
  constructor
  · rintro ⟨before, command, after, split, ⟨e, found, rfl⟩, free⟩
    exact ⟨before, command, after, e, split, free, found, rfl⟩
  · rintro ⟨before, command, after, e, split, free, found, rfl⟩
    exact ⟨before, command, after, split, ⟨e, found, rfl⟩, free⟩

theorem insertAll_eq_ok_iff {t' : Table σ} :
    t.insertAll entries = .ok t' ↔
      t.taken (entries.map Entry.command) = none ∧ t' = ⟨t.entries ++ entries⟩ := by
  unfold insertAll
  cases t.taken (entries.map Entry.command) with
  | some fault => simp
  | none => simp [eq_comm]

theorem insertAll_eq_error_iff :
    t.insertAll entries = .error fault ↔ t.taken (entries.map Entry.command) = some fault := by
  unfold insertAll
  cases t.taken (entries.map Entry.command) with
  | some fault => simp
  | none => simp

theorem lookup_eq_none_iff {command : UInt16} :
    t.lookup command = none ↔ command ∉ t.entries.map Entry.command := by
  rw [← lookup_isSome_iff, Option.not_isSome_iff_eq_none]

theorem mem_commands_iff {command : UInt16} :
    command ∈ t.commands ↔ command ∈ t.entries.map Entry.command :=
  List.mem_mergeSort

theorem mem_variableKinds {kind : MessageKind} : kind ∈ variableKinds ↔ kind ≠ .apply := by
  cases kind <;> decide

end Table

namespace Registration

variable {t t' : Table σ} {call : Registration σ} {fault : Fault}

/-- A call that fits asks for its entries together. -/
theorem onto_of_fits (fits : call.Fits) : call.onto t = t.insertAll call.entries := by
  cases call with
  | reader kind r => rfl
  | raw command size name handler => exact if_neg (Nat.not_lt.2 fits)
  | follower f => rfl

/-- A call that does not fit is refused before anything else is looked at. -/
theorem exists_of_not_fits (large : ¬call.Fits) :
    ∃ command size name handler, call = .raw command size name handler ∧ 255 < size ∧
      ∀ t, call.onto t = .error (.frame (.bodyTooLarge size 255)) := by
  cases call with
  | reader | follower => exact absurd trivial large
  | raw command size name handler =>
    have large : Wire.maxBody < size := Nat.lt_of_not_le large
    exact ⟨command, size, name, handler, rfl, large, fun t => if_pos large⟩

/-- A call is accepted exactly when it fits and none of its commands is taken, and then its entries
come behind those that were there. -/
theorem onto_eq_ok_iff :
    call.onto t = .ok t' ↔
      (call.Fits ∧ ∀ command ∈ call.commands, t.lookup command = none) ∧
        t' = ⟨t.entries ++ call.entries⟩ := by
  by_cases fits : call.Fits
  · rw [onto_of_fits fits, Table.insertAll_eq_ok_iff, Table.taken_eq_none_iff]
    exact and_congr_left fun _ => (and_iff_right fits).symm
  · obtain ⟨command, size, name, handler, -, -, refused⟩ := exists_of_not_fits fits
    rw [refused]
    simp [fits]

theorem onto_eq_error_iff : call.onto t = .error fault ↔ Refused t call fault := by
  by_cases fits : call.Fits
  · rw [onto_of_fits fits, Table.insertAll_eq_error_iff, Table.taken_eq_some_iff]
    constructor
    · rintro ⟨before, command, after, e, split, free, found, rfl⟩
      exact .taken fits split free found
    · intro refused
      cases refused with
      | large large => exact absurd fits (Nat.not_le.2 large)
      | taken _ split free found => exact ⟨_, _, _, _, split, free, found, rfl⟩
  · obtain ⟨command, size, name, handler, rfl, large, refused⟩ := exists_of_not_fits fits
    rw [refused, Except.error.injEq]
    constructor
    · rintro rfl
      exact .large large
    · intro why
      cases why with
      | large => rfl
      | taken fits' => exact absurd fits' fits

/-- No entry is longer than a header can declare, of a call that fits. -/
theorem size_le_of_fits (fits : call.Fits) : ∀ e ∈ call.entries, e.size ≤ Wire.maxBody := by
  intro e member
  cases call with
  | reader kind r =>
    rw [List.mem_singleton.1 member]
    exact Message.size_le_maxBody kind
  | raw command size name handler =>
    rw [List.mem_singleton.1 member]
    exact fits
  | follower f =>
    obtain ⟨kind, -, rfl⟩ := List.mem_map.1 member
    exact Message.size_le_maxBody kind

theorem commands_follower (f : Follower σ) :
    (follower f).commands = Table.variableKinds.map MessageKind.command := by
  rw [commands, entries, List.map_map]
  rfl

/-- A call asks for each command once. -/
theorem nodup_commands (call : Registration σ) : call.commands.Nodup := by
  cases call with
  | reader | raw => exact List.nodup_singleton _
  | follower f =>
    rw [commands_follower]
    decide

end Registration

/-! ## Registering in place -/

/-- Changing a table in place, or failing. What was added before a failure stays added. -/
abbrev InPlace (σ : Type) :=
  ExceptT Fault (StateM (Table σ))

namespace InPlace

variable {α β : Type} {t : Table σ}

/-- What becomes of a table. -/
def on (x : InPlace σ α) (t : Table σ) : Except Fault α × Table σ :=
  Id.run (StateT.run (ExceptT.run x) t)

/-- Fails if a command is taken. -/
def requireFree (command : UInt16) : InPlace σ Unit := do
  match (← get).lookup command with
  | some e => throw (.duplicateCommand command e.name)
  | none => pure ()

/-- Adds an entry, if its command is not taken. -/
def insert (e : Entry σ) : InPlace σ Unit := do
  requireFree e.command
  modify fun t => ⟨t.entries ++ [e]⟩

theorem on_bind (x : InPlace σ α) (f : α → InPlace σ β) (t : Table σ) :
    (x >>= f).on t = match x.on t with
      | (.ok a, t') => (f a).on t'
      | (.error fault, t') => (.error fault, t') := by
  unfold InPlace.on ExceptT.run StateT.run Id.run
  simp only [bind, ExceptT.bind, ExceptT.mk, StateT.bind, ExceptT.bindCont]
  cases x t with
  | mk outcome t' => cases outcome <;> rfl

theorem requireFree_on (command : UInt16) (t : Table σ) :
    InPlace.on (requireFree command) t = match t.lookup command with
      | some e => (.error (.duplicateCommand command e.name), t)
      | none => (.ok (), t) := by
  unfold requireFree
  rw [on_bind]
  show InPlace.on (match t.lookup command with
    | some e => throw (.duplicateCommand command e.name)
    | none => pure ()) t = _
  cases t.lookup command with
  | some e => rfl
  | none => rfl

theorem insert_on_of_free {e : Entry σ} (free : t.lookup e.command = none) :
    InPlace.on (insert e) t = (.ok (), ⟨t.entries ++ [e]⟩) := by
  unfold insert
  rw [on_bind, requireFree_on, free]
  rfl

/-- Several commands are looked for in order, up to the first that is taken. -/
theorem forM_requireFree_on (commands : List UInt16) (t : Table σ) :
    InPlace.on (commands.forM requireFree) t = match t.taken commands with
      | some fault => (.error fault, t)
      | none => (.ok (), t) := by
  induction commands with
  | nil => rfl
  | cons command commands ih =>
    show InPlace.on (requireFree command >>= fun _ => commands.forM requireFree) t = _
    rw [on_bind, requireFree_on]
    unfold Table.taken at ih ⊢
    rw [List.findSome?_cons]
    cases t.lookup command with
    | some e => rfl
    | none => exact ih

/-- Entries for different commands that are free are all added, one after the other. -/
theorem forM_insert_on (entries : List (Entry σ)) (different : (entries.map Entry.command).Nodup)
    (free : ∀ e ∈ entries, t.lookup e.command = none) :
    InPlace.on (entries.forM insert) t = (.ok (), ⟨t.entries ++ entries⟩) := by
  induction entries generalizing t with
  | nil =>
    rw [List.append_nil]
    rfl
  | cons e entries ih =>
    rw [List.map_cons, List.nodup_cons] at different
    -- The entry that is added now takes none of the commands that come behind it.
    have later : ∀ other ∈ entries,
        (Table.mk (t.entries ++ [e])).lookup other.command = none := by
      intro other member
      have apart : e.command ≠ other.command := by
        intro same
        exact different.1 (same ▸ List.mem_map_of_mem member)
      rw [Table.lookup_append, free other (List.mem_cons_of_mem e member)]
      simp [Table.lookup, apart]
    show InPlace.on (insert e >>= fun _ => entries.forM insert) t = _
    rw [on_bind, insert_on_of_free (free e List.mem_cons_self)]
    show InPlace.on (entries.forM insert) _ = _
    rw [ih different.2 later, List.append_assoc]
    rfl

end InPlace

namespace Registration

/-- The call on the table itself. A follower's commands are looked for before any is added. -/
def carryOut : Registration σ → InPlace σ Unit
  | .reader kind r => InPlace.insert (.ofReader kind r)
  | .raw command size name handler => do
    if Wire.maxBody < size then throw (.frame (.bodyTooLarge size Wire.maxBody))
    InPlace.insert ⟨command, name, size, handler⟩
  | .follower f => do
    (Table.variableKinds.map MessageKind.command).forM InPlace.requireFree
    (Table.variableKinds.map (Entry.ofReader · f.reader)).forM InPlace.insert

theorem insert_on (e : Entry σ) (t : Table σ) :
    InPlace.on (InPlace.insert e) t = match t.insertAll [e] with
      | .ok t' => (.ok (), t')
      | .error fault => (.error fault, t) := by
  unfold InPlace.insert Table.insertAll Table.taken
  rw [InPlace.on_bind, InPlace.requireFree_on, List.map_singleton, List.findSome?_cons]
  cases t.lookup e.command with
  | some e => rfl
  | none => rfl

/-- A call that is carried out on a table comes to what the call comes to, and leaves the table as
it was when it is refused. -/
theorem carryOut_on (call : Registration σ) (t : Table σ) :
    call.carryOut.on t = match call.onto t with
      | .ok t' => (.ok (), t')
      | .error fault => (.error fault, t) := by
  cases call with
  | reader kind r => exact insert_on _ t
  | raw command size name handler =>
    simp only [carryOut, onto, Table.registerRaw]
    by_cases large : Wire.maxBody < size
    · rw [if_pos large, if_pos large]
      rfl
    · rw [if_neg large, if_neg large]
      exact insert_on _ t
  | follower f =>
    have together : (follower f).onto t = t.insertAll (follower f).entries := rfl
    have commands : (follower f).entries.map Entry.command =
        Table.variableKinds.map MessageKind.command := commands_follower f
    have different := nodup_commands (follower f)
    simp only [carryOut]
    rw [together, InPlace.on_bind, InPlace.forM_requireFree_on, Table.insertAll, commands]
    cases taken : t.taken (Table.variableKinds.map MessageKind.command) with
    | some fault => rfl
    | none =>
      rw [← commands] at taken
      have free : ∀ e ∈ (follower f).entries, t.lookup e.command = none :=
        fun e member => Table.taken_eq_none_iff.1 taken _ (List.mem_map_of_mem member)
      exact InPlace.forM_insert_on _ different free

end Registration

/-! ## One call after the other -/

/-- The commands of a table are all different, and bodies of all its entries can be declared by a
header. -/
structure Table.Sound (t : Table σ) : Prop where
  different : (t.entries.map Entry.command).Nodup
  declared : ∀ e ∈ t.entries, e.size ≤ Wire.maxBody

theorem Table.sound_empty : (empty : Table σ).Sound where
  different := List.nodup_nil
  declared _ member := absurd member List.not_mem_nil

/-- A call that is accepted keeps a table sound. -/
theorem Table.Sound.onto {t t' : Table σ} (sound : t.Sound) {call : Registration σ}
    (accepted : call.onto t = .ok t') : t'.Sound := by
  obtain ⟨⟨fits, free⟩, rfl⟩ := Registration.onto_eq_ok_iff.1 accepted
  constructor
  · rw [List.map_append, List.nodup_append]
    refine ⟨sound.different, call.nodup_commands, fun command member other asked same => ?_⟩
    exact Table.lookup_eq_none_iff.1 (free other asked) (same ▸ member)
  · intro e member
    rcases List.mem_append.1 member with before | asked
    · exact sound.declared e before
    · exact Registration.size_le_of_fits fits e asked

/-- The table behind some calls, refused ones among them. -/
def behind (calls : List (Registration σ)) : Table σ :=
  calls.foldl (fun t call => (call.onto t).toOption.getD t) .empty

/-- The calls that are accepted of some, each with its place among all of them. -/
def accepted (calls : List (Registration σ)) : List (Registration σ × Nat) :=
  calls.zipIdx.filter fun (call, place) => (call.onto (behind (calls.take place))).isOk

theorem behind_snoc (calls : List (Registration σ)) (call : Registration σ) :
    behind (calls ++ [call]) = (call.onto (behind calls)).toOption.getD (behind calls) := by
  unfold behind
  rw [List.foldl_append]
  rfl

theorem accepted_snoc (calls : List (Registration σ)) (call : Registration σ) :
    accepted (calls ++ [call]) = accepted calls ++
      if (call.onto (behind calls)).isOk then [(call, calls.length)] else [] := by
  unfold accepted
  rw [List.zipIdx_append, List.filter_append]
  congr 1
  · apply List.filter_congr
    rintro ⟨earlier, place⟩ member
    have within : place ≤ calls.length := Nat.le_of_lt (List.snd_lt_of_mem_zipIdx member)
    show (earlier.onto (behind ((calls ++ [call]).take place))).isOk =
      (earlier.onto (behind (calls.take place))).isOk
    rw [List.take_append_of_le_length within]
  · simp [List.filter_cons]

/-- Behind some calls stand the entries of those that were accepted, in order. -/
theorem entries_behind (calls : List (Registration σ)) :
    (behind calls).entries = (accepted calls).flatMap fun p => p.1.entries := by
  induction calls using List.reverseRecOn with
  | nil => rfl
  | append_singleton calls call ih =>
    rw [behind_snoc, accepted_snoc, List.flatMap_append, ← ih]
    cases outcome : call.onto (behind calls) with
    | error fault => exact (List.append_nil _).symm
    | ok t' =>
      obtain ⟨-, rfl⟩ := Registration.onto_eq_ok_iff.1 outcome
      simp [Except.isOk, Except.toBool, Except.toOption]

theorem sound_behind (calls : List (Registration σ)) : (behind calls).Sound := by
  induction calls using List.reverseRecOn with
  | nil => exact Table.sound_empty
  | append_singleton calls call ih =>
    rw [behind_snoc]
    cases outcome : call.onto (behind calls) with
    | error fault => exact ih
    | ok t' => exact ih.onto outcome

/-! ## What is found in the table -/

/-- What is found under a command is the entry of the first accepted call that asks for it. -/
theorem lookup_behind (calls : List (Registration σ)) (command : UInt16) :
    (behind calls).lookup command = (accepted calls).findSome? (·.1.lookup command) := by
  rw [Table.lookup, entries_behind, List.find?_flatMap]
  rfl

theorem mem_commands_behind {calls : List (Registration σ)} {command : UInt16} :
    command ∈ (behind calls).commands ↔ ∃ p ∈ accepted calls, command ∈ p.1.commands := by
  rw [Table.mem_commands_iff, entries_behind, List.map_flatMap, List.mem_flatMap]
  rfl

/-- The commands of a sound table are listed in strictly ascending order. -/
theorem Table.Sound.ascending {t : Table σ} (sound : t.Sound) : t.commands.Pairwise (· < ·) := by
  have sorted : t.commands.Pairwise fun a b => decide (a ≤ b) = true :=
    List.pairwise_mergeSort
      (fun a b c first second => by
        rw [decide_eq_true_eq] at first second ⊢
        exact UInt16.le_trans first second)
      (fun a b => by simpa using UInt16.le_total a b) _
  have different : t.commands.Nodup :=
    (List.mergeSort_perm _ _).nodup_iff.2 sound.different
  refine (sorted.and different).imp fun both => ?_
  exact UInt16.lt_of_le_of_ne (of_decide_eq_true both.1) both.2

/-- **Registrations are kept.** A call that comes behind any others is accepted exactly when it fits
and none of its commands is taken; else it is refused, for a length that no header can declare or
for the first of its commands that is taken, naming that entry. Carried out on the table itself it
comes to the same, and when it is refused the table is left as it was. Behind all calls a command
leads to the entry of the first accepted call that asks for it; the commands of these calls are
listed in strictly ascending order, they are counted, and bodies of all entries can be declared. -/
theorem registrations_are_kept (calls : List (Registration σ)) :
    (∀ call : Registration σ,
      ((∃ t', call.onto (behind calls) = .ok t') ↔
        call.Fits ∧ ∀ command ∈ call.commands, (behind calls).lookup command = none) ∧
      (∀ fault, call.onto (behind calls) = .error fault ↔ Refused (behind calls) call fault) ∧
      (∀ t', call.onto (behind calls) = .ok t' →
        call.carryOut.on (behind calls) = (.ok (), t') ∧ behind (calls ++ [call]) = t') ∧
      ∀ fault, call.onto (behind calls) = .error fault →
        call.carryOut.on (behind calls) = (.error fault, behind calls) ∧
          behind (calls ++ [call]) = behind calls) ∧
    (∀ command, (behind calls).lookup command =
      (accepted calls).findSome? (·.1.lookup command)) ∧
    (behind calls).commands.Pairwise (· < ·) ∧
    (∀ command, command ∈ (behind calls).commands ↔
      ∃ p ∈ accepted calls, command ∈ p.1.commands) ∧
    (behind calls).size = (behind calls).commands.length ∧
    ∀ command e, (behind calls).lookup command = some e → e.size ≤ 255 := by
  have sound := sound_behind calls
  refine ⟨fun call => ⟨?_, fun fault => Registration.onto_eq_error_iff, ?_, ?_⟩,
    lookup_behind calls, sound.ascending, fun command => mem_commands_behind, ?_, ?_⟩
  · constructor
    · rintro ⟨t', done⟩
      exact (Registration.onto_eq_ok_iff.1 done).1
    · intro free
      exact ⟨_, Registration.onto_eq_ok_iff.2 ⟨free, rfl⟩⟩
  · intro t' done
    rw [Registration.carryOut_on, behind_snoc, done]
    exact ⟨rfl, rfl⟩
  · intro fault refused
    rw [Registration.carryOut_on, behind_snoc, refused]
    exact ⟨rfl, rfl⟩
  · rw [Table.size, Table.commands, List.length_mergeSort, List.length_map]
  · intro command e found
    exact sound.declared e (List.mem_of_find?_eq_some found)

end Dispatch

end SerialLink
