import SerialLink.Dispatch.Fault
import SerialLink.Message.Codec
import SerialLink.Scan.Basic
import SerialLink.Text.Quoted

/-!
# Dispatch tables

A table names the handler of each command that is known, with the exact length of the bodies it
takes. A command is registered once: a later registration of it is refused and changes nothing. A
handler acts on a state and may break off in a panic; one that reads messages is only called with a
body that is one.
-/

namespace SerialLink.Dispatch

/-- How the call of a handler ends. -/
inductive Reply where
  | done
  | failed (fault : Fault)
  | panicked
  deriving DecidableEq, Repr

/-- What is done with a body. -/
abbrev Handler (σ : Type) := List UInt8 → σ → Reply × σ

/-- What is done with a message; it cannot fail short of a panic. -/
structure Reader (σ : Type) where
  act : Message → σ → σ
  panics : Message → Bool := fun _ => false

/-- A registered command. -/
structure Entry (σ : Type) where
  command : UInt16
  name : String
  size : Nat
  handler : Handler σ

/-- An entry in words. -/
def Entry.described {σ : Type} (e : Entry σ) : String :=
  "DispatchEntry \x7b name: " ++ Text.quoted e.name ++ ", expected_size: " ++ toString e.size ++
    ", .. \x7d"

/-- The handler that reads a message of a kind first. A body that is no such message is refused
without a call. -/
def Reader.handler {σ : Type} (r : Reader σ) (kind : MessageKind) : Handler σ := fun body s =>
  match kind.ofBody body with
  | .error fault => (.failed (.frame fault), s)
  | .ok m => (if r.panics m then .panicked else .done, r.act m s)

/-- The entry of a message kind. -/
def Entry.ofReader {σ : Type} (kind : MessageKind) (r : Reader σ) : Entry σ where
  command := kind.command
  name := kind.name
  size := kind.size
  handler := r.handler kind

/-- Handlers by command, in the order of their registration. -/
structure Table (σ : Type) where
  entries : List (Entry σ) := []

namespace Table

variable {σ : Type}

/-- A table without entries. -/
def empty : Table σ := {}

/-- The entry of a command. -/
def lookup (t : Table σ) (command : UInt16) : Option (Entry σ) :=
  t.entries.find? fun e => e.command == command

/-- The lengths of body that the table's commands require. -/
def sizes (t : Table σ) : CommandSizes := fun command =>
  (t.lookup command).map Entry.size

/-- The registered commands in ascending order. -/
def commands (t : Table σ) : List UInt16 :=
  (t.entries.map Entry.command).mergeSort

/-- How many commands are registered. -/
def size (t : Table σ) : Nat :=
  t.entries.length

/-- The fault that names the first of some commands that is taken. -/
def taken (t : Table σ) (commands : List UInt16) : Option Fault :=
  commands.findSome? fun command =>
    (t.lookup command).map fun e => .duplicateCommand command e.name

/-- Adds entries for commands of which none is taken, or none of them. -/
def insertAll (t : Table σ) (entries : List (Entry σ)) : Except Fault (Table σ) :=
  match t.taken (entries.map Entry.command) with
  | some fault => .error fault
  | none => .ok ⟨t.entries ++ entries⟩

/-- Registers a reader of a message kind. Unlike `registerRaw` it does not look at the size, since the
kinds are the four of the program and the bodies of each fit a header. -/
def register (t : Table σ) (kind : MessageKind) (r : Reader σ) : Except Fault (Table σ) :=
  t.insertAll [Entry.ofReader kind r]

/-- Registers a handler of bodies of a given length. -/
def registerRaw (t : Table σ) (command : UInt16) (size : Nat) (name : String) (handler : Handler σ) :
    Except Fault (Table σ) :=
  if Wire.maxBody < size then .error (.frame (.bodyTooLarge size Wire.maxBody))
  else t.insertAll [⟨command, name, size, handler⟩]

/-- Calls the handler of a frame's command. -/
def dispatch (t : Table σ) (frame : Wire.Frame) (s : σ) : Reply × σ :=
  match t.lookup frame.command with
  | none => (.failed (.unknownCommand frame.command), s)
  | some e => e.handler frame.body s

@[simp] theorem lookup_empty (command : UInt16) : (empty : Table σ).lookup command = none := rfl

/-- What was registered first stands in front of what comes later. -/
theorem lookup_append (older newer : List (Entry σ)) (command : UInt16) :
    (Table.mk (older ++ newer)).lookup command =
      ((Table.mk older).lookup command).or ((Table.mk newer).lookup command) := by
  simp [lookup, List.find?_append]

theorem command_of_lookup {t : Table σ} {command : UInt16} {e : Entry σ}
    (h : t.lookup command = some e) : e.command = command := by
  simpa using List.find?_some h

theorem lookup_isSome_iff {t : Table σ} {command : UInt16} :
    (t.lookup command).isSome ↔ command ∈ t.entries.map Entry.command := by
  simp [lookup, List.find?_isSome]

theorem taken_eq_none_iff {t : Table σ} {commands : List UInt16} :
    t.taken commands = none ↔ ∀ command ∈ commands, t.lookup command = none := by
  simp [taken]

end Table

end SerialLink.Dispatch
