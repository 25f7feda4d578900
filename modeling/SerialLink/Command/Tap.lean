import SerialLink.Command.Failure
import SerialLink.Dispatch.Variables
import SerialLink.Display.Record

/-!
# What a receiving command keeps

The handlers of a receiving command follow all variables in a store and keep a record of every
message in the order of arrival. A clock tells the moment at which each of them is handled.
-/

namespace SerialLink

/-- The variables and the records of what arrived. -/
structure Tap where
  store : SeriesStore := .empty
  records : List Record := []
  /-- the moments at which messages are handled, by how many were handled before -/
  clock : Nat → UInt64 := fun _ => 0

namespace Tap

/-- The moment at which the next message is handled. -/
def now (t : Tap) : UInt64 :=
  t.clock t.records.length

/-- One more record. -/
def keep (t : Tap) (r : Record) : Tap :=
  { t with records := t.records ++ [r] }

/-- What a tap does about variables. -/
def follower : Follower Tap where
  named id name t := { t with store := t.store.nameVariable id name }.keep (.label id name)
  valued id sample t := { t with store := t.store.record id sample }.keep (.update id sample)
  removed id t := { t with store := t.store.remove id }.keep (.remove id)
  now := now

/-- Keeps a message that concerns no variable. -/
def applied (m : Message) (t : Tap) : Tap :=
  t.keep (Record.ofMessage t.now m)

/-- The handlers of all four kinds of message. -/
def table : Except Failure (Dispatch.Table Tap) :=
  let setUp (r : Except Dispatch.Fault (Dispatch.Table Tap)) :=
    r.mapError (Failure.ofCall "handler setup failed")
  (setUp ((Dispatch.Table.empty).registerFollower follower)).bind fun t =>
    setUp (t.register .apply ⟨applied, fun _ => false⟩)

end Tap

end SerialLink
