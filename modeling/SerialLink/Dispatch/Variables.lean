import SerialLink.Dispatch.Table
import SerialLink.Series.Store

/-!
# Following variables

A follower is told of every label, value and removal that arrives. Its three readers are registered
together or not at all, and a value is stamped with the moment at which it is handled.
-/

namespace SerialLink

/-- What is done about variables. -/
structure Follower (σ : Type) where
  named : UInt16 → String → σ → σ
  valued : UInt16 → Sample → σ → σ
  removed : UInt16 → σ → σ
  /-- the moment that a value is stamped with -/
  now : σ → UInt64

namespace Follower

variable {σ : Type}

/-- What a follower does about a message; one that concerns no variable changes nothing. -/
def follow (f : Follower σ) (m : Message) (s : σ) : σ :=
  match m with
  | .label id field => f.named id field.text s
  | .update id value => f.valued id ⟨f.now s, value⟩ s
  | .remove id => f.removed id s
  | .apply .. => s

/-- A store as its own follower, every value being stamped with the same moment. -/
def store (moment : UInt64) : Follower SeriesStore where
  named id name s := s.nameVariable id name
  valued id sample s := s.record id sample
  removed id s := s.remove id
  now _ := moment

/-- The follower that acts on a part of a larger state. -/
def within {τ : Type} (f : Follower σ) (part : τ → σ) (replace : σ → τ → τ) : Follower τ where
  named id name s := replace (f.named id name (part s)) s
  valued id sample s := replace (f.valued id sample (part s)) s
  removed id s := replace (f.removed id (part s)) s
  now s := f.now (part s)

end Follower

namespace Dispatch.Table

/-- The kinds of message that concern variables, in the order of their registration. -/
def variableKinds : List MessageKind :=
  [.label, .update, .remove]

/-- Registers a follower of variables. -/
def registerFollower {σ : Type} (t : Table σ) (f : Follower σ) : Except Fault (Table σ) :=
  t.insertAll (variableKinds.map fun kind => Entry.ofReader kind ⟨f.follow, fun _ => false⟩)

end Dispatch.Table

end SerialLink
