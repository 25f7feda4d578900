import SerialLink.Single.Basic
import SerialLink.Text.Utf8

/-!
# Messages

There are four kinds. A label names a variable in ten bytes of text, an update gives it a value, a
removal forgets it, and an apply message sets the three terms of a controller.
-/

namespace SerialLink

/-- The kinds of message. -/
inductive MessageKind where
  | label | update | remove | apply
  deriving DecidableEq, Repr

namespace MessageKind

/-- The command under which a kind travels. -/
def command : MessageKind → UInt16
  | label => 0x10
  | update => 0x20
  | remove => 0x30
  | apply => 0x40

/-- The exact length of a kind's body. -/
def size : MessageKind → Nat
  | label => 12
  | update => 6
  | remove => 2
  | apply => 36

/-- What a kind is called. -/
def name : MessageKind → String
  | label => "variable-alias"
  | update => "update-variable"
  | remove => "remove-variable"
  | apply => "apply-argument"

theorem command_injective {a b : MessageKind} (h : a.command = b.command) : a = b := by
  cases a <;> cases b <;> first | rfl | exact absurd h (by decide)

end MessageKind

/-- The bytes that a label has room for. -/
def labelRoom : Nat := 10

/-- The text field of a label: ten bytes, padded with zeros. -/
structure LabelField where
  bytes : List UInt8
  length_bytes : bytes.length = labelRoom

namespace LabelField

instance : DecidableEq LabelField := fun a b =>
  decidable_of_iff (a.bytes = b.bytes) ⟨fun h => by cases a; cases b; cases h; rfl, fun h => h ▸ rfl⟩

theorem ext {a b : LabelField} (h : a.bytes = b.bytes) : a = b := by
  cases a; cases b; cases h; rfl

/-- The first ten of some bytes, zeros where there are fewer. -/
def ofBytes (bytes : List UInt8) : LabelField where
  bytes := (bytes ++ List.replicate labelRoom 0).take labelRoom
  length_bytes := by simp [labelRoom]

/-- The longest start of a text that fits, as bytes. -/
def ofText (text : String) : LabelField :=
  ofBytes (Utf8.encode (Utf8.fitting labelRoom text.toList))

/-- The text before the first zero byte. -/
def text (field : LabelField) : String :=
  String.ofList (Utf8.decode (field.bytes.takeWhile (· ≠ 0)))

end LabelField

/-- One term of a controller. -/
structure ControlTerm where
  scale : Single
  outMax : Single
  value : Single
  deriving DecidableEq, Repr

/-- A message. -/
inductive Message where
  | label (id : UInt16) (field : LabelField)
  | update (id : UInt16) (value : Single)
  | remove (id : UInt16)
  | apply (p i d : ControlTerm)
  deriving DecidableEq

namespace Message

/-- The kind of a message. -/
def kind : Message → MessageKind
  | label .. => .label
  | update .. => .update
  | remove .. => .remove
  | apply .. => .apply

end Message

end SerialLink
