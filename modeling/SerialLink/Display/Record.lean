import SerialLink.Document.Basic
import SerialLink.Message.Basic
import SerialLink.Display.Table
import SerialLink.Series.Basic

/-!
# Messages as they are shown

A received message is shown in one of three formats: a document on one line, a table of its own, or
a line of words. Every shown text ends with a newline.
-/

namespace SerialLink

/-- The formats of output. -/
inductive Format where
  | json | table | pretty
  deriving DecidableEq, Repr

/-- A text as a line. -/
def Format.line (text : String) : String :=
  text ++ "\n"

/-- A message as it was received. -/
inductive Record where
  | label (id : UInt16) (name : String)
  | update (id : UInt16) (sample : Sample)
  | remove (id : UInt16)
  | apply (p i d : ControlTerm)
  deriving DecidableEq, Repr

namespace Record

/-- The record of a message that was handled at a moment. -/
def ofMessage (moment : UInt64) : Message → Record
  | .label id field => .label id field.text
  | .update id value => .update id ⟨moment, value⟩
  | .remove id => .remove id
  | .apply p i d => .apply p i d

/-- What a record is called in words. -/
def name : Record → String
  | label .. => "alias"
  | update .. => "update"
  | remove .. => "remove"
  | apply .. => "apply"

/-- The variable that a record is about. -/
def subject : Record → String
  | label id _ | update id _ | remove id => toString id.toNat
  | apply .. => "-"

end Record

namespace ControlTerm

/-- A term in words. -/
def text (t : ControlTerm) : String :=
  t.scale.text ++ "/" ++ t.outMax.text ++ "/" ++ t.value.text

/-- A term as a document. -/
def document (t : ControlTerm) : Document :=
  .record [("scale", .single t.scale), ("out_max", .single t.outMax), ("value", .single t.value)]

end ControlTerm

namespace Record

/-- What a record tells about its variable. -/
def detail : Record → String
  | label _ name => "alias=" ++ name
  | update _ sample =>
    "value=" ++ sample.value.text ++ " t=" ++ toString sample.timestamp.toNat ++ "us"
  | remove _ => ""
  | apply p i d => "p=" ++ p.text ++ " i=" ++ i.text ++ " d=" ++ d.text

/-- A record as a document. -/
def document : Record → Document
  | label id name =>
    .record [("message", .text MessageKind.label.name), ("variable_id", .number id.toNat),
      ("alias", .text name)]
  | update id sample =>
    .record [("message", .text MessageKind.update.name), ("variable_id", .number id.toNat),
      ("value", .single sample.value), ("timestamp_us", .number sample.timestamp.toNat)]
  | remove id =>
    .record [("message", .text MessageKind.remove.name), ("variable_id", .number id.toNat)]
  | apply p i d =>
    .record [("message", .text MessageKind.apply.name), ("p", p.document), ("i", i.document),
      ("d", d.document)]

/-- A record as a table. -/
def table (r : Record) : Table :=
  ⟨["MESSAGE", "VARIABLE", "DETAIL"], [[r.name, r.subject, r.detail]]⟩

/-- A record in words. -/
def pretty (r : Record) : String :=
  let head := r.name ++ " id=" ++ r.subject
  if r.detail = "" then head else head ++ " " ++ r.detail

/-- A record as it is shown. -/
def shown (r : Record) : Format → String
  | .json => Format.line r.document.render
  | .table => Format.line r.table.render
  | .pretty => Format.line r.pretty

end Record

end SerialLink
