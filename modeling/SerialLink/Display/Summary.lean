import SerialLink.Engine.Session
import SerialLink.Display.Record
import SerialLink.Series.Store

/-!
# Summaries as they are shown

The report of a session, the summary of the series, and a frame that was made.
-/

namespace SerialLink

namespace Session

/-- An exit as a document: its kind and, if it has one, its detail. -/
def Exit.document : Exit → Document
  | stopped => .record [("kind", .text "stopped")]
  | connectionLost reason => .record [("kind", .text "connection_lost"), ("detail", .text reason)]
  | tooManyReadErrors count =>
    .record [("kind", .text "too_many_read_errors"), ("detail", .number count)]

namespace Report

/-- The counts of a report as fields of a document. -/
def fields (r : Report) : List (String × Document) := [
  ("frames", .number r.stats.frames),
  ("unknown_command", .number r.stats.unknownCommand),
  ("size_mismatch", .number r.stats.sizeMismatch),
  ("checksum_mismatch", .number r.stats.checksumMismatch),
  ("read_failures", .number r.stats.readFailures),
  ("bytes_skipped", .number r.stats.bytesSkipped),
  ("handler_failures", .number r.handlerFailures),
  ("exit", r.exit.document)]

/-- A report and its source as a document. -/
def document (r : Report) (source : String) : Document :=
  .record (("type", .text "scan-report") :: ("source", .text source) :: r.fields)

/-- A report and its source as a table. -/
def table (r : Report) (source : String) : Table where
  head := ["FIELD", "VALUE"]
  rows := [
    ["source", source],
    ["frames", toString r.stats.frames],
    ["unknown command", toString r.stats.unknownCommand],
    ["size mismatch", toString r.stats.sizeMismatch],
    ["checksum mismatch", toString r.stats.checksumMismatch],
    ["read failures", toString r.stats.readFailures],
    ["bytes skipped", toString r.stats.bytesSkipped],
    ["handler failures", toString r.handlerFailures],
    ["exit", r.exit.text]]

/-- A report and its source in words. -/
def pretty (r : Report) (source : String) : String :=
  source ++ ": frames=" ++ toString r.stats.frames ++ " discarded=" ++ toString r.stats.discarded ++
    " skipped=" ++ toString r.stats.bytesSkipped ++ " handler_failures=" ++
    toString r.handlerFailures ++ " exit=" ++ r.exit.text

/-- A report as it is shown. -/
def shown (r : Report) (source : String) : Format → String
  | .json => Format.line (r.document source).render
  | .table => Format.line (r.table source).render
  | .pretty => Format.line (r.pretty source)

end Report

end Session

/-- What is shown of one variable. -/
structure VariableSummary where
  id : UInt16
  label : Option String
  samples : Nat
  last : Option Single
  range : Option (Single × Single)
  deriving DecidableEq, Repr

namespace VariableSummary

/-- The summary of a variable's series. -/
def ofSeries (id : UInt16) (s : Series) : VariableSummary where
  id := id
  label := s.label
  samples := s.samples.length
  last := s.last.map Sample.value
  range := s.range

/-- The smallest value. -/
def least (v : VariableSummary) : Option Single :=
  v.range.map Prod.fst

/-- The largest value. -/
def greatest (v : VariableSummary) : Option Single :=
  v.range.map Prod.snd

/-- A number that may be absent, in words. -/
def textOr (value : Option Single) : String :=
  (value.map Single.text).getD "-"

/-- A summary as a document. -/
def document (v : VariableSummary) : Document :=
  .record [("variable_id", .number v.id.toNat), ("alias", .ofOption .text v.label),
    ("samples", .number v.samples), ("last", .ofOption .single v.last),
    ("min", .ofOption .single v.least), ("max", .ofOption .single v.greatest)]

/-- The cells of a summary. -/
def row (v : VariableSummary) : List String :=
  [toString v.id.toNat, v.label.getD "", toString v.samples, textOr v.last, textOr v.least,
    textOr v.greatest]

/-- A summary in words. -/
def pretty (v : VariableSummary) : String :=
  "series id=" ++ toString v.id.toNat ++ " alias=" ++ v.label.getD "-" ++ " samples=" ++
    toString v.samples ++ " last=" ++ textOr v.last ++ " min=" ++ textOr v.least ++ " max=" ++
    textOr v.greatest

end VariableSummary

namespace SeriesStore

/-- The summaries of all variables in ascending order. -/
def summaries (s : SeriesStore) : List VariableSummary :=
  s.toList.map fun (id, series) => .ofSeries id series

/-- The series of a store as they are shown; in words, one line for each. -/
def shown (s : SeriesStore) : Format → String
  | .json =>
    Format.line (Document.record [("type", .text "series-summary"),
      ("series", .list (s.summaries.map VariableSummary.document))]).render
  | .table =>
    Format.line (Table.mk ["VARIABLE", "ALIAS", "SAMPLES", "LAST", "MIN", "MAX"]
      (s.summaries.map VariableSummary.row)).render
  | .pretty => String.join (s.summaries.map fun v => Format.line v.pretty)

end SeriesStore

/-- A frame that was made, with the bytes in front of it. -/
structure Encoded where
  name : String
  command : UInt16
  wire : List UInt8
  deriving DecidableEq, Repr

namespace Encoded

/-- A frame as a document. -/
def document (e : Encoded) : Document :=
  .record [("message", .text e.name), ("command", .text (Hex.word e.command)),
    ("size", .number e.wire.length), ("hex", .text (Hex.ofBytes e.wire))]

/-- A frame as a table. -/
def table (e : Encoded) : Table :=
  ⟨["MESSAGE", "COMMAND", "SIZE", "HEX"],
    [[e.name, Hex.word e.command, toString e.wire.length, Hex.ofBytes e.wire]]⟩

/-- A frame as it is shown. -/
def shown (e : Encoded) : Format → String
  | .json => Format.line e.document.render
  | .table => Format.line e.table.render
  | .pretty => Format.line (Hex.ofBytes e.wire)

end Encoded

end SerialLink
