import SerialLink.Document.Basic
import SerialLink.Series.Store

/-!
# Series as documents

A store is written as a record with a field for each variable, in ascending order.
-/

namespace SerialLink

/-- A sample as a document. -/
def Sample.document (s : Sample) : Document :=
  .record [("timestamp_us", .number s.timestamp.toNat), ("value", .single s.value)]

/-- A series as a document. -/
def Series.document (s : Series) : Document :=
  .record [("alias", .ofOption .text s.label), ("samples", .list (s.samples.map Sample.document))]

/-- A store as a document. -/
def SeriesStore.document (s : SeriesStore) : Document :=
  .record (s.toList.map fun (id, series) => (toString id.toNat, series.document))

end SerialLink
