import SerialLink.Document.Basic
import SerialLink.Document.Reader
import SerialLink.Text.Quoted

/-!
# Configuration of an engine

The name of the receive worker and the number of reads in a row that may fail inside frames.
-/

namespace SerialLink

/-- How an engine receives. -/
structure EngineConfig where
  workerName : String := "busplot-rx"
  maxReadErrors : UInt32 := 16
  deriving DecidableEq, Repr

namespace EngineConfig

/-- The configuration as a document. -/
def document (c : EngineConfig) : Document :=
  .record [
    ("thread_name", .text c.workerName),
    ("max_consecutive_read_errors", .number c.maxReadErrors.toNat)]

open Document in
/-- The fields of a configuration in their order. -/
def fields : List (Member EngineConfig) := [
  .of "thread_name" readText fun v c => { c with workerName := v },
  .of "max_consecutive_read_errors" (readNat (UInt32.size - 1)) fun v c =>
    { c with maxReadErrors := UInt32.ofNat v }]

/-- Reads a configuration from a document. -/
def read (text : String) : Except Document.Refusal EngineConfig :=
  Document.readAll (Document.readRecord fields {}) text

/-- The configuration in words. -/
def described (c : EngineConfig) : String :=
  "EngineConfig \x7b thread_name: " ++ Text.quoted c.workerName ++
    ", max_consecutive_read_errors: " ++ toString c.maxReadErrors.toNat ++ " \x7d"

end EngineConfig

end SerialLink
