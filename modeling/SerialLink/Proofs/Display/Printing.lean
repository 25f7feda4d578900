import SerialLink.Display.Summary
import SerialLink.Proofs.Display.Drawing
import SerialLink.Proofs.Document.Writing
import SerialLink.Proofs.Single.Texts

/-!
# What is printed

What a printed text has to say is told here apart from how it is made: the fields of a document and
their names, the cells of a table, and the words of a line. A number is a text that is read as it,
and a string is one of its spellings. What is shown of a record, of the variables of a store and of
a report says what it has to (`Record.prints_shown`, `SeriesStore.prints_shown`,
`Session.Report.prints_shown`).
-/

namespace SerialLink

open Document (object array SpellsText)

/-! ## Numbers -/

namespace Single

variable {x : Single}

/-- The text tells a single in words: it is read as it, or `NaN` for what is no number. -/
def InWords (x : Single) (text : String) : Prop :=
  if x.isNaN then text = "NaN" else read text = .ok x

/-- The text tells a single in a document: it is a number that is read as it, or `null` for what is
not finite. -/
def InDocument (x : Single) (text : String) : Prop :=
  if x.isFinite then read text = .ok x ∧ ∃ n, Document.numberText? text.toList = some (n, [])
  else text = "null"

theorem inWords_text (x : Single) : x.InWords x.text := by
  rw [InWords]
  split
  · next none => rw [text, if_pos none]
  · next number => exact read_text (eq_false_of_ne_true number)

theorem inDocument_render (x : Single) : x.InDocument (Document.single x).render := by
  rw [Document.render_single, InDocument]
  split
  · next finite => exact read_documentText finite
  · next other => rw [documentText, if_neg other]

end Single

/-- The text tells what is there, or by a text of its own that nothing is. -/
def OrElse {α : Type} (absent : String) (tells : α → String → Prop) : Option α → String → Prop
  | none, text => text = absent
  | some a, text => tells a text

theorem orElse_ofOption {α : Type} {tells : α → String → Prop} {f : α → Document}
    (told : ∀ a, tells a (f a).render) (a : Option α) :
    OrElse "null" tells a (Document.ofOption f a).render := by
  cases a with
  | none => rfl
  | some a => exact told a

/-! ## Records -/

namespace ControlTerm

/-- The text tells a term in words. -/
inductive InWords (t : ControlTerm) : String → Prop where
  | of {scale outMax value : String} (first : t.scale.InWords scale)
      (second : t.outMax.InWords outMax) (third : t.value.InWords value) : InWords t (scale ++ "/" ++ outMax ++ "/" ++ value)

/-- The text tells a term in a document. -/
inductive InDocument (t : ControlTerm) : String → Prop where
  | of {scale outMax value : String} (first : t.scale.InDocument scale)
      (second : t.outMax.InDocument outMax) (third : t.value.InDocument value) :
      InDocument t (object [("scale", scale), ("out_max", outMax), ("value", value)])

theorem inWords_text (t : ControlTerm) : t.InWords t.text :=
  .of (Single.inWords_text _) (Single.inWords_text _) (Single.inWords_text _)

theorem inDocument_render (t : ControlTerm) : t.InDocument t.document.render := by
  rw [document, @Document.render_record _ ["scale", "out_max", "value"] rfl (by decide)]
  exact .of (Single.inDocument_render _) (Single.inDocument_render _) (Single.inDocument_render _)

end ControlTerm

namespace Record

/-- The text tells a record in a document. -/
inductive InDocument : Record → String → Prop where
  | label {id : UInt16} {name written : String} (named : SpellsText name written.toList) :
      InDocument (.label id name) (object [("message", "\"variable-alias\""),
        ("variable_id", toString id.toNat), ("alias", written)])
  | update {id : UInt16} {sample : Sample} {value : String}
      (valued : sample.value.InDocument value) :
      InDocument (.update id sample) (object [("message", "\"update-variable\""),
        ("variable_id", toString id.toNat), ("value", value),
        ("timestamp_us", toString sample.timestamp.toNat)])
  | remove {id : UInt16} :
      InDocument (.remove id) (object [("message", "\"remove-variable\""),
        ("variable_id", toString id.toNat)])
  | apply {p i d : ControlTerm} {first second third : String} (proportional : p.InDocument first)
      (integral : i.InDocument second) (derivative : d.InDocument third) :
      InDocument (.apply p i d) (object [("message", "\"apply-argument\""), ("p", first),
        ("i", second), ("d", third)])

/-- What a record is called, the variable that it is about, and what it tells of it. -/
inductive InWords : Record → String → String → String → Prop where
  | label {id : UInt16} {name : String} :
      InWords (.label id name) "alias" (toString id.toNat) ("alias=" ++ name)
  | update {id : UInt16} {sample : Sample} {value : String} (valued : sample.value.InWords value) :
      InWords (.update id sample) "update" (toString id.toNat)
        ("value=" ++ value ++ " t=" ++ toString sample.timestamp.toNat ++ "us")
  | remove {id : UInt16} : InWords (.remove id) "remove" (toString id.toNat) ""
  | apply {p i d : ControlTerm} {first second third : String} (proportional : p.InWords first)
      (integral : i.InWords second) (derivative : d.InWords third) :
      InWords (.apply p i d) "apply" "-" ("p=" ++ first ++ " i=" ++ second ++ " d=" ++ third)

/-- The text is the print of a record: a document on one line, a table of one row, or a line of
words. -/
inductive Prints (r : Record) : Format → String → Prop where
  | json {text : String} (document : r.InDocument text) : Prints r .json (text ++ "\n")
  | table {word subject detail text : String} (words : r.InWords word subject detail)
      (drawn : Table.Drawn ⟨["MESSAGE", "VARIABLE", "DETAIL"], [[word, subject, detail]]⟩ text) :
      Prints r .table (text ++ "\n")
  | bare {word subject : String} (words : r.InWords word subject "") :
      Prints r .pretty (word ++ " id=" ++ subject ++ "\n")
  | pretty {word subject detail : String} (words : r.InWords word subject detail)
      (some : detail ≠ "") :
      Prints r .pretty (word ++ " id=" ++ subject ++ " " ++ detail ++ "\n")

theorem inDocument_render (r : Record) : r.InDocument r.document.render := by
  cases r with
  | label id name =>
    rw [document, @Document.render_record _ ["message", "variable_id", "alias"] rfl (by decide)]
    exact .label (Document.spellsText_render name)
  | update id sample =>
    rw [document,
      @Document.render_record _ ["message", "variable_id", "value", "timestamp_us"] rfl (by decide)]
    exact .update (Single.inDocument_render sample.value)
  | remove id =>
    rw [document, @Document.render_record _ ["message", "variable_id"] rfl (by decide)]
    exact .remove
  | apply p i d =>
    rw [document, @Document.render_record _ ["message", "p", "i", "d"] rfl (by decide)]
    exact .apply p.inDocument_render i.inDocument_render d.inDocument_render

theorem inWords_detail (r : Record) : r.InWords r.name r.subject r.detail := by
  cases r with
  | label => exact .label
  | update id sample => exact .update (Single.inWords_text sample.value)
  | remove => exact .remove
  | apply p i d => exact .apply p.inWords_text i.inWords_text d.inWords_text

/-- What is shown of a record is a print of it. -/
theorem prints_shown (r : Record) (format : Format) : r.Prints format (r.shown format) := by
  have words := r.inWords_detail
  cases format with
  | json => exact .json r.inDocument_render
  | table => exact .table words (Table.drawn_render (by simp))
  | pretty =>
    rw [shown, pretty]
    split
    · next none =>
      rw [none] at words
      exact .bare words
    · next some => exact .pretty words some

end Record

/-! ## Variables -/

namespace VariableSummary

/-- The text tells a summary in a document. -/
inductive InDocument (v : VariableSummary) : String → Prop where
  | of {label last least greatest : String}
      (named : OrElse "null" (fun name text => SpellsText name text.toList) v.label label)
      (latest : OrElse "null" Single.InDocument v.last last)
      (lowest : OrElse "null" Single.InDocument (v.range.map Prod.fst) least)
      (highest : OrElse "null" Single.InDocument (v.range.map Prod.snd) greatest) :
      InDocument v (object [("variable_id", toString v.id.toNat), ("alias", label),
        ("samples", toString v.samples), ("last", last), ("min", least), ("max", greatest)])

/-- The texts tell the last value, the least and the greatest. -/
structure InWords (v : VariableSummary) (last least greatest : String) : Prop where
  latest : OrElse "-" Single.InWords v.last last
  lowest : OrElse "-" Single.InWords (v.range.map Prod.fst) least
  highest : OrElse "-" Single.InWords (v.range.map Prod.snd) greatest

/-- The cells of a summary. -/
inductive Cells (v : VariableSummary) : List String → Prop where
  | of {last least greatest : String} (told : v.InWords last least greatest) :
      Cells v [toString v.id.toNat, v.label.getD "", toString v.samples, last, least, greatest]

/-- The line of a summary. -/
inductive Line (v : VariableSummary) : String → Prop where
  | of {last least greatest : String} (told : v.InWords last least greatest) :
      Line v ("series id=" ++ toString v.id.toNat ++ " alias=" ++ v.label.getD "-" ++ " samples=" ++
        toString v.samples ++ " last=" ++ last ++ " min=" ++ least ++ " max=" ++ greatest ++ "\n")

/-- The text is the print of some summaries, in their order: a document on one line, a table with a
row for each, or a line of words for each. -/
inductive Prints (vs : List VariableSummary) : Format → String → Prop where
  | json {items : List String} (each : List.Forall₂ InDocument vs items) :
      Prints vs .json (object [("type", "\"series-summary\""), ("series", array items)] ++ "\n")
  | table {rows : List (List String)} {text : String} (each : List.Forall₂ Cells vs rows)
      (drawn : Table.Drawn ⟨["VARIABLE", "ALIAS", "SAMPLES", "LAST", "MIN", "MAX"], rows⟩ text) :
      Prints vs .table (text ++ "\n")
  | pretty {lines : List String} (each : List.Forall₂ Line vs lines) :
      Prints vs .pretty (String.join lines)

theorem orElse_textOr (value : Option Single) : OrElse "-" Single.InWords value (textOr value) := by
  cases value with
  | none => rfl
  | some x => exact Single.inWords_text x

theorem inWords_textOr (v : VariableSummary) :
    v.InWords (textOr v.last) (textOr v.least) (textOr v.greatest) :=
  ⟨orElse_textOr _, orElse_textOr _, orElse_textOr _⟩

theorem inDocument_render (v : VariableSummary) : v.InDocument v.document.render := by
  rw [document, @Document.render_record _
    ["variable_id", "alias", "samples", "last", "min", "max"] rfl (by decide)]
  have name := @orElse_ofOption _ (fun name text => SpellsText name text.toList) .text
    Document.spellsText_render
  have single := @orElse_ofOption _ Single.InDocument .single Single.inDocument_render
  exact .of (name v.label) (single v.last) (single v.least) (single v.greatest)

end VariableSummary

/-- What is shown of the variables of a store is a print of their summaries. -/
theorem SeriesStore.prints_shown (s : SeriesStore) (format : Format) :
    VariableSummary.Prints s.summaries format (s.shown format) := by
  have each {β : Type} {P : VariableSummary → β → Prop} {f : VariableSummary → β}
      (told : ∀ v, P v (f v)) :
      List.Forall₂ P s.summaries (s.summaries.map f) :=
    List.forall₂_map_right_iff.2 (List.forall₂_same.2 fun v _ => told v)
  cases format with
  | json =>
    rw [shown, @Document.render_record _ ["type", "series"] rfl (by decide)]
    have items := each VariableSummary.inDocument_render
    have list := Document.render_list (s.summaries.map VariableSummary.document)
    rw [List.map_map] at list
    simp only [List.map_cons, List.map_nil, list]
    exact .json items
  | table => exact .table (each fun v => .of v.inWords_textOr) (Table.drawn_render (by simp))
  | pretty => exact .pretty (each fun v => .of v.inWords_textOr)

/-! ## Reports -/

namespace Session

/-- The words for how a session ended. -/
inductive Exit.InWords : Exit → String → Prop where
  | stopped : InWords .stopped "stopped"
  | connectionLost {reason : String} :
      InWords (.connectionLost reason) ("connection lost: " ++ reason)
  | tooManyReadErrors {count : Nat} :
      InWords (.tooManyReadErrors count) (toString count ++ " consecutive read errors")

/-- The text tells in a document how a session ended. -/
inductive Exit.InDocument : Exit → String → Prop where
  | stopped : InDocument .stopped (object [("kind", "\"stopped\"")])
  | connectionLost {reason text : String} (told : SpellsText reason text.toList) :
      InDocument (.connectionLost reason)
        (object [("kind", "\"connection_lost\""), ("detail", text)])
  | tooManyReadErrors {count : Nat} :
      InDocument (.tooManyReadErrors count)
        (object [("kind", "\"too_many_read_errors\""), ("detail", toString count)])

namespace Report

/-- The cells of a report: what is counted and how often. -/
def cells (r : Report) (source exit : String) : List (List String) :=
  [["source", source], ["frames", toString r.stats.frames],
    ["unknown command", toString r.stats.unknownCommand],
    ["size mismatch", toString r.stats.sizeMismatch],
    ["checksum mismatch", toString r.stats.checksumMismatch],
    ["read failures", toString r.stats.readFailures],
    ["bytes skipped", toString r.stats.bytesSkipped],
    ["handler failures", toString r.handlerFailures], ["exit", exit]]

/-- The text is the print of a report. -/
inductive Prints (r : Report) (source : String) : Format → String → Prop where
  | json {name exit : String} (named : SpellsText source name.toList)
      (ended : r.exit.InDocument exit) :
      Prints r source .json (object [("type", "\"scan-report\""), ("source", name),
        ("frames", toString r.stats.frames), ("unknown_command", toString r.stats.unknownCommand),
        ("size_mismatch", toString r.stats.sizeMismatch),
        ("checksum_mismatch", toString r.stats.checksumMismatch),
        ("read_failures", toString r.stats.readFailures),
        ("bytes_skipped", toString r.stats.bytesSkipped),
        ("handler_failures", toString r.handlerFailures), ("exit", exit)] ++ "\n")
  | table {exit text : String} (ended : r.exit.InWords exit)
      (drawn : Table.Drawn ⟨["FIELD", "VALUE"], r.cells source exit⟩ text) :
      Prints r source .table (text ++ "\n")
  | pretty {exit : String} (ended : r.exit.InWords exit) :
      Prints r source .pretty (source ++ ": frames=" ++ toString r.stats.frames ++ " discarded=" ++
        toString r.stats.discarded ++ " skipped=" ++ toString r.stats.bytesSkipped ++
        " handler_failures=" ++ toString r.handlerFailures ++ " exit=" ++ exit ++ "\n")

end Report

theorem Exit.inWords_text (exit : Exit) : exit.InWords exit.text := by
  cases exit with
  | stopped => exact .stopped
  | connectionLost => exact .connectionLost
  | tooManyReadErrors => exact .tooManyReadErrors

theorem Exit.inDocument_render (exit : Exit) : exit.InDocument exit.document.render := by
  cases exit with
  | stopped =>
    rw [document, @Document.render_record _ ["kind"] rfl (by decide)]
    exact .stopped
  | connectionLost reason =>
    rw [document, @Document.render_record _ ["kind", "detail"] rfl (by decide)]
    exact .connectionLost (Document.spellsText_render reason)
  | tooManyReadErrors count =>
    rw [document, @Document.render_record _ ["kind", "detail"] rfl (by decide)]
    exact .tooManyReadErrors

/-- What is shown of a report is a print of it. -/
theorem Report.prints_shown (r : Report) (source : String) (format : Format) :
    r.Prints source format (r.shown source format) := by
  cases format with
  | json =>
    rw [shown, document, fields, @Document.render_record _ ["type", "source", "frames",
      "unknown_command", "size_mismatch", "checksum_mismatch", "read_failures", "bytes_skipped",
      "handler_failures", "exit"] rfl (by decide)]
    exact .json (Document.spellsText_render source) r.exit.inDocument_render
  | table => exact .table r.exit.inWords_text (Table.drawn_render (by simp [cells]))
  | pretty => exact .pretty r.exit.inWords_text

end Session

end SerialLink
