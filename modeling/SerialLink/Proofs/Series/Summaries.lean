import SerialLink.Proofs.Series.Bounds
import SerialLink.Proofs.Series.Replay

/-!
# Summaries of what records tell

The summaries of a store that was told of some records have the last name of each variable since it
was last removed, the number of its values from then on, the last of them, and two that bound them
(`SeriesStore.summarize_replayed`).
-/

namespace SerialLink

namespace VariableSummary

/-- A summary tells of a variable what the records about it do. -/
structure Tells (v : VariableSummary) (records : List Record) : Prop where
  label : v.label = (records.filterMap Record.name?).getLast?
  samples : v.samples = (records.filterMap Record.sample?).length
  last : v.last = (records.filterMap Record.sample?).getLast?.map Sample.value
  /-- there is a range if there are values, and its ends are two of them that bound the numbers -/
  range : (v.range = none ∧ records.filterMap Record.sample? = []) ∨
    ∃ low high, v.range = some (low, high) ∧
      Single.Bounds (· ≤ ·) ((records.filterMap Record.sample?).map Sample.value) low ∧
      Single.Bounds (· ≥ ·) ((records.filterMap Record.sample?).map Sample.value) high

theorem tells_ofSeries (id : UInt16) (records : List Record) :
    (ofSeries id (.ofRecords records)).Tells records where
  label := rfl
  samples := rfl
  last := rfl
  range := by
    by_cases none : (Series.ofRecords records).samples = []
    · exact .inl ⟨(Series.range_eq_none_iff _).2 none, none⟩
    · exact .inr (Series.exists_range none)

/-- The summaries of all variables that some records tell something of. -/
structure Summarize (vs : List VariableSummary) (records : List Record) : Prop where
  ascending : (vs.map (·.id)).Pairwise (· < ·)
  /-- a variable has a summary if something was told of it since it was last removed, and that is
  the summary of the series that this comes to -/
  each : ∀ v, v ∈ vs ↔ Record.since v.id records ≠ [] ∧
    v = .ofSeries v.id (.ofRecords (Record.since v.id records))
  told : ∀ v ∈ vs, v.Tells (Record.since v.id records)

end VariableSummary

/-- A store that was told of some records summarizes them. -/
theorem SeriesStore.summarize_replayed (records : List Record) :
    VariableSummary.Summarize (replayed records).summaries records where
  ascending := ascending_summaries _
  each _ := mem_summaries_replayed
  told v member := by
    obtain ⟨-, same⟩ := mem_summaries_replayed.1 member
    have tells := VariableSummary.tells_ofSeries v.id (Record.since v.id records)
    rwa [← same] at tells

end SerialLink
