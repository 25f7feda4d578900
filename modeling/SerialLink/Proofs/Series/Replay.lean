import Mathlib.Data.List.DropRight
import Mathlib.Data.List.Induction
import SerialLink.Display.Summary

/-!
# Stores out of records

A store that starts empty and is told of records one by one (`SeriesStore.replayed`) holds of each
variable what the records about it tell since it was last removed: the last name and all values
(`get?_replayed`). Its summaries stand in ascending order, one for each variable that there are such
records about (`ascending_summaries`, `mem_summaries_replayed`).
-/

namespace SerialLink

/-! ## What records tell -/

namespace Record

/-- The variable that a record is about. -/
def about? : Record → Option UInt16
  | label id _ | update id _ | remove id => some id
  | apply .. => none

/-- The name that a record gives. -/
def name? : Record → Option String
  | label _ name => some name
  | _ => none

/-- The value that a record gives. -/
def sample? : Record → Option Sample
  | update _ sample => some sample
  | _ => none

/-- The records about a variable since it was last removed. -/
def since (id : UInt16) (records : List Record) : List Record :=
  (records.filter (·.about? = some id)).rtakeWhile (· ≠ .remove id)

section

variable {id : UInt16} {r : Record} (records : List Record)

theorem since_snoc_of_other (other : r.about? ≠ some id) :
    since id (records ++ [r]) = since id records := by
  simp [since, other]

theorem since_snoc_remove : since id (records ++ [.remove id]) = [] := by
  simp [since, about?]

theorem since_snoc (about : r.about? = some id) (kept : r ≠ .remove id) :
    since id (records ++ [r]) = since id records ++ [r] := by
  simp [since, about, kept]

end

end Record

/-- A series with the last name and all values that some records give. -/
def Series.ofRecords (records : List Record) : Series where
  label := (records.filterMap Record.name?).getLast?
  samples := records.filterMap Record.sample?

namespace Series

variable (records : List Record) (id : UInt16)

theorem ofRecords_snoc_label (name : String) :
    ofRecords (records ++ [.label id name]) = (ofRecords records).named name := by
  simp [ofRecords, named, Record.name?, Record.sample?]

theorem ofRecords_snoc_update (sample : Sample) :
    ofRecords (records ++ [.update id sample]) = (ofRecords records).push sample := by
  simp [ofRecords, push, Record.name?, Record.sample?]

end Series

namespace SeriesStore

/-! ## What a store makes of them -/

/-- A store that is told of a record. -/
def heard (s : SeriesStore) : Record → SeriesStore
  | .label id name => s.nameVariable id name
  | .update id sample => s.record id sample
  | .remove id => s.remove id
  | .apply .. => s

/-- The store that some records lead to from an empty one. -/
def replayed (records : List Record) : SeriesStore :=
  records.foldl heard .empty

theorem replayed_snoc (records : List Record) (r : Record) :
    replayed (records ++ [r]) = (replayed records).heard r := by
  simp [replayed]

/-- A record changes nothing about the variables that it is not about. -/
theorem get?_heard_of_other {s : SeriesStore} {r : Record} {id : UInt16}
    (other : r.about? ≠ some id) : (s.heard r).get? id = s.get? id := by
  have different {n : UInt16} (about : r.about? = some n) : id ≠ n := by
    rintro rfl
    exact other about
  cases r with
  | label n name => rw [heard, nameVariable, get?_modify, if_neg (different rfl)]
  | update n sample => rw [heard, record, get?_modify, if_neg (different rfl)]
  | remove n => rw [heard, get?_remove, if_neg (different rfl)]
  | apply p i d => rfl

/-- What a replayed store holds of a variable is told by the records about it since it was last
removed. -/
theorem get?_replayed (id : UInt16) (records : List Record) :
    (replayed records).get? id =
      if Record.since id records = [] then none
      else some (.ofRecords (Record.since id records)) := by
  induction records using List.reverseRecOn with
  | nil => exact get?_empty id
  | append_singleton records r ih =>
    -- A variable of which nothing is known begins as the series of no records.
    have before : ((replayed records).get? id).getD {} = .ofRecords (Record.since id records) := by
      rw [ih]
      split
      · next none =>
        rw [none]
        rfl
      · rfl
    rw [replayed_snoc]
    by_cases about : r.about? = some id
    · cases r with
      | label n name =>
        obtain rfl : n = id := Option.some.inj about
        rw [Record.since_snoc records about (by simp), Series.ofRecords_snoc_label, ← before,
          heard, nameVariable, get?_modify]
        simp
      | update n sample =>
        obtain rfl : n = id := Option.some.inj about
        rw [Record.since_snoc records about (by simp), Series.ofRecords_snoc_update, ← before,
          heard, record, get?_modify]
        simp
      | remove n =>
        obtain rfl : n = id := Option.some.inj about
        rw [Record.since_snoc_remove, heard, get?_remove]
        simp
      | apply p i d => cases about
    · rw [get?_heard_of_other about, ih, Record.since_snoc_of_other records about]

/-! ## Listings -/

theorem ascending_toList (s : SeriesStore) : (s.toList.map Prod.fst).Pairwise (· < ·) := by
  rw [List.pairwise_map]
  exact s.series.ordered_keys_toList.imp fun {a b} less => Std.compare_eq_lt.1 less

theorem mem_toList_iff {s : SeriesStore} {id : UInt16} {series : Series} :
    (id, series) ∈ s.toList ↔ s.get? id = some series :=
  Std.TreeMap.mem_toList_iff_getElem?_eq_some

theorem ascending_summaries (s : SeriesStore) : (s.summaries.map (·.id)).Pairwise (· < ·) := by
  have keys : s.summaries.map (·.id) = s.toList.map Prod.fst := by
    rw [summaries, List.map_map]
    rfl
  rw [keys]
  exact ascending_toList s

theorem mem_summaries_iff {s : SeriesStore} {v : VariableSummary} :
    v ∈ s.summaries ↔ ∃ series, s.get? v.id = some series ∧ v = .ofSeries v.id series := by
  rw [summaries, List.mem_map]
  constructor
  · rintro ⟨⟨id, series⟩, member, rfl⟩
    exact ⟨series, mem_toList_iff.1 member, rfl⟩
  · rintro ⟨series, found, same⟩
    exact ⟨(v.id, series), mem_toList_iff.2 found, same.symm⟩

/-- There is a summary of each variable that something was told of since it was last removed, and
no other. -/
theorem mem_summaries_replayed {records : List Record} {v : VariableSummary} :
    v ∈ (replayed records).summaries ↔
      Record.since v.id records ≠ [] ∧
        v = .ofSeries v.id (.ofRecords (Record.since v.id records)) := by
  rw [mem_summaries_iff, get?_replayed]
  by_cases none : Record.since v.id records = []
  · simp [none]
  · simp [none]

/-- A variable that was removed comes back without its name and its older values. -/
example :
    let records : List Record := [.label 7 "old", .update 7 ⟨0, ⟨0x3F800000⟩⟩, .update 9 ⟨1, ⟨0⟩⟩,
      .remove 7, .update 7 ⟨2, ⟨0x40000000⟩⟩, .label 3 "new"]
    (replayed records).summaries =
      [⟨3, some "new", 0, none, none⟩,
        ⟨7, none, 1, some ⟨0x40000000⟩, some (⟨0x40000000⟩, ⟨0x40000000⟩)⟩,
        ⟨9, none, 1, some ⟨0⟩, some (⟨0⟩, ⟨0⟩)⟩] := by
  decide +kernel

end SeriesStore

end SerialLink
