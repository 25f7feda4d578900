import Mathlib.Data.Set.Card
import SerialLink.Proofs.Series.Replay

/-!
# Stores are histories

A store that starts empty is nothing but what was told of each variable since it was last removed
(`store_is_its_histories`): it lists the variables that anything was told of, in ascending order, and
two courses in which the same was told of each variable lead to stores that list the same
(`toList_replayed_congr`). So it does not matter how the records about different variables are
interleaved, and what came before a removal is gone.
-/

namespace SerialLink

namespace Record

theorem since_append_remove (before after : List Record) (id : UInt16) :
    since id (before ++ .remove id :: after) = since id after := by
  induction after using List.reverseRecOn with
  | nil => exact since_snoc_remove before
  | append_singleton after r ih =>
    rw [← List.cons_append, ← List.append_assoc]
    by_cases about : r.about? = some id
    · by_cases removal : r = .remove id
      · rw [removal, since_snoc_remove, since_snoc_remove]
      · rw [since_snoc _ about removal, since_snoc _ about removal, ih]
    · rw [since_snoc_of_other _ about, since_snoc_of_other _ about, ih]

/-- Of two records about different variables, no variable tells which came first. -/
theorem since_swap {a b : Record} (apart : a.about? ≠ b.about?) (before after : List Record)
    (id : UInt16) : since id (before ++ a :: b :: after) = since id (before ++ b :: a :: after) := by
  have same : (before ++ a :: b :: after).filter (·.about? = some id) =
      (before ++ b :: a :: after).filter (·.about? = some id) := by
    by_cases first : a.about? = some id
    · have second : b.about? ≠ some id := fun about => apart (first.trans about.symm)
      simp [first, second]
    · simp [List.filter_cons, first]
  rw [since, since, same]

end Record

namespace SeriesStore

/-- What is told of each variable since it was last removed is all that a store lists. -/
theorem toList_replayed_congr {records others : List Record}
    (same : ∀ id, Record.since id records = Record.since id others) :
    (replayed records).toList = (replayed others).toList := by
  have alike : (replayed records).series.Equiv (replayed others).series := by
    refine .of_forall_constGet?_eq fun id => ?_
    show (replayed records).get? id = (replayed others).get? id
    rw [get?_replayed, get?_replayed, same]
  exact Std.TreeMap.equiv_iff_toList_eq.1 alike

/-- There are as many variables as something was told of since they were last removed. -/
theorem size_replayed (records : List Record) :
    (replayed records).size = {id | Record.since id records ≠ []}.ncard := by
  have ids : {id | Record.since id records ≠ []} =
      (((replayed records).toList.map Prod.fst).toFinset : Set UInt16) := by
    ext id
    simp only [Set.mem_ofPred_eq, List.coe_toFinset, List.mem_map, Prod.exists, exists_and_right,
      exists_eq_right, mem_toList_iff, get?_replayed]
    by_cases untold : Record.since id records = []
    · simp [untold]
    · simp [untold]
  have distinct : ((replayed records).toList.map Prod.fst).Nodup :=
    (ascending_toList _).imp fun less => UInt16.ne_of_lt less
  rw [ids, Set.ncard_coe_finset, List.toFinset_card_of_nodup distinct, List.length_map]
  exact Std.TreeMap.length_toList.symm

/-- **A store is its histories.** A store that was empty and was told of records, among which those
that name a variable, give it a value or remove it, knows a variable exactly when something was told
of it since it was last removed. Its samples are then all values that were told since, in their order,
and its label is the last name told since. The store lists in ascending order just the variables that
it knows, with what it knows of them, and counts them. Where the same was told of each variable, the
same is listed: so records about different variables may change places, and what was told of a
variable before it was removed is gone. -/
theorem store_is_its_histories (records : List Record) :
    (∀ id, ((replayed records).get? id = none ↔ Record.since id records = []) ∧
      ∀ series, (replayed records).get? id = some series →
        series.samples = (Record.since id records).filterMap Record.sample? ∧
        series.label = ((Record.since id records).filterMap Record.name?).getLast?) ∧
    ((replayed records).toList.map Prod.fst).Pairwise (· < ·) ∧
    (∀ id series, (id, series) ∈ (replayed records).toList ↔
      (replayed records).get? id = some series) ∧
    (replayed records).size = {id | Record.since id records ≠ []}.ncard ∧
    (∀ others, (∀ id, Record.since id records = Record.since id others) →
      (replayed records).toList = (replayed others).toList) ∧
    (∀ before a b after, records = before ++ a :: b :: after → a.about? ≠ b.about? →
      (replayed records).toList = (replayed (before ++ b :: a :: after)).toList) ∧
    ∀ before id after, records = before ++ .remove id :: after →
      (replayed records).get? id = (replayed after).get? id := by
  refine ⟨fun id => ⟨?_, fun series known => ?_⟩, ascending_toList _, fun id series =>
    mem_toList_iff, size_replayed records, fun others => toList_replayed_congr, ?_, ?_⟩
  · rw [get?_replayed]
    simp
  · rw [get?_replayed] at known
    split at known
    · cases known
    · cases known
      exact ⟨rfl, rfl⟩
  · rintro before a b after rfl apart
    exact toList_replayed_congr fun id => Record.since_swap apart before after id
  · rintro before id after rfl
    rw [get?_replayed, get?_replayed, Record.since_append_remove]

end SeriesStore

end SerialLink
