import SerialLink.Series.Store

/-!
# Stores without moments

What a store tells of its variables besides the moments at which their values came. Two stores tell
the same when every variable does (`untimed_eq_iff`), and go on telling the same when the same is
done to both, at whatever moments.
-/

namespace SerialLink

/-- A series without moments: its label and its values. -/
def Series.untimed (s : Series) : Option String × List Single :=
  (s.label, s.values)

namespace SeriesStore

/-- The variables with their labels and values, in ascending order. -/
def untimed (s : SeriesStore) : List (UInt16 × Option String × List Single) :=
  s.toList.map fun (id, series) => (id, series.untimed)

theorem untimed_eq_iff {s t : SeriesStore} :
    s.untimed = t.untimed ↔
      ∀ id, (s.get? id).map Series.untimed = (t.get? id).map Series.untimed := by
  have listed (s : SeriesStore) : s.untimed = (s.series.map fun _ => Series.untimed).toList := by
    rw [Std.TreeMap.toList_map]
    rfl
  have found (s : SeriesStore) (id : UInt16) :
      (s.series.map fun _ => Series.untimed)[id]? = (s.get? id).map Series.untimed :=
    Std.TreeMap.getElem?_map
  rw [listed, listed, ← Std.TreeMap.equiv_iff_toList_eq]
  constructor
  · intro same id
    rw [← found, ← found, same.getElem?_eq]
  · intro same
    refine .of_forall_constGet?_eq fun id => ?_
    rw [found, found, same]

/-- Changes that leave two series alike leave two stores alike. -/
theorem untimed_modify {s t : SeriesStore} (same : s.untimed = t.untimed) (id : UInt16)
    {f g : Series → Series}
    (alike : ∀ a b : Series, a.untimed = b.untimed → (f a).untimed = (g b).untimed) :
    (s.modify id f).untimed = (t.modify id g).untimed := by
  rw [untimed_eq_iff] at same ⊢
  intro other
  rw [get?_modify, get?_modify]
  split
  · have before : ((s.get? id).getD {}).untimed = ((t.get? id).getD {}).untimed := by
      rw [← Option.getD_map Series.untimed, same id, Option.getD_map]
    exact congrArg some (alike _ _ before)
  · exact same other

theorem untimed_nameVariable {s t : SeriesStore} (same : s.untimed = t.untimed) (id : UInt16)
    (name : String) : (s.nameVariable id name).untimed = (t.nameVariable id name).untimed := by
  refine untimed_modify same id fun a b alike => ?_
  have values : a.values = b.values := congrArg Prod.snd alike
  rw [Series.untimed, Series.untimed, Series.values_named, Series.values_named, values]
  rfl

theorem untimed_record {s t : SeriesStore} (same : s.untimed = t.untimed) (id : UInt16)
    (value : Single) (moment moment' : UInt64) :
    (s.record id ⟨moment, value⟩).untimed = (t.record id ⟨moment', value⟩).untimed := by
  refine untimed_modify same id fun a b alike => ?_
  have label : a.label = b.label := congrArg Prod.fst alike
  have values : a.values = b.values := congrArg Prod.snd alike
  rw [Series.untimed, Series.untimed, Series.values_push, Series.values_push, values]
  exact congrArg (·, b.values ++ [value]) label

theorem untimed_remove {s t : SeriesStore} (same : s.untimed = t.untimed) (id : UInt16) :
    (s.remove id).untimed = (t.remove id).untimed := by
  rw [untimed_eq_iff] at same ⊢
  intro other
  rw [get?_remove, get?_remove]
  split
  · rfl
  · exact same other

end SeriesStore

end SerialLink
