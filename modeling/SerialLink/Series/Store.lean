import Std.Data.TreeMap
import SerialLink.Series.Basic

/-!
# Series of all variables

A store keeps a series for each variable that was named or given a value since it was last removed.
Variables are listed in ascending order.
-/

namespace SerialLink

/-- Series by variable. -/
structure SeriesStore where
  series : Std.TreeMap UInt16 Series := {}

namespace SeriesStore

/-- A store without variables. -/
def empty : SeriesStore := {}

instance : Inhabited SeriesStore := ⟨empty⟩

/-- The series of a variable. -/
def get? (s : SeriesStore) (id : UInt16) : Option Series :=
  s.series[id]?

/-- The store in which a variable's series, a new one if there was none, has been changed. -/
def modify (s : SeriesStore) (id : UInt16) (f : Series → Series) : SeriesStore :=
  ⟨s.series.insert id (f ((s.get? id).getD {}))⟩

/-- A variable is named. -/
def nameVariable (s : SeriesStore) (id : UInt16) (name : String) : SeriesStore :=
  s.modify id (·.named name)

/-- A variable takes a value. -/
def record (s : SeriesStore) (id : UInt16) (sample : Sample) : SeriesStore :=
  s.modify id (·.push sample)

/-- A variable is forgotten. -/
def remove (s : SeriesStore) (id : UInt16) : SeriesStore :=
  ⟨s.series.erase id⟩

/-- The variables with their series, in ascending order. -/
def toList (s : SeriesStore) : List (UInt16 × Series) :=
  s.series.toList

/-- How many variables there are. -/
def size (s : SeriesStore) : Nat :=
  s.series.size

@[simp] theorem get?_empty (id : UInt16) : empty.get? id = none := by
  simp [empty, get?]

theorem get?_modify (s : SeriesStore) (id other : UInt16) (f : Series → Series) :
    (s.modify id f).get? other =
      if other = id then some (f ((s.get? id).getD {})) else s.get? other := by
  simp only [modify, get?, Std.TreeMap.getElem?_insert, Std.LawfulEqCmp.compare_eq_iff_eq]
  by_cases h : id = other <;> simp [h, eq_comm]

theorem get?_remove (s : SeriesStore) (id other : UInt16) :
    (s.remove id).get? other = if other = id then none else s.get? other := by
  simp only [remove, get?, Std.TreeMap.getElem?_erase, Std.LawfulEqCmp.compare_eq_iff_eq]
  by_cases h : id = other <;> simp [h, eq_comm]

end SeriesStore

end SerialLink
