import SerialLink.Single.Basic

/-!
# Series

A series is what is known about one variable: its label, if it was named, and its values in the
order of arrival, each with the moment at which it came.
-/

namespace SerialLink

/-- A value and the moment of its arrival, in microseconds. -/
structure Sample where
  timestamp : UInt64
  value : Single
  deriving DecidableEq, Repr

/-- What is known about a variable. -/
structure Series where
  label : Option String := none
  samples : List Sample := []
  deriving DecidableEq, Repr, Inhabited

namespace Series

/-- The values without their moments. -/
def values (s : Series) : List Single :=
  s.samples.map Sample.value

/-- The latest sample. -/
def last (s : Series) : Option Sample :=
  s.samples.getLast?

/-- The bounds of some values, the first of which is both bounds at the start. -/
def bounds : List Single → Option (Single × Single)
  | [] => none
  | first :: rest =>
    some (rest.foldl (fun (low, high) v => (low.min v, high.max v)) (first, first))

/-- The smallest and the largest value. -/
def range (s : Series) : Option (Single × Single) :=
  bounds s.values

/-- The series under another name. -/
def named (s : Series) (name : String) : Series :=
  { s with label := some name }

/-- The series with one more sample. -/
def push (s : Series) (sample : Sample) : Series :=
  { s with samples := s.samples ++ [sample] }

@[simp] theorem values_named (s : Series) (name : String) : (s.named name).values = s.values := rfl

@[simp] theorem values_push (s : Series) (sample : Sample) :
    (s.push sample).values = s.values ++ [sample.value] := by
  simp [push, values]

@[simp] theorem last_push (s : Series) (sample : Sample) : (s.push sample).last = some sample := by
  simp [push, last]

end Series

end SerialLink
