import Mathlib.Order.Defs.Unbundled
import SerialLink.Proofs.Single.Order
import SerialLink.Series.Basic

/-!
# The range of a series

Both bounds of a series start with its first value, and each further value is weighed against them by
a rule that prefers numbers to NaNs (`Single.Picks`). A bound is one of the values so far, none of
their numbers goes beyond it, and it is a NaN only among NaNs (`Single.Bounds`). One more value keeps
that (`Bounds.snoc`), so it holds of the whole series wherever its NaNs are
(`Series.range_bounds_numbers`).
-/

namespace SerialLink

namespace Single

/-- A rule that picks one of two singles: the first of their numbers in the order `r`, and a NaN only
where neither is a number. -/
structure Picks (r : EReal → EReal → Prop) (pick : Single → Single → Single) : Prop where
  either : ∀ x y, pick x y = x ∨ pick x y = y
  isNaN : ∀ x y, (pick x y).isNaN = (x.isNaN && y.isNaN)
  left : ∀ x y, x.isNaN = false → r (pick x y).number x.number
  right : ∀ x y, y.isNaN = false → r (pick x y).number y.number

variable {r : EReal → EReal → Prop} {pick : Single → Single → Single} {values : List Single}
  {bound v : Single}

/-- The rule by which both bounds are found: the second single counts if it is not behind the first,
or if it alone is a number. -/
theorem picks_of_order [Std.Refl r] [Std.Total r] (ahead : Single → Single → Bool)
    (order : ∀ x y, ahead y x = true ↔ y.isNaN = false ∧ x.isNaN = false ∧ r y.number x.number) :
    Picks r fun x y => if ahead y x || (x.isNaN && !y.isNaN) then y else x := by
  have cases (x y : Single) :
      (ahead y x || (x.isNaN && !y.isNaN)) = true ↔
        y.isNaN = false ∧ (x.isNaN = false → r y.number x.number) := by
    rw [Bool.or_eq_true, order]
    cases x.isNaN <;> cases y.isNaN <;> simp
  refine ⟨fun x y => ?_, fun x y => ?_, fun x y number => ?_, fun x y number => ?_⟩
  · split
    · exact .inr rfl
    · exact .inl rfl
  · split
    · next second => rw [((cases x y).1 second).1, Bool.and_false]
    · next first =>
      rw [cases] at first
      cases nan : x.isNaN with
      | false => rfl
      | true =>
        -- A number in the second place would have been picked.
        have nan' : y.isNaN = true := by
          by_contra number
          exact first ⟨eq_false_of_ne_true number, fun proper => by simp [nan] at proper⟩
        rw [nan', Bool.and_self]
  · split
    · next second => exact ((cases x y).1 second).2 number
    · exact refl_of r _
  · split
    · exact refl_of r _
    · next first =>
      rw [cases, not_and, Classical.not_imp] at first
      exact (total_of r _ _).resolve_left (first number).2

theorem picks_min : Picks (· ≤ ·) Single.min :=
  picks_of_order Single.le fun _ _ => le_iff

theorem picks_max : Picks (· ≥ ·) Single.max :=
  picks_of_order (fun y x => x.le y) fun x y => by rw [le_iff, and_left_comm]

/-- A bound of some values in the order `r`. -/
structure Bounds (r : EReal → EReal → Prop) (values : List Single) (bound : Single) : Prop where
  mem : bound ∈ values
  isNaN : bound.isNaN = true → ∀ v ∈ values, v.isNaN = true
  ahead : ∀ v ∈ values, v.isNaN = false → r bound.number v.number

theorem bounds_singleton [Std.Refl r] (v : Single) : Bounds r [v] v where
  mem := List.mem_singleton_self v
  isNaN nan w member := by rwa [List.mem_singleton.1 member]
  ahead w member _ := by rw [List.mem_singleton.1 member]; exact refl_of r _

/-- Where there is a number, the bound is one. -/
theorem Bounds.proper (bounds : Bounds r values bound) (member : v ∈ values)
    (number : v.isNaN = false) : bound.isNaN = false := by
  by_contra nan
  rw [Bool.not_eq_false] at nan
  simp [bounds.isNaN nan v member] at number

/-- The bound picked with one more value. -/
theorem Bounds.snoc [IsTrans EReal r] (picks : Picks r pick) (bounds : Bounds r values bound)
    (v : Single) : Bounds r (values ++ [v]) (pick bound v) where
  mem := by
    rw [List.mem_append, List.mem_singleton]
    rcases picks.either bound v with old | new
    · rw [old]
      exact .inl bounds.mem
    · exact .inr new
  isNaN nan := by
    rw [picks.isNaN, Bool.and_eq_true] at nan
    intro w member
    rcases List.mem_append.1 member with before | now
    · exact bounds.isNaN nan.1 w before
    · rw [List.mem_singleton.1 now]
      exact nan.2
  ahead w member number := by
    rcases List.mem_append.1 member with before | now
    · exact trans_of r (picks.left bound v (bounds.proper before number))
        (bounds.ahead w before number)
    · rw [List.mem_singleton.1 now] at number ⊢
      exact picks.right bound v number

theorem Bounds.foldl [IsTrans EReal r] (picks : Picks r pick) (rest : List Single)
    (bounds : Bounds r values bound) : Bounds r (values ++ rest) (rest.foldl pick bound) := by
  induction rest generalizing values bound with
  | nil => rwa [List.append_nil]
  | cons v rest ih =>
    rw [List.append_cons]
    exact ih (bounds.snoc picks v)

/-- Of the same values in any order, two bounds are the same number. -/
theorem Bounds.number_eq [Std.Antisymm r] {others : List Single} {other : Single}
    (bounds : Bounds r values bound) (bounds' : Bounds r others other) (same : others.Perm values)
    (member : v ∈ values) (number : v.isNaN = false) : other.number = bound.number := by
  have here := bounds.proper member number
  have there := bounds'.proper (same.mem_iff.2 member) number
  exact antisymm_of r (bounds'.ahead bound (same.mem_iff.2 bounds.mem) here)
    (bounds.ahead other (same.mem_iff.1 bounds'.mem) there)

end Single

namespace Series

open Single

theorem range_eq_none_iff (s : Series) : s.range = none ↔ s.samples = [] := by
  rw [range, values]
  cases s.samples <;> simp [bounds]

/-- The range of a series that has samples is made of both bounds of its values. -/
theorem exists_range {s : Series} (some : s.samples ≠ []) :
    ∃ low high, s.range = Option.some (low, high) ∧ Bounds (· ≤ ·) s.values low ∧
      Bounds (· ≥ ·) s.values high := by
  obtain ⟨first, rest, values⟩ : ∃ first rest, s.values = first :: rest :=
    List.exists_cons_of_ne_nil (by simpa [Series.values] using some)
  refine ⟨rest.foldl Single.min first, rest.foldl Single.max first, ?_, ?_, ?_⟩
  · rw [range, values, bounds]
    exact congrArg Option.some (List.foldl_hom₂ rest Prod.mk _ _ _ first first fun _ _ _ => rfl)
  · rw [values]
    exact (bounds_singleton first).foldl picks_min rest
  · rw [values]
    exact (bounds_singleton first).foldl picks_max rest

/-- **The range of a series bounds its numbers.** A series has no range exactly when it has no
samples. If one of its values is a number, both ends of its range are numbers among its values, all
numbers among its values lie between them, and the same samples in any other order give ends that are
the same numbers, wherever the NaNs stand. If all of its values are NaNs, so are both ends. -/
theorem range_bounds_numbers (s : Series) :
    (s.range = none ↔ s.samples = []) ∧
    ((∃ v ∈ s.values, v.isNaN = false) →
      ∃ low high, s.range = some (low, high) ∧ low.isNaN = false ∧ high.isNaN = false ∧
        low ∈ s.values ∧ high ∈ s.values ∧
        (∀ v ∈ s.values, v.isNaN = false → low.number ≤ v.number ∧ v.number ≤ high.number) ∧
        ∀ s' : Series, s'.values.Perm s.values →
          ∃ low' high', s'.range = some (low', high') ∧ low'.isNaN = false ∧ high'.isNaN = false ∧
            low'.number = low.number ∧ high'.number = high.number) ∧
    (s.samples ≠ [] → (∀ v ∈ s.values, v.isNaN = true) →
      ∃ low high, s.range = some (low, high) ∧ low.isNaN = true ∧ high.isNaN = true) := by
  refine ⟨s.range_eq_none_iff, fun ⟨v, member, number⟩ => ?_, fun some nans => ?_⟩
  · have some : s.samples ≠ [] := fun none => by simp [values, none] at member
    obtain ⟨low, high, range, least, greatest⟩ := exists_range some
    refine ⟨low, high, range, least.proper member number, greatest.proper member number, least.mem,
      greatest.mem, fun w here proper => ⟨least.ahead w here proper, greatest.ahead w here proper⟩,
      fun s' same => ?_⟩
    have member' := same.mem_iff.2 member
    have some' : s'.samples ≠ [] := fun none => by simp [values, none] at member'
    obtain ⟨low', high', range', least', greatest'⟩ := exists_range some'
    exact ⟨low', high', range', least'.proper member' number, greatest'.proper member' number,
      least.number_eq least' same member number, greatest.number_eq greatest' same member number⟩
  · obtain ⟨low, high, range, least, greatest⟩ := exists_range some
    exact ⟨low, high, range, nans low least.mem, nans high greatest.mem⟩

/-- NaNs in front, in between and behind do not show in the range, here from minus infinity to two. -/
example :
    bounds [⟨0x7FC00000⟩, ⟨0x40000000⟩, ⟨0xFFC00001⟩, ⟨0xFF800000⟩, ⟨0x7F800001⟩] =
      some (⟨0xFF800000⟩, ⟨0x40000000⟩) := by decide

end Series

end SerialLink
