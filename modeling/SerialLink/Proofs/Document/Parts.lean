import Mathlib.Data.List.Perm.Subperm
import SerialLink.Proofs.Document.Reading

/-!
# Parts of a record

A record may be left with some of its fields, in any order. What is read from it takes the named
fields from the value that the whole record stands for and the others from the default
(`read_of_part`), where each field of the whole record is taken so on its own.
-/

namespace SerialLink.Document

/-- The fields of a record. -/
def entries : Document → List (String × Document)
  | record fields => fields
  | _ => []

/-- A value that takes its named fields from elsewhere: none changes nothing, and the fields may be
named one after the other. -/
structure Blends {α : Type} (take : List String → α → α) : Prop where
  none : ∀ a, take [] a = a
  both : ∀ first later a, take later (take first a) = take (first ++ later) a

section

variable {α : Type} {take : List String → α → α}

theorem Blends.foldl (blends : Blends take) (picked : List (String × Document)) (a : α) :
    picked.foldl (fun a p => take [p.1] a) a = take (picked.map Prod.fst) a := by
  induction picked generalizing a with
  | nil => exact (blends.none a).symm
  | cons p picked ih => rw [List.foldl_cons, ih, blends.both, List.map_cons, List.singleton_append]

/-- The names of some fields of a record are as distinct as those of the record. -/
theorem distinct_of_part {picked whole : List (String × Document)} (part : picked.Subperm whole)
    (distinct : (whole.map Prod.fst).Nodup) : (picked.map Prod.fst).Nodup := by
  obtain ⟨kept, same, within⟩ := part
  exact (same.map Prod.fst).nodup_iff.1 (distinct.sublist (within.map Prod.fst))

/-- Some fields of a record, in any order and however they are spelled, are read as the default with
the named fields taken. -/
theorem read_of_part {fields : List (Member α)} (blends : Blends take)
    {whole picked : List (String × Document)} (known : ∀ p ∈ whole, Knows fields (fun p => take [p.1]) p)
    (distinct : (whole.map Prod.fst).Nodup) (part : picked.Subperm whole) {text : String}
    (holds : Holds text picked) (default : α) :
    readAll (readRecord fields default) text = .ok (take (picked.map Prod.fst) default) := by
  have read := readAll_of_holds holds (fun p member => known p (part.subset member))
    (distinct_of_part part distinct) default
  rw [read, blends.foldl]

end

/-- One of two values by whether a name is given, where names are given twice. -/
theorem ite_mem_append {γ : Type} (name : String) (first later : List String) (a b : γ) :
    (if name ∈ later then a else if name ∈ first then a else b) =
      if name ∈ first ++ later then a else b := by
  by_cases late : name ∈ later
  · simp [late]
  · simp [late]

end SerialLink.Document
