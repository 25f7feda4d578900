import Mathlib.Data.List.Forall2
import SerialLink.Document.Reader

/-!
# Records read into two shapes

Where two shapes of a record have the same fields, and a map between the shapes goes along with
setting each field, a text is read into both or refused for the same reason, and the map leads from
the one value to the other (`readAll_alike`).
-/

namespace SerialLink.Document

variable {α β : Type} {f : α → β}

/-- Two fields with one name and one reader, whose values are set alike. -/
inductive Member.Alike (f : α → β) : Member α → Member β → Prop where
  | of {γ : Type} (name : String) (read : ReaderOf γ) {set : γ → α → α} {set' : γ → β → β}
      (same : ∀ v a, f (set v a) = set' v (f a)) :
      Alike f (.of name read set) (.of name read set')

/-- What is read with the rest of the text, under a map. -/
def along (f : α → β) : α × List Char → β × List Char :=
  Prod.map f id

/-- Two such fields are read alike, and what follows them if it is read alike. -/
theorem Member.Alike.bind {m : Member α} {m' : Member β} (alike : Member.Alike f m m')
    (next : α → ReaderOf α) (next' : β → ReaderOf β)
    (later : ∀ a rest, next' (f a) rest = (next a rest).map (along f)) (a : α) (cs : List Char) :
    (m'.read cs >>= fun (set, rest) => next' (set (f a)) rest) =
      (m.read cs >>= fun (set, rest) => next (set a) rest).map (along f) := by
  cases alike with
  | @of γ name read set set' same =>
    show ((read cs).map _ >>= _) = ((read cs).map _ >>= _).map _
    cases read cs with
    | error reason => rfl
    | ok given =>
      show next' (set' given.1 (f a)) given.2 = (next (set given.1 a) given.2).map (along f)
      rw [← same, later]

variable {fields : List (Member α)} {fields' : List (Member β)}

theorem readInOrder_alike (alike : List.Forall₂ (Member.Alike f) fields fields') (first : Bool) (a : α)
    (cs : List Char) :
    readInOrder fields' first (f a) cs = (readInOrder fields first a cs).map (along f) := by
  induction alike generalizing first a cs with
  | nil =>
    unfold readInOrder
    split <;> rfl
  | cons member _ ih =>
    have item := fun rest => member.bind _ _ (fun a rest => ih false a rest) a rest
    unfold readInOrder
    simp only [item]
    split
    · rfl
    · rfl
    · cases first
      · simp only [Bool.false_eq_true, if_false]
        split <;> rfl
      · rfl
    · cases first <;> rfl

theorem find?_alike (alike : List.Forall₂ (Member.Alike f) fields fields') (name : String) :
    Option.Rel (Member.Alike f) (fields.find? (·.name == name)) (fields'.find? (·.name == name)) := by
  induction alike with
  | nil => exact .none
  | @cons m m' _ _ member _ ih =>
    have sameName : m'.name = m.name := by
      cases member
      rfl
    rw [List.find?_cons, List.find?_cons, sameName]
    split
    · exact .some member
    · exact ih

/-- What follows a value is the bracket of the record, or a comma and more fields. -/
def readBehind {γ : Type} (more : γ → ReaderOf γ) (value : γ) : ReaderOf γ := fun rest =>
  match behindGap rest with
  | '\x7d' :: rest => .ok (value, rest)
  | ',' :: rest => more value rest
  | _ => .error .malformed

theorem readBehind_alike {more : α → ReaderOf α} {more' : β → ReaderOf β}
    (later : ∀ a rest, more' (f a) rest = (more a rest).map (along f)) (a : α) (rest : List Char) :
    readBehind more' (f a) rest = (readBehind more a rest).map (along f) := by
  unfold readBehind
  split
  · rfl
  · exact later a _
  · rfl

theorem readFields_alike (alike : List.Forall₂ (Member.Alike f) fields fields') (fuel : Nat)
    (seen : List String) (a : α) (cs : List Char) :
    readFields fields' fuel seen (f a) cs = (readFields fields fuel seen a cs).map (along f) := by
  induction fuel generalizing seen a cs with
  | zero => rfl
  | succ fuel ih =>
    have next (seen : List String) := readBehind_alike (ih seen)
    unfold readFields
    split
    · next rest opened =>
      cases quoted : textBehindQuote? rest with
      | none => rfl
      | some given =>
        obtain ⟨name, rest⟩ := given
        have found := find?_alike alike name
        simp only [orMalformed, bind, Except.bind]
        cases unknown : fields.find? (·.name == name) with
        | none =>
          rw [unknown] at found
          cases known' : fields'.find? (·.name == name) with
          | some m' => rw [known'] at found; cases found
          | none =>
            simp only
            cases behindColon rest with
            | error reason => rfl
            | ok rest =>
              simp only
              cases skipValue? rest.length rest with
              | none => rfl
              | some rest => exact next seen a rest
        | some m =>
          rw [unknown] at found
          cases known' : fields'.find? (·.name == name) with
          | none => rw [known'] at found; cases found
          | some m' =>
            rw [known'] at found
            cases found with
            | some member =>
              by_cases again : name ∈ seen
              · simp only [if_pos again]
                rfl
              · simp only [if_neg again]
                cases behindColon rest with
                | error reason => rfl
                | ok rest => exact member.bind _ _ (next (name :: seen)) a rest
    · rfl

theorem readRecord_alike (alike : List.Forall₂ (Member.Alike f) fields fields') (a : α)
    (cs : List Char) :
    readRecord fields' (f a) cs = (readRecord fields a cs).map (along f) := by
  unfold readRecord
  split
  · split
    · rfl
    · exact readFields_alike alike _ [] a _
  · exact readInOrder_alike alike true a _
  · rfl

/-- A text is read into both shapes, and the map leads from the one value to the other, or it is
refused for one reason. -/
theorem readAll_alike (alike : List.Forall₂ (Member.Alike f) fields fields') (a : α) (text : String) :
    readAll (readRecord fields' (f a)) text = (readAll (readRecord fields a) text).map f := by
  rw [readAll, readAll, readRecord_alike alike]
  cases readRecord fields a text.toList with
  | error reason => rfl
  | ok given =>
    by_cases whole : behindGap given.2 = []
    · simp only [Except.map, bind, Except.bind, along, Prod.map, id_eq, whole, if_true]
    · simp only [Except.map, bind, Except.bind, along, Prod.map, id_eq, whole, if_false]

end SerialLink.Document
