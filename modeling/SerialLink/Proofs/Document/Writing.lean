import SerialLink.Proofs.Document.Spelling

/-!
# Documents as they are written

An object is written as its fields between brackets, with commas between them (`render_record`), and
an array as its items (`render_list`). A text is written as one of its spellings.
-/

namespace SerialLink.Document

/-! ## Layout -/

/-- A field of an object: its name and the text of its value. -/
def field (name value : String) : String :=
  "\"" ++ name ++ "\":" ++ value

/-- An object of named values. -/
def object (fields : List (String × String)) : String :=
  "\x7b" ++ ",".intercalate (fields.map fun (name, value) => field name value) ++ "\x7d"

/-- An array of values. -/
def array (items : List String) : String :=
  "[" ++ ",".intercalate items ++ "]"

/-! ## What `render` writes -/

/-- No character of a name is escaped. -/
def isPlain (name : String) : Bool :=
  name.toList.flatMap escapedChar == name.toList

theorem render_single (x : Single) : (single x).render = x.documentText := by
  rw [render, chars, String.ofList_toList]

theorem spellsText_render (s : String) : SpellsText s (text s).render.toList := by
  rw [render, chars, String.toList_ofList]
  exact spellsText_textChars s

theorem ofList_field {name : String} (plain : isPlain name = true) (value : Document)
    (cs : List Char) :
    String.ofList (textChars name ++ ':' :: value.chars ++ cs) =
      field name value.render ++ String.ofList cs := by
  rw [isPlain, beq_iff_eq] at plain
  rw [← String.toList_inj]
  simp [textChars, plain, field, render]

/-- The fields behind the bracket that opens an object. -/
theorem ofList_fields {name : String} {value : Document} {fields : List (String × Document)}
    (first : isPlain name = true) (later : ∀ p ∈ fields, isPlain p.1 = true) :
    String.ofList (textChars name ++ ':' :: value.chars ++ fieldChars fields) =
      ",".intercalate (((name, value) :: fields).map fun p => field p.1 p.2.render) ++ "\x7d" := by
  rw [ofList_field first, List.map_cons]
  induction fields generalizing name value with
  | nil =>
    rw [fieldChars]
    rfl
  | cons p fields ih =>
    obtain ⟨next, other⟩ := p
    obtain ⟨plain, rest⟩ := List.forall_mem_cons.1 later
    have comma : String.ofList (',' :: textChars next ++ ':' :: other.chars ++ fieldChars fields) =
        "," ++ (field next other.render ++ String.ofList (fieldChars fields)) := by
      rw [← ofList_field plain, ← String.toList_inj]
      simp
    rw [fieldChars, comma, ih plain rest, List.map_cons, String.intercalate_cons_cons,
      ← String.append_assoc, ← String.append_assoc]

/-- An object is written field by field. -/
theorem render_record {fields : List (String × Document)} {names : List String}
    (named : fields.map Prod.fst = names) (plain : names.all isPlain = true) :
    (record fields).render = object (fields.map fun p => (p.1, p.2.render)) := by
  subst named
  cases fields with
  | nil => rfl
  | cons p fields =>
    obtain ⟨name, value⟩ := p
    rw [List.map_cons, List.all_cons, Bool.and_eq_true, List.all_map, List.all_eq_true] at plain
    have inside := @ofList_fields name value fields plain.1 plain.2
    have opened (cs : List Char) : String.ofList ('\x7b' :: cs) = "\x7b" ++ String.ofList cs :=
      @String.ofList_append ['\x7b'] cs
    rw [render, chars, List.cons_append, List.cons_append, opened, inside, object, List.map_map,
      String.append_assoc]
    rfl

/-- The items behind the bracket that opens an array. -/
theorem ofList_items (item : Document) (items : List Document) :
    String.ofList (item.chars ++ itemChars items) =
      ",".intercalate ((item :: items).map render) ++ "]" := by
  rw [String.ofList_append, List.map_cons]
  induction items generalizing item with
  | nil =>
    rw [itemChars]
    rfl
  | cons next items ih =>
    have comma : String.ofList (',' :: next.chars ++ itemChars items) =
        "," ++ (String.ofList next.chars ++ String.ofList (itemChars items)) := by
      rw [← String.toList_inj]
      simp
    rw [itemChars, comma, ih next, List.map_cons, String.intercalate_cons_cons,
      ← String.append_assoc, ← String.append_assoc]
    rfl

/-- An array is written item by item. -/
theorem render_list (items : List Document) : (list items).render = array (items.map render) := by
  cases items with
  | nil => rfl
  | cons item items =>
    have opened (cs : List Char) : String.ofList ('[' :: cs) = "[" ++ String.ofList cs :=
      @String.ofList_append ['['] cs
    rw [render, chars, List.cons_append, opened, ofList_items, array, String.append_assoc]

end SerialLink.Document
