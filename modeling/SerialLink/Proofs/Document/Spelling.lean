import SerialLink.Document.Basic
import SerialLink.Document.Reader

/-!
# How documents are spelled

A record of numbers and texts may be spelled in many ways: gaps may stand around names and values, and
a character of a text stands for itself or is escaped by a letter, by its code point or, past the first
65536 code points, by two units. Writing a record gives one of its spellings (`spellsRecord_chars`).
-/

namespace SerialLink.Document

/-! ## Spellings -/

/-- Characters that may stand between the parts of a document. -/
def Gap (cs : List Char) : Prop :=
  ∀ c ∈ cs, isGap c = true

/-- The letters that escape a character, each with the character. -/
def letters : List (Char × Char) :=
  [('"', '"'), ('\\', '\\'), ('/', '/'), ('b', '\x08'), ('f', '\x0c'), ('n', '\n'), ('r', '\r'),
    ('t', '\t')]

/-- Four digits of either case that have the value `n`. -/
inductive SpellsUnit : Nat → List Char → Prop where
  | of {a b c d : Char} {p q r s : Nat} (first : Hex.value? a = some p) (second : Hex.value? b = some q)
      (third : Hex.value? c = some r) (fourth : Hex.value? d = some s) :
      SpellsUnit (((p * 16 + q) * 16 + r) * 16 + s) [a, b, c, d]

/-- How a character may be spelled within a text. -/
inductive SpellsChar : Char → List Char → Prop where
  | itself {c : Char} (noQuote : c ≠ '"') (noEscape : c ≠ '\\') (visible : 0x20 ≤ c.toNat) :
      SpellsChar c [c]
  | letter {c e : Char} (escape : (e, c) ∈ letters) : SpellsChar c ['\\', e]
  | unit {c : Char} {digits : List Char} (value : SpellsUnit c.toNat digits) :
      SpellsChar c ('\\' :: 'u' :: digits)
  | pair {c : Char} {n m : Nat} {upper lower : List Char} (leading : n < 0x400) (trailing : m < 0x400)
      (value : c.toNat = 0x10000 + n * 0x400 + m) (first : SpellsUnit (0xD800 + n) upper)
      (second : SpellsUnit (0xDC00 + m) lower) :
      SpellsChar c ('\\' :: 'u' :: upper ++ '\\' :: 'u' :: lower)

/-- How the inside of a text may be spelled. -/
inductive SpellsInside : List Char → List Char → Prop where
  | nil : SpellsInside [] []
  | cons {c : Char} {s cs rest : List Char} (first : SpellsChar c cs) (later : SpellsInside s rest) :
      SpellsInside (c :: s) (cs ++ rest)

/-- How a text may be spelled. -/
inductive SpellsText : String → List Char → Prop where
  | of {s : String} {cs : List Char} (inside : SpellsInside s.toList cs) :
      SpellsText s ('"' :: cs ++ ['"'])

/-- How a number or a text may be spelled. -/
inductive Spells : Document → List Char → Prop where
  | number (n : Nat) : Spells (.number n) (Text.digitsOf n)
  | text {s : String} {cs : List Char} (spelled : SpellsText s cs) : Spells (.text s) cs

/-- How a field of a record may be spelled, with gaps around its name and its value. -/
inductive SpellsField : String × Document → List Char → Prop where
  | of {name : String} {value : Document} {a b c d cs vs : List Char} (first : Gap a) (second : Gap b)
      (third : Gap c) (fourth : Gap d) (named : SpellsText name cs) (given : Spells value vs) :
      SpellsField (name, value) (a ++ cs ++ b ++ ':' :: c ++ vs ++ d)

/-- How the fields of a record may be spelled, with the bracket that closes it. -/
inductive SpellsFields : List (String × Document) → List Char → Prop where
  | last {p : String × Document} {cs : List Char} (field : SpellsField p cs) :
      SpellsFields [p] (cs ++ ['\x7d'])
  | cons {p : String × Document} {fields : List (String × Document)} {cs rest : List Char}
      (field : SpellsField p cs) (later : SpellsFields fields rest) :
      SpellsFields (p :: fields) (cs ++ ',' :: rest)

/-- How a record may be spelled. -/
inductive SpellsRecord : List (String × Document) → List Char → Prop where
  | empty {gap : List Char} (blank : Gap gap) : SpellsRecord [] ('\x7b' :: gap ++ ['\x7d'])
  | fields {fields : List (String × Document)} {cs : List Char} (inside : SpellsFields fields cs) :
      SpellsRecord fields ('\x7b' :: cs)

/-- A whole text that is a record, with gaps around it. -/
inductive Holds : String → List (String × Document) → Prop where
  | of {text : String} {fields : List (String × Document)} {a b cs : List Char} (before : Gap a)
      (behind : Gap b) (record : SpellsRecord fields cs) (whole : text.toList = a ++ cs ++ b) :
      Holds text fields

/-! ## What is written is a spelling -/

theorem gap_nil : Gap [] := fun _ member => absurd member List.not_mem_nil

theorem value?_digit : ∀ n < 16, Hex.value? (Hex.digit 'a' n) = some n := by
  decide

/-- A code point below 65536 is spelled by its last four digits. -/
theorem spellsUnit_digits {n : Nat} (small : n < 0x10000) :
    SpellsUnit n (Hex.digits 'a' 4 n) := by
  have split : n = ((n / 16 / 16 / 16 % 16 * 16 + n / 16 / 16 % 16) * 16 + n / 16 % 16) * 16 + n % 16 := by
    omega
  have digit (m : Nat) : Hex.value? (Hex.digit 'a' (m % 16)) = some (m % 16) :=
    value?_digit _ (Nat.mod_lt _ (by decide))
  have spelled := SpellsUnit.of (digit (n / 16 / 16 / 16)) (digit (n / 16 / 16)) (digit (n / 16))
    (digit n)
  rw [← split] at spelled
  exact spelled

theorem spellsChar_escapedChar (c : Char) : SpellsChar c (escapedChar c) := by
  unfold escapedChar
  split
  · next quote =>
    obtain rfl := quote
    exact .letter (by decide)
  split
  · next escape =>
    obtain rfl := escape
    exact .letter (by decide)
  split
  · next backspace =>
    obtain rfl := backspace
    exact .letter (by decide)
  split
  · next tab =>
    obtain rfl := tab
    exact .letter (by decide)
  split
  · next newline =>
    obtain rfl := newline
    exact .letter (by decide)
  split
  · next feed =>
    obtain rfl := feed
    exact .letter (by decide)
  split
  · next carriage =>
    obtain rfl := carriage
    exact .letter (by decide)
  split
  · next control => exact .unit (spellsUnit_digits (by omega))
  · next quote escape _ _ _ _ _ visible => exact .itself quote escape (Nat.not_lt.1 visible)

theorem spellsInside_flatMap (s : List Char) : SpellsInside s (s.flatMap escapedChar) := by
  induction s with
  | nil => exact .nil
  | cons c s ih => exact .cons (spellsChar_escapedChar c) ih

theorem spellsText_textChars (s : String) : SpellsText s (textChars s) :=
  .of (spellsInside_flatMap s.toList)

/-- The value is a number or a text. -/
def IsPlain : Document → Prop
  | .number _ | .text _ => True
  | _ => False

theorem spells_chars {d : Document} (plain : d.IsPlain) : Spells d d.chars := by
  cases d with
  | number n => rw [chars]; exact .number n
  | text s => rw [chars]; exact .text (spellsText_textChars s)
  | null | single | list | record => exact plain.elim

/-- A field is written without gaps. -/
theorem spellsField_chars (name : String) {value : Document} (plain : value.IsPlain) :
    SpellsField (name, value) (textChars name ++ ':' :: value.chars) := by
  have spelled := SpellsField.of gap_nil gap_nil gap_nil gap_nil (spellsText_textChars name)
    (spells_chars plain)
  simpa using spelled

theorem spellsFields_chars {fields : List (String × Document)} (name : String) {value : Document}
    (plain : value.IsPlain) (rest : ∀ p ∈ fields, p.2.IsPlain) :
    SpellsFields ((name, value) :: fields)
      (textChars name ++ ':' :: value.chars ++ fieldChars fields) := by
  induction fields generalizing name value with
  | nil =>
    rw [fieldChars]
    exact .last (spellsField_chars name plain)
  | cons p fields ih =>
    obtain ⟨next, other⟩ := p
    obtain ⟨nextPlain, laterPlain⟩ := List.forall_mem_cons.1 rest
    have later := ih next nextPlain laterPlain
    rw [fieldChars]
    exact .cons (spellsField_chars name plain) later

/-- Writing a record of numbers and texts gives one of its spellings. -/
theorem spellsRecord_chars {fields : List (String × Document)} (plain : ∀ p ∈ fields, p.2.IsPlain) :
    SpellsRecord fields (Document.record fields).chars := by
  cases fields with
  | nil =>
    rw [chars]
    exact .empty gap_nil
  | cons p fields =>
    obtain ⟨name, value⟩ := p
    obtain ⟨first, later⟩ := List.forall_mem_cons.1 plain
    rw [chars]
    exact .fields (spellsFields_chars name first later)

theorem holds_render {fields : List (String × Document)} (plain : ∀ p ∈ fields, p.2.IsPlain) :
    Holds (Document.record fields).render fields := by
  refine .of gap_nil gap_nil (spellsRecord_chars plain) ?_
  rw [render, String.toList_ofList, List.nil_append, List.append_nil]

end SerialLink.Document
