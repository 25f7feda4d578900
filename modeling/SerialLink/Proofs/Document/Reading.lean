import SerialLink.Proofs.Document.Numbers
import SerialLink.Proofs.Document.Spelling

/-!
# Reading what is spelled

A text, a number or a word is read from each of its spellings (`reads_text`, `reads_nat`,
`reads_word`). A record whose fields have distinct names that are all known is read from each of its
spellings as the default with the changes of its fields made one after the other
(`readAll_of_holds`).
-/

namespace SerialLink.Document

/-! ## Gaps -/

section

variable {gap cs rest : List Char}

theorem behindGap_append (blank : Gap gap) : behindGap (gap ++ cs) = behindGap cs :=
  List.dropWhile_append_of_pos blank

theorem behindGap_of_blank (blank : Gap gap) : behindGap gap = [] := by
  rw [← List.append_nil gap, behindGap_append blank]
  rfl

theorem behindGap_cons {c : Char} (solid : isGap c = false) : behindGap (c :: cs) = c :: cs :=
  List.dropWhile_cons_of_neg (by simp [solid])

theorem behindGap_behindGap (cs : List Char) : behindGap (behindGap cs) = behindGap cs := by
  induction cs with
  | nil => rfl
  | cons c cs ih =>
    by_cases blank : isGap c = true
    · have passed : behindGap (c :: cs) = behindGap cs := List.dropWhile_cons_of_pos blank
      rw [passed, ih]
    · have kept : behindGap (c :: cs) = c :: cs := List.dropWhile_cons_of_neg blank
      rw [kept, kept]

end

/-! ## Texts -/

section

variable {c : Char} {s cs rest : List Char}

theorem unit?_of_spells {n : Nat} (spelled : SpellsUnit n cs) : unit? (cs ++ rest) = some (n, rest) := by
  cases spelled with
  | of first second third fourth => simp [unit?, first, second, third, fourth]

/-- A code point is no surrogate. -/
theorem not_surrogate (c : Char) : isTrailing c.toNat = false ∧ isLeading c.toNat = false := by
  have valid : c.toNat < 0xD800 ∨ 0xDFFF < c.toNat ∧ c.toNat < 0x110000 := c.valid
  simp only [isTrailing, isLeading, Bool.and_eq_false_iff, decide_eq_false_iff_not]
  omega

theorem codePoint?_of_unit (value : SpellsUnit c.toNat cs) :
    codePoint? (cs ++ rest) = some (c, rest) := by
  obtain ⟨noTrailing, noLeading⟩ := not_surrogate c
  rw [codePoint?, unit?_of_spells value]
  simp [noTrailing, noLeading]

theorem codePoint?_of_pair {n m : Nat} {upper lower : List Char} (leading : n < 0x400)
    (trailing : m < 0x400) (value : c.toNat = 0x10000 + n * 0x400 + m)
    (first : SpellsUnit (0xD800 + n) upper) (second : SpellsUnit (0xDC00 + m) lower) :
    codePoint? (upper ++ '\\' :: 'u' :: (lower ++ rest)) = some (c, rest) := by
  have noTrailing : isTrailing (0xD800 + n) = false := by
    simp only [isTrailing, Bool.and_eq_false_iff, decide_eq_false_iff_not]
    omega
  have leads : isLeading (0xD800 + n) = true := by
    simp only [isLeading, Bool.and_eq_true, decide_eq_true_eq]
    omega
  have trails : isTrailing (0xDC00 + m) = true := by
    simp only [isTrailing, Bool.and_eq_true, decide_eq_true_eq]
    omega
  rw [codePoint?, unit?_of_spells first]
  simp [noTrailing, leads, unit?_of_spells second, trails]
  rw [← value, Char.ofNat_toNat]

theorem char?_of_letter : ∀ p ∈ letters, char? ('\\' :: p.1 :: rest) = some (p.2, rest) := by
  intro p letter
  simp only [letters, List.mem_cons, List.not_mem_nil, or_false] at letter
  obtain rfl | rfl | rfl | rfl | rfl | rfl | rfl | rfl := letter <;> rfl

/-- A character is read from each of its spellings. -/
theorem char?_of_spells (spelled : SpellsChar c cs) : char? (cs ++ rest) = some (c, rest) := by
  cases spelled with
  | itself noQuote noEscape visible =>
    have plain : ¬(c = '\\' ∨ c.toNat < 0x20) := not_or.2 ⟨noEscape, Nat.not_lt.2 visible⟩
    rw [List.cons_append, List.nil_append, char?.eq_def]
    split
    · next same => exact absurd (List.cons.inj same).1 noEscape
    · next same => exact absurd (List.cons.inj same).1 noEscape
    · next same =>
      obtain ⟨rfl, rfl⟩ := List.cons.inj same
      exact if_neg plain
    · next same => exact absurd same (List.cons_ne_nil _ _)
  | letter escape => exact char?_of_letter _ escape
  | unit value => exact codePoint?_of_unit value
  | pair leading trailing value first second =>
    rw [List.append_assoc]
    exact codePoint?_of_pair leading trailing value first second

/-- No spelling of a character closes a text. -/
theorem opens_of_spells (spelled : SpellsChar c cs) : ∃ first more, cs = first :: more ∧ first ≠ '"' := by
  cases spelled with
  | itself noQuote => exact ⟨c, [], rfl, noQuote⟩
  | letter | unit | pair => exact ⟨'\\', _, rfl, by decide⟩

theorem length_le_of_spells (spelled : SpellsInside s cs) : s.length ≤ cs.length := by
  induction spelled with
  | nil => exact Nat.le_refl _
  | cons first later ih =>
    obtain ⟨_, more, rfl, -⟩ := opens_of_spells first
    rw [List.length_cons, List.length_append, List.length_cons]
    omega

/-- The inside of a text is read from each of its spellings. -/
theorem inside?_of_spells (spelled : SpellsInside s cs) {fuel : Nat} (enough : s.length < fuel) :
    inside? fuel (cs ++ '"' :: rest) = some (s, rest) := by
  induction spelled generalizing fuel with
  | nil =>
    match fuel, enough with
    | fuel + 1, _ => rfl
  | @cons c s cs later first _ ih =>
    match fuel, enough with
    | fuel + 1, enough =>
      have inner := ih (Nat.lt_of_succ_lt_succ enough)
      have read := @char?_of_spells _ _ (later ++ '"' :: rest) first
      obtain ⟨head, more, rfl, noQuote⟩ := opens_of_spells first
      rw [List.append_assoc, inside?]
      · rw [read]
        simp [inner]
      · intro behind same
        exact noQuote (List.cons.inj same).1

theorem textBehindQuote?_of_spells {text : String} (spelled : SpellsInside text.toList cs) :
    textBehindQuote? (cs ++ '"' :: rest) = some (text, rest) := by
  have enough : text.toList.length < (cs ++ '"' :: rest).length := by
    have := length_le_of_spells spelled
    rw [List.length_append, List.length_cons]
    omega
  rw [textBehindQuote?, inside?_of_spells spelled enough, Option.map_some]
  exact congrArg (fun s => some (s, rest)) (String.ofList_toList)

/-- A text stands behind its opening quote. -/
theorem exists_behindQuote {text : String} (spelled : SpellsText text cs) (rest : List Char) :
    ∃ more, cs ++ rest = '"' :: more ∧ textBehindQuote? more = some (text, rest) := by
  cases spelled with
  | of inside => exact ⟨_, by simp, textBehindQuote?_of_spells inside⟩

end

/-! ## Values -/

/-- A reader takes each spelling of a value, with a gap in front, as `b`. -/
def Reads {β : Type} (read : ReaderOf β) (d : Document) (b : β) : Prop :=
  ∀ gap cs rest : List Char, Gap gap → Spells d cs → NumberEnds rest →
    read (gap ++ (cs ++ rest)) = .ok (b, rest)

theorem readText_of_quoted {text : String} {gap more rest : List Char} (blank : Gap gap)
    (quoted : textBehindQuote? more = some (text, rest)) :
    readText (gap ++ '"' :: more) = .ok (text, rest) := by
  rw [readText, behindGap_append blank, behindGap_cons (by decide)]
  simp only [quoted]
  rfl

theorem reads_text (text : String) : Reads readText (.text text) text := by
  intro gap cs rest blank spelled _
  cases spelled with
  | text spelled =>
    obtain ⟨more, opened, quoted⟩ := exists_behindQuote spelled rest
    rw [opened]
    exact readText_of_quoted blank quoted

theorem isGap_of_isDigit {c : Char} (digit : c.isDigit = true) : isGap c = false := by
  simp only [isGap, Bool.or_eq_false_iff, beq_eq_false_iff_ne]
  refine ⟨⟨⟨?_, ?_⟩, ?_⟩, ?_⟩ <;> rintro rfl <;> exact absurd digit (by decide)

theorem reads_nat {n limit : Nat} (below : n ≤ limit) (small : limit < UInt64.size) :
    Reads (readNat limit) (.number n) n := by
  intro gap cs rest blank spelled ends
  cases spelled
  have number := number?_digitsOf (Nat.lt_of_le_of_lt below small) ends
  obtain ⟨first, more, digits⟩ := List.exists_cons_of_ne_nil (Text.digitsOf_ne_nil n)
  have digit : first.isDigit = true := Text.isDigit_of_mem_digitsOf (digits ▸ List.mem_cons_self)
  rw [digits, List.cons_append] at number ⊢
  rw [readNat, behindGap_append blank, behindGap_cons (isGap_of_isDigit digit)]
  simp only [digit, or_true, if_true, number, orMalformed, bind, Except.bind, natural?_ofNat, below]

theorem reads_word {α : Type} {word : String → Option α} {text : String} {a : α}
    (known : word text = some a) : Reads (readWord word) (.text text) a := by
  intro gap cs rest blank spelled _
  cases spelled with
  | text spelled =>
    obtain ⟨more, opened, quoted⟩ := exists_behindQuote spelled rest
    have read : readText ('"' :: more) = .ok (text, rest) := readText_of_quoted gap_nil quoted
    rw [opened, readWord, behindGap_append blank, behindGap_cons (by decide)]
    simp only [read, bind, Except.bind, known]

theorem reads_refine {α β : Type} {read : ReaderOf α} {f : α → Except String β} {d : Document} {a : α}
    {b : β} (reads : Reads read d a) (fine : f a = .ok b) : Reads (read.refine f) d b := by
  intro gap cs rest blank spelled ends
  simp only [ReaderOf.refine, reads gap cs rest blank spelled ends, bind, Except.bind, fine]

theorem reads_of {α β : Type} {read : ReaderOf β} {d : Document} {b : β} (reads : Reads read d b)
    (name : String) (set : β → α → α) : Reads (Member.of name read set).read d (set b) := by
  intro gap cs rest blank spelled ends
  show (read _).map _ = _
  rw [reads gap cs rest blank spelled ends]
  rfl

/-! ## Records -/

section

variable {α : Type} {fields : List (Member α)} {change : String × Document → α → α}
  {p : String × Document} {cs rest : List Char}

/-- The record has a field of that name, which takes each spelling of the value as a change. -/
def Knows (fields : List (Member α)) (change : String × Document → α → α) (p : String × Document) :
    Prop :=
  ∃ m, fields.find? (·.name == p.1) = some m ∧ Reads m.read p.2 (change p)

theorem behindColon_append {gap : List Char} (blank : Gap gap) :
    behindColon (gap ++ ':' :: rest) = .ok rest := by
  rw [behindColon, behindGap_append blank, behindGap_cons (by decide)]
  rfl

/-- A bracket or comma behind a value and a gap goes on with no number. -/
theorem numberEnds_gap {gap : List Char} (blank : Gap gap) {mark : Char}
    (closes : mark ∈ ['\x7d', ',']) : NumberEnds (gap ++ mark :: rest) := by
  intro c first
  cases gap with
  | nil =>
    obtain rfl : mark = c := Option.some.inj first
    simp only [List.mem_cons, List.not_mem_nil, or_false] at closes
    obtain rfl | rfl := closes <;> decide
  | cons d gap =>
    obtain rfl : d = c := Option.some.inj first
    have gapped := blank d List.mem_cons_self
    simp only [isGap, Bool.or_eq_true, beq_iff_eq] at gapped
    obtain ((rfl | rfl) | rfl) | rfl := gapped <;> decide

/-- A field is read, and the bracket or comma behind it tells how the record goes on. -/
theorem readFields_of_field (field : SpellsField p cs) (known : Knows fields change p)
    {mark : Char} (closes : mark ∈ ['\x7d', ',']) {seen : List String}
    (unseen : p.1 ∉ seen) (fuel : Nat) (value : α) :
    readFields fields (fuel + 1) seen value (cs ++ mark :: rest) =
      if mark = '\x7d' then .ok (change p value, rest)
      else readFields fields fuel (p.1 :: seen) (change p value) rest := by
  obtain ⟨m, found, reads⟩ := known
  cases field with
  | @of name given a b c d ns vs first second third fourth named spelled =>
    obtain ⟨more, opened, quoted⟩ :=
      exists_behindQuote named (b ++ ':' :: (c ++ (vs ++ (d ++ mark :: rest))))
    have start : behindGap (a ++ ns ++ b ++ ':' :: c ++ vs ++ d ++ mark :: rest) = '"' :: more := by
      have whole : a ++ ns ++ b ++ ':' :: c ++ vs ++ d ++ mark :: rest = a ++ '"' :: more := by
        rw [← opened]
        simp
      rw [whole, behindGap_append first, behindGap_cons (by decide)]
    have taken := reads c vs (d ++ mark :: rest) third spelled (numberEnds_gap fourth closes)
    rw [readFields, start]
    simp only [quoted, orMalformed, bind, Except.bind, found, if_neg unseen,
      behindColon_append second, taken, behindGap_append fourth]
    simp only [List.mem_cons, List.not_mem_nil, or_false] at closes
    obtain rfl | rfl := closes
    · rw [behindGap_cons (by decide), if_pos rfl]
      rfl
    · rw [behindGap_cons (by decide), if_neg (by decide)]
      rfl

/-- The fields of a record are read, however they are spelled, as their changes one after the other. -/
theorem readFields_of_spells {entries : List (String × Document)} (spelled : SpellsFields entries cs)
    (known : ∀ p ∈ entries, Knows fields change p) (distinct : (entries.map Prod.fst).Nodup)
    {seen : List String} (unseen : ∀ p ∈ entries, p.1 ∉ seen) {fuel : Nat}
    (enough : entries.length ≤ fuel) (value : α) :
    readFields fields fuel seen value (cs ++ rest) =
      .ok (entries.foldl (fun value p => change p value) value, rest) := by
  induction spelled generalizing seen fuel value with
  | @last p cs field =>
    match fuel, enough with
    | fuel + 1, _ =>
      rw [List.append_assoc]
      exact (readFields_of_field field (known p List.mem_cons_self) (by decide)
        (unseen p List.mem_cons_self) fuel value).trans (if_pos rfl)
  | @cons p entries cs later field spelled ih =>
    match fuel, enough with
    | fuel + 1, enough =>
      obtain ⟨knownFirst, knownLater⟩ := List.forall_mem_cons.1 known
      obtain ⟨unseenFirst, unseenLater⟩ := List.forall_mem_cons.1 unseen
      obtain ⟨fresh, distinctLater⟩ := List.nodup_cons.1 distinct
      have stillUnseen : ∀ q ∈ entries, q.1 ∉ p.1 :: seen := by
        intro q member again
        rcases List.mem_cons.1 again with same | before
        · exact fresh (same ▸ List.mem_map_of_mem member)
        · exact unseenLater q member before
      rw [List.append_assoc, List.cons_append,
        readFields_of_field field knownFirst (by decide) unseenFirst fuel value,
        if_neg (by decide)]
      exact ih knownLater distinctLater stillUnseen (Nat.le_of_succ_le_succ enough) (change p value)

/-- A field opens with the quote of its name. -/
theorem opens_of_spellsField (field : SpellsField p cs) :
    ∃ gap more, cs = gap ++ '"' :: more ∧ Gap gap := by
  cases field with
  | @of name given a b c d ns vs first second third fourth named spelled =>
    cases named with
    | @of inside _ =>
      exact ⟨a, inside ++ '"' :: (b ++ ':' :: (c ++ (vs ++ d))), by simp, first⟩

/-- The fields of a record open with a quote, and there is more behind it than fields. -/
theorem opens_of_spellsFields {entries : List (String × Document)}
    (spelled : SpellsFields entries cs) :
    ∃ gap more, cs = gap ++ '"' :: more ∧ Gap gap ∧ entries.length ≤ more.length := by
  induction spelled with
  | @last p cs field =>
    obtain ⟨gap, more, rfl, blank⟩ := opens_of_spellsField field
    exact ⟨gap, more ++ ['\x7d'], by simp, blank, by simp⟩
  | @cons p entries cs later field _ ih =>
    obtain ⟨gap, more, rfl, blank⟩ := opens_of_spellsField field
    obtain ⟨before, behind, rfl, -, enough⟩ := ih
    refine ⟨gap, more ++ ',' :: (before ++ '"' :: behind), by simp, blank, ?_⟩
    simp only [List.length_append, List.length_cons]
    omega

theorem readFields_behindGap (fuel : Nat) (seen : List String) (value : α) (cs : List Char) :
    readFields fields fuel seen value (behindGap cs) = readFields fields fuel seen value cs := by
  cases fuel with
  | zero => rfl
  | succ fuel => rw [readFields, readFields, behindGap_behindGap]

/-- A record is read, however it is spelled, as the default with the changes of its fields. -/
theorem readRecord_of_spells {entries : List (String × Document)} (spelled : SpellsRecord entries cs)
    (known : ∀ p ∈ entries, Knows fields change p) (distinct : (entries.map Prod.fst).Nodup)
    (default : α) {gap : List Char} (blank : Gap gap) :
    readRecord fields default (gap ++ (cs ++ rest)) =
      .ok (entries.foldl (fun value p => change p value) default, rest) := by
  rw [readRecord, behindGap_append blank]
  cases spelled with
  | @empty inner blank =>
    have closing : behindGap (inner ++ '\x7d' :: rest) = '\x7d' :: rest := by
      rw [behindGap_append blank, behindGap_cons (by decide)]
    rw [List.cons_append, List.cons_append, behindGap_cons (by decide)]
    simp [closing]
  | @fields _ cs inside =>
    obtain ⟨inner, more, whole, blank, enough⟩ := opens_of_spellsFields inside
    have opening : behindGap (cs ++ rest) = '"' :: (more ++ rest) := by
      rw [whole, List.append_assoc, behindGap_append blank, List.cons_append,
        behindGap_cons (by decide)]
    have fuel : entries.length ≤ ('"' :: (more ++ rest)).length := by
      simp only [List.length_cons, List.length_append]
      omega
    have unseen : ∀ p ∈ entries, p.1 ∉ ([] : List String) := fun _ _ => List.not_mem_nil
    have read : readFields fields _ [] default (cs ++ rest) = .ok _ :=
      readFields_of_spells inside known distinct unseen fuel default
    rw [← readFields_behindGap, opening] at read
    rw [List.cons_append, behindGap_cons (by decide)]
    simp only [opening]
    exact read

/-- A text that holds a record is read as the default with the changes of its fields. -/
theorem readAll_of_holds {entries : List (String × Document)} {text : String}
    (holds : Holds text entries) (known : ∀ p ∈ entries, Knows fields change p)
    (distinct : (entries.map Prod.fst).Nodup) (default : α) :
    readAll (readRecord fields default) text =
      .ok (entries.foldl (fun value p => change p value) default) := by
  cases holds with
  | of before behind record whole =>
    rw [readAll, whole, List.append_assoc, readRecord_of_spells record known distinct default before]
    simp only [bind, Except.bind, behindGap_of_blank behind, if_true]

end

end SerialLink.Document
