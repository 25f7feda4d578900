import SerialLink.Proofs.Document.Numerals
import SerialLink.Proofs.Single.Digits
import SerialLink.Single.Layout

/-!
# Numbers read back from their texts

All layouts of a finite single spell a number of the value of its shortest digits
(`Decimal.Spells`), so each of its texts is read as the single itself: the one in words
(`read_text`), and the one in documents, which is a number there (`read_documentText`).
-/

namespace SerialLink

/-! ## Layouts -/

namespace Decimal

open Text Document

variable {d : Decimal} {sign : Bool}

/-- A text is a number of the value of a decimal, but for its sign. -/
def Spells (d : Decimal) (sign : Bool) (text : List Char) : Prop :=
  ∃ n : NumberText,
    n.negative = sign ∧ n.unsigned = text ∧ n.Proper ∧ n.Trimmed ∧ n.decimal.rat = d.rat

/-- Zero is written by one digit. -/
def Plain (d : Decimal) : Prop :=
  d.digits = 0 → d.exponent = 0

theorem isDigit_of_mem_zeros {k : ℕ} {c : Char} (member : c ∈ List.replicate k '0') :
    c.isDigit = true := by
  rw [List.eq_of_mem_replicate member]
  rfl

/-- The digits of a whole number with its zeros. -/
theorem whole_digits (plain : d.Plain) (fraction : Option (List Char))
    (proper : ∀ digits ∈ fraction, digits ≠ [] ∧ ∀ c ∈ digits, c.isDigit = true) :
    let n : NumberText :=
      ⟨sign, digitsOf d.digits ++ List.replicate d.exponent.toNat '0', fraction, none⟩
    n.Proper ∧ n.Trimmed := by
  refine ⟨⟨⟨by simp [digitsOf_ne_nil], fun c member => ?_⟩, proper⟩, fun zero => ?_⟩
  · rcases List.mem_append.1 member with digit | zero
    · exact isDigit_of_mem_digitsOf digit
    · exact isDigit_of_mem_zeros zero
  · have head : (digitsOf d.digits).head? = some '0' := by
      rwa [List.head?_append, Option.or_of_isSome (List.isSome_head?.2 (digitsOf_ne_nil _))] at zero
    have none := eq_zero_of_head? head
    rw [none, plain none]
    rfl

theorem digitsValue_whole (d : Decimal) :
    digitsValue (digitsOf d.digits ++ List.replicate d.exponent.toNat '0') =
      d.digits * 10 ^ d.exponent.toNat := by
  rw [digitsValue_append, digitsValue_zeros, digitsValue_digitsOf, List.length_replicate, Nat.add_zero]

theorem cast_whole (natural : 0 ≤ d.exponent) :
    ((d.digits * 10 ^ d.exponent.toNat : ℕ) : ℚ) = d.rat := by
  rw [rat, Nat.cast_mul, Nat.cast_pow, ← zpow_natCast, Int.toNat_of_nonneg natural]
  rfl

theorem spells_whole (natural : 0 ≤ d.exponent) (plain : d.Plain) (sign : Bool) :
    d.Spells sign d.positional := by
  obtain ⟨proper, trimmed⟩ := @whole_digits d sign plain none nofun
  refine ⟨_, rfl, ?_, proper, trimmed, ?_⟩
  · rw [positional, if_pos natural]
    simp [NumberText.unsigned, NumberText.point, NumberText.power]
  · rw [rat, NumberText.decimal]
    simp only [Option.getD_none, List.append_nil, digitsValue_whole, List.length_nil]
    rw [cast_whole natural]
    simp

/-- A whole number with a zero behind the point. -/
theorem spells_pointed (natural : 0 ≤ d.exponent) (plain : d.Plain) (sign : Bool) :
    d.Spells sign (d.positional ++ ['.', '0']) := by
  obtain ⟨proper, trimmed⟩ := @whole_digits d sign plain (some ['0'])
    (by simp)
  refine ⟨_, rfl, ?_, proper, trimmed, ?_⟩
  · rw [positional, if_pos natural]
    simp [NumberText.unsigned, NumberText.point, NumberText.power]
  · rw [rat, NumberText.decimal]
    simp only [Option.getD_none, Option.getD_some, digitsValue_append _ ['0'], digitsValue_whole]
    rw [← cast_whole natural]
    simp [digitsValue]

/-- A run of digits with a point in it. -/
theorem spells_split {digits : List Char} {k : ℕ} (all : ∀ c ∈ digits, c.isDigit = true) (front : 0 < k)
    (behind : k < digits.length) (trimmed : digits.head? = some '0' → k = 1)
    (value : digitsValue digits = d.digits) (places : d.exponent = -((digits.length - k : ℕ) : ℤ))
    (sign : Bool) : d.Spells sign (digits.take k ++ '.' :: digits.drop k) := by
  have some : digits.take k ≠ [] := by
    rw [Ne, List.take_eq_nil_iff]
    rintro (none | rfl)
    · exact front.ne' none
    · exact absurd behind (Nat.not_lt_zero k)
  refine ⟨⟨sign, digits.take k, digits.drop k, none⟩, rfl, ?_, ⟨⟨some, ?_⟩, ?_⟩, ?_, ?_⟩
  · simp [NumberText.unsigned, NumberText.point, NumberText.power]
  · exact fun c member => all c (List.mem_of_mem_take member)
  · rintro _ ⟨⟩
    refine ⟨?_, fun c member => all c (List.mem_of_mem_drop member)⟩
    rw [Ne, List.drop_eq_nil_iff]
    exact Nat.not_le.2 behind
  · intro zero
    dsimp only at zero ⊢
    rw [List.head?_take, if_neg front.ne'] at zero
    obtain ⟨rest, rfl⟩ : ∃ rest, digits = '0' :: rest := by
      cases digits with
      | nil => cases zero
      | cons c rest =>
        cases zero
        exact ⟨rest, rfl⟩
    rw [trimmed zero]
    rfl
  · rw [NumberText.decimal, rat, rat]
    simp only [Option.getD_some, Option.getD_none, List.take_append_drop, value, List.length_drop,
      places, Int.zero_sub]

theorem spells_fraction (negative : d.exponent < 0) (plain : d.Plain) (sign : Bool) :
    d.Spells sign d.positional := by
  have given : d.digits ≠ 0 := by
    intro none
    rw [plain none] at negative
    exact absurd negative (by decide)
  rw [positional, if_neg (Int.not_le.2 negative)]
  dsimp only
  generalize zeros : (-d.exponent).toNat + 1 - (digitsOf d.digits).length = count
  have long : (List.replicate count '0' ++ digitsOf d.digits).length =
      count + (digitsOf d.digits).length := by
    rw [List.length_append, List.length_replicate]
  refine spells_split ?_ (by omega) (by omega) ?_ ?_ (by omega) sign
  · intro c member
    rcases List.mem_append.1 member with zero | digit
    · exact isDigit_of_mem_zeros zero
    · exact isDigit_of_mem_digitsOf digit
  · -- Digits without zeros in front begin with one that is none.
    intro zero
    rcases Nat.eq_zero_or_pos count with none | more
    · rw [none, List.replicate_zero, List.nil_append] at zero
      exact absurd (eq_zero_of_head? zero) given
    · omega
  · rw [digitsValue_append, digitsValue_zeros, digitsValue_digitsOf, Nat.zero_mul, Nat.zero_add]

theorem spells_positional (plain : d.Plain) (sign : Bool) : d.Spells sign d.positional := by
  rcases Int.lt_or_le d.exponent 0 with negative | natural
  · exact spells_fraction negative plain sign
  · exact spells_whole natural plain sign

theorem spells_scientific (d : Decimal) (sign : Bool) : d.Spells sign d.scientific := by
  have all : ∀ c ∈ digitsOf d.digits, c.isDigit = true := fun c digit => isDigit_of_mem_digitsOf digit
  have value := digitsValue_digitsOf d.digits
  have places : (digitsOf d.digits).length = length d.digits := rfl
  rw [scientific]
  cases written : digitsOf d.digits with
  | nil => exact absurd written (digitsOf_ne_nil _)
  | cons c rest =>
    rw [written] at all value places
    have first := all c List.mem_cons_self
    cases rest with
    | nil =>
      refine ⟨⟨sign, [c], none, some d.leading⟩, rfl, ?_,
        ⟨⟨by simp, by simpa using first⟩, nofun⟩, ?_, ?_⟩
      · simp [NumberText.unsigned, NumberText.point, NumberText.power]
      · intro zero
        simpa using zero
      · rw [NumberText.decimal, rat, rat]
        simp [value, leading, ← places]
    | cons c' rest =>
      refine ⟨⟨sign, [c], some (c' :: rest), some d.leading⟩, rfl, ?_,
        ⟨⟨by simp, by simpa using first⟩, ?_⟩, ?_, ?_⟩
      · simp [NumberText.unsigned, NumberText.point, NumberText.power]
      · rintro _ ⟨⟩
        exact ⟨by simp, fun c member => all c (List.mem_cons_of_mem _ member)⟩
      · intro zero
        simpa using zero
      · have exponent : d.exponent + (rest.length + 1 + 1) - 1 - (rest.length + 1) = d.exponent := by
          omega
        rw [NumberText.decimal, rat, rat]
        simp [value, leading, ← places, exponent]

end Decimal

/-! ## Singles -/

namespace Single

open Document

variable {x : Single} {digits : List Char}

theorem ofMagnitude_eq (x : Single) : ofMagnitude x.isNegative x.magnitude = x := by
  have parts : (if x.isNegative then signBit + x.magnitude else x.magnitude) = x.bits.toNat := by
    have size := x.bits.toNat_lt
    unfold magnitude
    cases sign : x.isNegative with
    | true =>
      have low : signBit ≤ x.bits.toNat := of_decide_eq_true sign
      rw [if_pos rfl]
      unfold signBit at low ⊢
      omega
    | false =>
      have high : ¬signBit ≤ x.bits.toNat := of_decide_eq_false sign
      rw [if_neg Bool.false_ne_true, Nat.mod_eq_of_lt (Nat.not_le.1 high)]
  rw [ofMagnitude, parts, UInt32.ofNat_toNat]

/-- A text with the sign of a single in front is read by what stands behind it. -/
theorem read_signed {first : Char} {rest : List Char} (noMinus : first ≠ '-') (noPlus : first ≠ '+')
    (reads : magnitude? (first :: rest) = some x.magnitude) :
    read (x.signed (first :: rest)) = .ok x := by
  have whole := x.ofMagnitude_eq
  have text : (x.signed (first :: rest)).toList =
      if x.isNegative then '-' :: first :: rest else first :: rest := by
    rw [signed, String.toList_ofList]
  have given : (x.signed (first :: rest)).isEmpty = false := by
    rw [String.isEmpty_eq_false_iff]
    intro none
    have nothing := congrArg String.toList none
    rw [text] at nothing
    split at nothing <;> cases nothing
  unfold read
  rw [text, given]
  cases sign : x.isNegative with
  | true =>
    rw [sign] at whole
    simp [reads, whole]
  | false =>
    rw [sign] at whole
    rw [if_neg Bool.false_ne_true]
    split
    next negative digits same =>
      split at same
      · next same' => exact absurd (List.cons.inj same').1 noMinus
      · next same' => exact absurd (List.cons.inj same').1 noPlus
      · cases same
        simp [reads, whole]

theorem toLower_of_isDigit {c : Char} (digit : c.isDigit = true) : c.toLower = c := by
  simp only [Char.isDigit, Bool.and_eq_true, decide_eq_true_eq, ge_iff_le,
    UInt32.le_iff_toNat_le] at digit
  have upper : ¬('A'.val ≤ c.val ∧ c.val ≤ 'Z'.val) := by
    have last : '9'.val.toNat = 57 := rfl
    have first : 'A'.val.toNat = 65 := rfl
    rw [UInt32.le_iff_toNat_le]
    omega
  exact dif_neg upper

/-- No word begins with a digit. -/
theorem wordMagnitude?_of_isDigit {first : Char} {rest : List Char} (digit : first.isDigit = true) :
    wordMagnitude? (first :: rest) = none := by
  have other {word : String} {c : Char} {letters : List Char} (begins : word.toList = c :: letters)
      (letter : c.isDigit = false) : String.ofList ((first :: rest).map Char.toLower) ≠ word := by
    rintro rfl
    rw [String.toList_ofList, List.map_cons, toLower_of_isDigit digit] at begins
    rw [(List.cons.inj begins).1, letter] at digit
    cases digit
  have inf := @other "inf" 'i' _ rfl rfl
  have infinity := @other "infinity" 'i' _ rfl rfl
  have nan := @other "nan" 'n' _ rfl rfl
  simp only [wordMagnitude?, inf, infinity, nan, or_self, if_false]

/-- A spelling of the shortest digits is read as the single. -/
theorem read_of_spells {tie : Tie} (finite : x.isFinite = true)
    (spells : (x.shortest tie).Spells x.isNegative digits) : read (x.signed digits) = .ok x := by
  obtain ⟨n, -, rfl, proper, -, same⟩ := spells
  have reads := NumberText.decimalOf?_unsigned proper
  obtain ⟨first, rest, whole⟩ := List.exists_cons_of_ne_nil proper.whole.1
  have digit : first.isDigit = true := proper.whole.2 first (whole ▸ List.mem_cons_self)
  have unsigned : n.unsigned = first :: (rest ++ (n.point ++ n.power)) := by
    rw [NumberText.unsigned, whole, List.cons_append]
  rw [unsigned] at reads ⊢
  refine read_signed ?_ ?_ ?_
  · rintro rfl
    cases digit
  · rintro rfl
    cases digit
  · rw [magnitude?, wordMagnitude?_of_isDigit digit, reads, Option.none_or, Option.map_some,
      magnitudeOfDecimal_of_shortest finite same]

theorem plain_shortest (x : Single) (tie : Tie) : (x.shortest tie).Plain := by
  intro none
  rcases Nat.eq_zero_or_pos x.significand with zero | some
  · rw [shortest, if_pos zero]
  · exact absurd none (digits_ne_zero some (within_shortest tie some))

/-- A single that is a number is read from its text in words. -/
theorem read_text (number : x.isNaN = false) : read x.text = .ok x := by
  rw [text, number]
  by_cases finite : x.isFinite = true
  · rw [if_neg Bool.false_ne_true, if_pos finite]
    exact read_of_spells finite (Decimal.spells_positional (plain_shortest x .up) x.isNegative)
  · have infinite : x.magnitude = infinityMagnitude := by
      simp only [isNaN, isFinite, decide_eq_true_eq, decide_eq_false_iff_not] at number finite
      omega
    rw [if_neg Bool.false_ne_true, if_neg finite]
    refine read_signed (by decide) (by decide) ?_
    rw [infinite]
    decide +kernel

/-- What a document writes of a finite single is a number. -/
theorem documentText_spells (finite : x.isFinite = true) :
    ∃ digits, x.documentText = x.signed digits ∧ (x.shortest .toEven).Spells x.isNegative digits := by
  have plain := plain_shortest x .toEven
  rw [documentText, if_pos finite]
  dsimp only
  split
  · split
    · next natural => exact ⟨_, rfl, Decimal.spells_pointed natural plain x.isNegative⟩
    · exact ⟨_, rfl, Decimal.spells_positional plain x.isNegative⟩
  · exact ⟨_, rfl, Decimal.spells_scientific _ x.isNegative⟩

/-- A finite single is read from its text in documents, which is a number. -/
theorem read_documentText (finite : x.isFinite = true) :
    read x.documentText = .ok x ∧ ∃ n, numberText? x.documentText.toList = some (n, []) := by
  obtain ⟨digits, written, spells⟩ := documentText_spells finite
  refine ⟨written ▸ read_of_spells finite spells, ?_⟩
  obtain ⟨n, sign, rfl, proper, trimmed, -⟩ := spells
  refine ⟨n, ?_⟩
  rw [written, signed, String.toList_ofList, ← sign]
  exact NumberText.numberText?_spelled proper trimmed

end Single

end SerialLink
