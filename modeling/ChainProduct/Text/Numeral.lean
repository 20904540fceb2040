/-!
# Decimal numerals

A numeral is one or more ASCII digits, after a sign if it has one. `natural?` admits the sign
`+`, and `integer?` admits `+` and `-`. Leading zeros are allowed and no other character is.
Main statements: each of the two reads exactly the numerals (`natural?_eq_some_iff`,
`integer?_eq_some_iff`), a text that `natural?` reads is read by `integer?` with the same value
(`integer?_of_natural?`), and digits alone denote their decimal value (`natural?_toDigits`).
-/

namespace ChainProduct.Text

/-- One or more characters, all of them ASCII digits. -/
def IsDigits (text : List Char) : Prop :=
  text ≠ [] ∧ ∀ c ∈ text, c.isDigit

/-- `IsDigits` is decidable by looking at every character. -/
instance (text : List Char) : Decidable (IsDigits text) :=
  decidable_of_iff (text ≠ [] ∧ text.all Char.isDigit) (by simp [IsDigits])

/-- The value of digits without a sign. -/
def digits? (text : List Char) : Option Nat :=
  if IsDigits text then some (Nat.ofDigitChars 10 text 0) else none

/-- The value of digits that may follow a plus sign. -/
def natural? : List Char → Option Nat
  | '+' :: rest => digits? rest
  | text => digits? text

/-- The value of digits that may follow a plus or a minus sign. -/
def integer? : List Char → Option Int
  | '-' :: rest => (digits? rest).map fun value : Nat ↦ -(value : Int)
  | text => (natural? text).map Int.ofNat

/-- The text is a numeral of the number: its digits, which may follow a plus sign. -/
def IsNumeral (text : List Char) (value : Nat) : Prop :=
  ∃ digits, (text = digits ∨ text = '+' :: digits) ∧ IsDigits digits ∧
    value = Nat.ofDigitChars 10 digits 0

/-- The text is a numeral of the integer: one of a natural number, or digits that follow a minus
sign. -/
def IsSignedNumeral (text : List Char) (number : Int) : Prop :=
  (∃ value, IsNumeral text value ∧ number = Int.ofNat value) ∨
    ∃ digits, text = '-' :: digits ∧ IsDigits digits ∧
      number = -Int.ofNat (Nat.ofDigitChars 10 digits 0)

/-- Digits have a value, and nothing else has. -/
theorem digits?_eq_some_iff {text : List Char} {value : Nat} :
    digits? text = some value ↔ IsDigits text ∧ value = Nat.ofDigitChars 10 text 0 := by
  unfold digits?
  split <;> simp_all [eq_comm]

/-- The numerals of natural numbers are read, and nothing else is. -/
theorem natural?_eq_some_iff {text : List Char} {value : Nat} :
    natural? text = some value ↔ IsNumeral text value := by
  have hplus (rest : List Char) : ¬ IsDigits ('+' :: rest) := by
    simp [IsDigits, Char.isDigit]
  unfold natural?
  split
  · next rest =>
      rw [digits?_eq_some_iff]
      constructor
      · rintro ⟨hdigits, hvalue⟩
        exact ⟨rest, .inr rfl, hdigits, hvalue⟩
      · rintro ⟨digits, rfl | h, hdigits, hvalue⟩
        · exact absurd hdigits (hplus rest)
        · obtain rfl : rest = digits := by simpa using h
          exact ⟨hdigits, hvalue⟩
  · next hnot =>
      rw [digits?_eq_some_iff]
      constructor
      · rintro ⟨hdigits, hvalue⟩
        exact ⟨text, .inl rfl, hdigits, hvalue⟩
      · rintro ⟨digits, rfl | rfl, hdigits, hvalue⟩
        · exact ⟨hdigits, hvalue⟩
        · exact absurd rfl (hnot digits)

/-- A minus sign starts no natural numeral. -/
theorem natural?_minus (rest : List Char) : natural? ('-' :: rest) = none := by
  simp [natural?, digits?, IsDigits, Char.isDigit]

/-- A natural numeral is an integer numeral of the same value. -/
theorem integer?_of_natural? {text : List Char} {value : Nat} (h : natural? text = some value) :
    integer? text = some (value : Int) := by
  unfold integer?
  split
  · rw [natural?_minus] at h
    contradiction
  · simp [h]

/-- No natural numeral starts with a minus sign. -/
theorem not_isNumeral_minus (rest : List Char) (value : Nat) : ¬ IsNumeral ('-' :: rest) value := by
  rw [← natural?_eq_some_iff, natural?_minus]
  exact nofun

/-- The numerals of integers are read, and nothing else is. -/
theorem integer?_eq_some_iff {text : List Char} {number : Int} :
    integer? text = some number ↔ IsSignedNumeral text number := by
  unfold integer?
  split
  · next rest =>
      constructor
      · intro h
        obtain ⟨value, hvalue, rfl⟩ := Option.map_eq_some_iff.mp h
        obtain ⟨hdigits, rfl⟩ := digits?_eq_some_iff.mp hvalue
        exact .inr ⟨rest, rfl, hdigits, rfl⟩
      · rintro (⟨value, hvalue, -⟩ | ⟨digits, htext, hdigits, rfl⟩)
        · exact absurd hvalue (not_isNumeral_minus rest value)
        · obtain rfl : rest = digits := by simpa using htext
          rw [digits?_eq_some_iff.mpr ⟨hdigits, rfl⟩]
          rfl
  · next hnot =>
      constructor
      · intro h
        obtain ⟨value, hvalue, rfl⟩ := Option.map_eq_some_iff.mp h
        exact .inl ⟨value, natural?_eq_some_iff.mp hvalue, rfl⟩
      · rintro (⟨value, hvalue, rfl⟩ | ⟨digits, rfl, -⟩)
        · rw [natural?_eq_some_iff.mpr hvalue]
          rfl
        · exact absurd rfl (hnot digits)

/-- What `integer?` reads as a positive number is a numeral without a minus sign. -/
theorem integer?_eq_some_pos_iff {text : List Char} {number : Int} :
    integer? text = some number ∧ 0 < number ↔
      ∃ value, IsNumeral text value ∧ number = value ∧ 0 < value := by
  constructor
  · rintro ⟨h, hpos⟩
    unfold integer? at h
    split at h
    · obtain ⟨value, -, rfl⟩ := Option.map_eq_some_iff.mp h
      omega
    · obtain ⟨value, hvalue, rfl⟩ := Option.map_eq_some_iff.mp h
      exact ⟨value, natural?_eq_some_iff.mp hvalue, rfl, Int.ofNat_lt.mp hpos⟩
  · intro hnumeral
    obtain ⟨value, hvalue, rfl, hpos⟩ := hnumeral
    exact ⟨integer?_of_natural? (natural?_eq_some_iff.mpr hvalue), by omega⟩

/-- The decimal digits of a number are digits. -/
theorem isDigits_toDigits (value : Nat) : IsDigits (Nat.toDigits 10 value) :=
  ⟨Nat.toDigits_ne_nil, fun _ h ↦ Nat.isDigit_of_mem_toDigits (by decide) (by decide) h⟩

/-- The decimal digits of a number are read back as the number. -/
theorem natural?_toDigits (value : Nat) : natural? (Nat.toDigits 10 value) = some value := by
  have h := isDigits_toDigits value
  unfold natural?
  split
  · next heq => simp [IsDigits, heq, Char.isDigit] at h
  · simp [digits?, h]

end ChainProduct.Text
