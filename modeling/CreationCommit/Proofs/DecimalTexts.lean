import CreationCommit.Decimal
import Mathlib.Data.List.Basic

/-!
# Texts that write a number

A text writes a number by its digits, perhaps after one plus sign.  Exactly these
texts are read, if the number is small enough; every other text has a first
fault, at which its reading ends.
-/

namespace CreationCommit.Decimal

/-- The text writes the number by its digits, perhaps after one plus sign. -/
inductive Writes : List Char → Nat → Prop
  | plain (digits : List Char) (nonempty : digits ≠ [])
      (areDigits : ∀ c ∈ digits, c.isDigit = true) :
      Writes digits (Nat.ofDigitChars 10 digits 0)
  | signed (digits : List Char) (nonempty : digits ≠ [])
      (areDigits : ∀ c ∈ digits, c.isDigit = true) :
      Writes ('+' :: digits) (Nat.ofDigitChars 10 digits 0)

/-- The first fault of what should be digits that follow a value: behind digits
with which the number is small enough stands something else, or a digit with
which it is too large. -/
inductive Stumbles (bound value : Nat) : List Char → DecimalError → Prop
  | stray (digits : List Char) (areDigits : ∀ c ∈ digits, c.isDigit = true)
      (fits : Nat.ofDigitChars 10 digits value < bound) (c : Char)
      (noDigit : c.isDigit = false) (later : List Char) :
      Stumbles bound value (digits ++ c :: later) .invalidDigit
  | large (digits : List Char) (areDigits : ∀ c ∈ digits, c.isDigit = true)
      (fits : Nat.ofDigitChars 10 digits value < bound) (c : Char)
      (isDigit : c.isDigit = true)
      (exceeds : bound ≤ Nat.ofDigitChars 10 (digits ++ [c]) value)
      (later : List Char) :
      Stumbles bound value (digits ++ c :: later) .tooLarge

/-- The first fault of a text that should write a number. -/
inductive Faulty (bound : Nat) : List Char → DecimalError → Prop
  | empty : Faulty bound [] .empty
  | lonePlus : Faulty bound ['+'] .invalidDigit
  | plain (c : Char) (noPlus : c ≠ '+') (later : List Char)
      (error : DecimalError) (stumbles : Stumbles bound 0 (c :: later) error) :
      Faulty bound (c :: later) error
  | signed (digits : List Char) (error : DecimalError)
      (stumbles : Stumbles bound 0 digits error) :
      Faulty bound ('+' :: digits) error

variable {bound value number : Nat} {c : Char} {digits later text : List Char}
  {error : DecimalError}

theorem readDigits_cons (isDigit : c.isDigit = true)
    (fits : 10 * value + digitValue c < bound) :
    readDigits bound value (c :: later) =
      readDigits bound (10 * value + digitValue c) later := by
  simp [readDigits, isDigit, fits]

theorem readDigits_stray (noDigit : c.isDigit = false) :
    readDigits bound value (c :: later) = .error .invalidDigit := by
  simp [readDigits, noDigit]

theorem readDigits_large (isDigit : c.isDigit = true)
    (exceeds : bound ≤ 10 * value + digitValue c) :
    readDigits bound value (c :: later) = .error .tooLarge := by
  simp [readDigits, isDigit, Nat.not_lt.2 exceeds]

theorem le_ofDigitChars (digits : List Char) (value : Nat) :
    value ≤ Nat.ofDigitChars 10 digits value := by
  induction digits generalizing value with
  | nil => exact Nat.le_refl value
  | cons c digits ih =>
      have next := ih (10 * value + (c.toNat - '0'.toNat))
      rw [Nat.ofDigitChars_cons]
      omega

/-- Digits with which the number is small enough are read first. -/
theorem readDigits_append (areDigits : ∀ c ∈ digits, c.isDigit = true)
    (fits : Nat.ofDigitChars 10 digits value < bound) (later : List Char) :
    readDigits bound value (digits ++ later) =
      readDigits bound (Nat.ofDigitChars 10 digits value) later := by
  induction digits generalizing value with
  | nil => rfl
  | cons c digits ih =>
      obtain ⟨isDigit, others⟩ := List.forall_mem_cons.1 areDigits
      rw [Nat.ofDigitChars_cons] at fits ⊢
      have next := le_ofDigitChars digits (10 * value + (c.toNat - '0'.toNat))
      rw [List.cons_append, readDigits_cons isDigit (Nat.lt_of_le_of_lt next fits)]
      exact ih others fits

theorem readDigits_of_areDigits (areDigits : ∀ c ∈ digits, c.isDigit = true)
    (fits : Nat.ofDigitChars 10 digits value < bound) :
    readDigits bound value digits = .ok (Nat.ofDigitChars 10 digits value) := by
  have read := readDigits_append areDigits fits []
  rwa [List.append_nil] at read

theorem Stumbles.readDigits (stumbles : Stumbles bound value text error) :
    readDigits bound value text = .error error := by
  cases stumbles with
  | stray digits areDigits fits c noDigit later =>
      rw [readDigits_append areDigits fits, readDigits_stray noDigit]
  | large digits areDigits fits c isDigit exceeds later =>
      rw [Nat.ofDigitChars_append] at exceeds
      rw [readDigits_append areDigits fits, readDigits_large isDigit exceeds]

/-- A digit with which the number is small enough is no fault. -/
theorem Stumbles.cons (isDigit : c.isDigit = true)
    (stumbles : Stumbles bound (10 * value + digitValue c) text error) :
    Stumbles bound value (c :: text) error := by
  cases stumbles with
  | stray digits areDigits fits d noDigit later =>
      exact .stray (c :: digits) (List.forall_mem_cons.2 ⟨isDigit, areDigits⟩)
        fits d noDigit later
  | large digits areDigits fits d isNext exceeds later =>
      exact .large (c :: digits) (List.forall_mem_cons.2 ⟨isDigit, areDigits⟩)
        fits d isNext exceeds later

/-- What should be digits writes a small enough number, or it has a first fault. -/
theorem areDigits_or_stumbles (small : value < bound) (text : List Char) :
    ((∀ c ∈ text, c.isDigit = true) ∧ Nat.ofDigitChars 10 text value < bound) ∨
      ∃ error, Stumbles bound value text error := by
  induction text generalizing value with
  | nil => exact .inl ⟨by simp, small⟩
  | cons c text ih =>
      cases isDigit : c.isDigit with
      | false => exact .inr ⟨_, .stray [] (by simp) small c isDigit text⟩
      | true =>
          by_cases fits : 10 * value + digitValue c < bound
          · rcases ih fits with ⟨areDigits, below⟩ | ⟨error, stumbles⟩
            · exact .inl ⟨List.forall_mem_cons.2 ⟨isDigit, areDigits⟩, below⟩
            · exact .inr ⟨error, stumbles.cons isDigit⟩
          · exact .inr ⟨_, .large [] (by simp) small c isDigit
              (Nat.not_lt.1 fits) text⟩

theorem read_cons (noPlus : c ≠ '+') (later : List Char) :
    read bound (c :: later) = readDigits bound 0 (c :: later) := by
  simp [read, noPlus]

theorem read_signed (nonempty : digits ≠ []) :
    read bound ('+' :: digits) = readDigits bound 0 digits := by
  obtain ⟨c, later, rfl⟩ := List.exists_cons_of_ne_nil nonempty
  rfl

theorem ne_plus_of_isDigit (isDigit : c.isDigit = true) : c ≠ '+' := by
  rintro rfl
  simp at isDigit

theorem Writes.nonempty (writes : Writes text number) : text ≠ [] := by
  cases writes with
  | plain digits nonempty => exact nonempty
  | signed digits => exact List.cons_ne_nil _ _

theorem Writes.plus_or_isDigit (writes : Writes text number) :
    ∀ c ∈ text, c = '+' ∨ c.isDigit = true := by
  cases writes with
  | plain digits nonempty areDigits => exact fun c isOne => .inr (areDigits c isOne)
  | signed digits nonempty areDigits =>
      exact List.forall_mem_cons.2
        ⟨.inl rfl, fun c isOne => .inr (areDigits c isOne)⟩

theorem Writes.read (writes : Writes text number) (fits : number < bound) :
    read bound text = .ok number := by
  cases writes with
  | plain digits nonempty areDigits =>
      rw [← readDigits_of_areDigits areDigits fits]
      obtain ⟨c, later, rfl⟩ := List.exists_cons_of_ne_nil nonempty
      exact read_cons (ne_plus_of_isDigit (areDigits c List.mem_cons_self)) later
  | signed digits nonempty areDigits =>
      rw [read_signed nonempty, readDigits_of_areDigits areDigits fits]

theorem Faulty.read (faulty : Faulty bound text error) :
    read bound text = .error error := by
  cases faulty with
  | empty | lonePlus => rfl
  | plain c noPlus later error stumbles =>
      rw [read_cons noPlus, stumbles.readDigits]
  | signed digits error stumbles =>
      have nonempty : digits ≠ [] := by
        rintro rfl
        cases stumbles.readDigits
      rw [read_signed nonempty, stumbles.readDigits]

/-- Every text writes a small enough number or has a first fault. -/
theorem writes_or_faulty (positive : 0 < bound) (text : List Char) :
    (∃ number < bound, Writes text number) ∨ ∃ error, Faulty bound text error := by
  cases text with
  | nil => exact .inr ⟨_, .empty⟩
  | cons c later =>
      by_cases isPlus : c = '+'
      · subst isPlus
        by_cases lone : later = []
        · subst lone
          exact .inr ⟨_, .lonePlus⟩
        · rcases areDigits_or_stumbles positive later with
            ⟨areDigits, fits⟩ | ⟨error, stumbles⟩
          · exact .inl ⟨_, fits, .signed later lone areDigits⟩
          · exact .inr ⟨error, .signed later error stumbles⟩
      · rcases areDigits_or_stumbles positive (c :: later) with
          ⟨areDigits, fits⟩ | ⟨error, stumbles⟩
        · exact .inl ⟨_, fits, .plain _ (List.cons_ne_nil c later) areDigits⟩
        · exact .inr ⟨error, .plain c isPlus later error stumbles⟩

/-- Exactly the texts that write a small enough number are read. -/
theorem read_eq_ok_iff (positive : 0 < bound) :
    read bound text = .ok number ↔ Writes text number ∧ number < bound := by
  constructor
  · intro read
    rcases writes_or_faulty positive text with ⟨other, fits, writes⟩ | ⟨_, faulty⟩
    · rw [writes.read fits] at read
      cases read
      exact ⟨writes, fits⟩
    · rw [faulty.read] at read
      cases read
  · rintro ⟨writes, fits⟩
    exact writes.read fits

/-- The reading of any other text ends at its first fault. -/
theorem read_eq_error_iff (positive : 0 < bound) :
    read bound text = .error error ↔ Faulty bound text error := by
  constructor
  · intro read
    rcases writes_or_faulty positive text with ⟨_, fits, writes⟩ | ⟨other, faulty⟩
    · rw [writes.read fits] at read
      cases read
    · rw [faulty.read] at read
      cases read
      exact faulty
  · exact Faulty.read

theorem readWord_eq_ok_iff {word : UInt64} :
    readWord text = .ok word ↔ Writes text word.toNat := by
  have positive : 0 < UInt64.size := by decide
  constructor
  · intro read
    rw [readWord] at read
    cases found : Decimal.read UInt64.size text with
    | error error =>
        rw [found] at read
        cases read
    | ok number =>
        rw [found] at read
        cases read
        obtain ⟨writes, fits⟩ := (read_eq_ok_iff positive).1 found
        rwa [UInt64.toNat_ofNat', Nat.mod_eq_of_lt fits]
  · intro writes
    rw [readWord, writes.read word.toNat_lt_size]
    exact congrArg Except.ok UInt64.ofNat_toNat

end CreationCommit.Decimal
