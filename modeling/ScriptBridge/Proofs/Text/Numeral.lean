import ScriptBridge.Text.Numeral

/-! # What numerals write

A numeral writes one whole number, whatever its size: digits by their places, with or without a sign
in front. A reader with bounds reads exactly the numerals whose number is within them, leading zeros
or not, and reads that number.
-/

namespace ScriptBridge.Numeral

/-- Digits, at least one, and the number that they write. -/
structure IsMagnitude (digits : List Char) (n : Nat) : Prop where
  filled : digits ≠ []
  all : ∀ c ∈ digits, c.isDigit = true
  value : Nat.ofDigitChars 10 digits 0 = n

/-- A numeral and the number that it writes. -/
inductive Writes : List Char → Int → Prop where
  | plain {digits : List Char} {n : Nat} : IsMagnitude digits n → Writes digits n
  | positive {digits : List Char} {n : Nat} : IsMagnitude digits n → Writes ('+' :: digits) n
  | negative {digits : List Char} {n : Nat} : IsMagnitude digits n → Writes ('-' :: digits) (-n)

theorem digit?_eq_some_iff {c : Char} {d : Nat} :
    digit? c = some d ↔ c.isDigit = true ∧ c.toNat - '0'.toNat = d := by
  have digits : c.isDigit = true ↔ '0' ≤ c ∧ c ≤ '9' := by
    simp [Char.isDigit, Char.le_def]
  rw [digits, digit?]
  split
  · next digit => simp [digit]
  · next other => simp [other]

theorem le_ofDigitChars (n : Nat) (digits : List Char) : n ≤ Nat.ofDigitChars 10 digits n := by
  induction digits generalizing n with
  | nil => simp
  | cons c digits ih =>
      rw [Nat.ofDigitChars_cons]
      exact Nat.le_trans (by omega) (ih _)

/-- Digits are read behind a number just if what they come to with it is within the limit: the
    number only grows, so that no fault comes early. -/
theorem readDigits_eq_ok_iff {limit value n : Nat} {exceeded : NumeralError} {digits : List Char}
    (within : value ≤ limit) :
    readDigits limit exceeded value digits = .ok n ↔
      (∀ c ∈ digits, c.isDigit = true) ∧ Nat.ofDigitChars 10 digits value = n ∧ n ≤ limit := by
  induction digits generalizing value with
  | nil =>
      simp only [readDigits, Except.ok.injEq, List.not_mem_nil, false_implies, implies_true,
        true_and, Nat.ofDigitChars_nil]
      constructor
      · rintro rfl
        exact ⟨rfl, within⟩
      · exact And.left
  | cons c digits ih =>
      rw [Nat.ofDigitChars_cons, List.forall_mem_cons, readDigits]
      cases read : digit? c with
      | none =>
          have other : c.isDigit ≠ true := fun digit => by
            simp [digit?_eq_some_iff.mpr ⟨digit, rfl⟩] at read
          simp [other]
      | some d =>
          obtain ⟨digit, rfl⟩ := digit?_eq_some_iff.mp read
          have grows := le_ofDigitChars (10 * value + (c.toNat - '0'.toNat)) digits
          simp only [Nat.mul_comm value 10, digit, true_and]
          split
          · next above =>
              simp only [reduceCtorEq, false_iff, not_and]
              omega
          · next below => exact ih (Nat.not_lt.mp below)

theorem readMagnitude_eq_ok_iff {limit n : Nat} {exceeded : NumeralError} {digits : List Char} :
    readMagnitude limit exceeded digits = .ok n ↔ IsMagnitude digits n ∧ n ≤ limit := by
  cases digits with
  | nil =>
      simp only [readMagnitude, reduceCtorEq, false_iff, not_and]
      exact fun magnitude => absurd rfl magnitude.filled
  | cons c digits =>
      rw [readMagnitude, readDigits_eq_ok_iff (Nat.zero_le limit)]
      · constructor
        · rintro ⟨all, value, within⟩
          exact ⟨⟨List.cons_ne_nil c digits, all, value⟩, within⟩
        · rintro ⟨magnitude, within⟩
          exact ⟨magnitude.all, magnitude.value, within⟩
      · simp

theorem IsMagnitude.not_sign {c : Char} {digits : List Char} {n : Nat}
    (magnitude : IsMagnitude (c :: digits) n) : c ≠ '+' ∧ c ≠ '-' := by
  have digit := magnitude.all c List.mem_cons_self
  constructor <;> rintro rfl <;> exact absurd digit (by decide)

theorem Writes.unique {cs : List Char} {n m : Int} (writes : Writes cs n) (other : Writes cs m) :
    n = m := by
  cases writes with
  | plain magnitude =>
      cases other with
      | plain magnitude' => rw [← magnitude.value, ← magnitude'.value]
      | positive => exact absurd rfl magnitude.not_sign.1
      | negative => exact absurd rfl magnitude.not_sign.2
  | positive magnitude =>
      cases other with
      | plain magnitude' => exact absurd rfl magnitude'.not_sign.1
      | positive magnitude' => rw [← magnitude.value, ← magnitude'.value]
  | negative magnitude =>
      cases other with
      | plain magnitude' => exact absurd rfl magnitude'.not_sign.2
      | negative magnitude' => rw [← magnitude.value, ← magnitude'.value]

theorem signed_eq_ok_iff {limit : Nat} {exceeded : NumeralError} {digits : List Char}
    {sign : Nat → Int} {n : Int} :
    (readMagnitude limit exceeded digits).map sign = .ok n ↔
      ∃ m, IsMagnitude digits m ∧ m ≤ limit ∧ sign m = n := by
  simp only [← and_assoc, ← @readMagnitude_eq_ok_iff limit _ exceeded digits]
  cases readMagnitude limit exceeded digits <;> simp [Except.map]

/-- A reader of whole numbers reads the numerals whose number is within its bounds. -/
theorem readInt_eq_ok_iff {limit : Nat} {s : String} {n : Int} :
    readInt limit s = .ok n ↔ Writes s.toList n ∧ -(limit + 1 : Int) ≤ n ∧ n ≤ limit := by
  rw [readInt]
  generalize s.toList = cs
  constructor
  · intro read
    split at read
    · cases read
    · obtain ⟨m, magnitude, within, number⟩ := signed_eq_ok_iff.mp read
      obtain rfl : (m : Int) = n := number
      exact ⟨.positive magnitude, by omega, by omega⟩
    · obtain ⟨m, magnitude, within, number⟩ := signed_eq_ok_iff.mp read
      obtain rfl : -(m : Int) = n := number
      exact ⟨.negative magnitude, by omega, by omega⟩
    · obtain ⟨m, magnitude, within, number⟩ := signed_eq_ok_iff.mp read
      obtain rfl : (m : Int) = n := number
      exact ⟨.plain magnitude, by omega, by omega⟩
  · rintro ⟨writes, low, high⟩
    cases writes with
    | @plain digits m magnitude =>
        have fits : m ≤ limit := by omega
        split
        · exact absurd rfl magnitude.filled
        · exact absurd rfl magnitude.not_sign.1
        · exact absurd rfl magnitude.not_sign.2
        · exact signed_eq_ok_iff.mpr ⟨m, magnitude, fits, rfl⟩
    | @positive digits m magnitude =>
        exact signed_eq_ok_iff.mpr ⟨m, magnitude, by omega, rfl⟩
    | @negative digits m magnitude =>
        exact signed_eq_ok_iff.mpr ⟨m, magnitude, by omega, rfl⟩

theorem readNat_of_writes {limit n : Nat} {s : String} (writes : Writes s.toList n)
    (positive : 0 < n) (within : n ≤ limit) : readNat limit s = .ok n := by
  rw [readNat]
  generalize s.toList = cs at writes
  generalize number : (n : Int) = m at writes
  cases writes with
  | @plain digits m magnitude =>
      obtain rfl : n = m := by omega
      split
      · exact absurd rfl magnitude.filled
      · exact absurd rfl magnitude.not_sign.1
      · exact readMagnitude_eq_ok_iff.mpr ⟨magnitude, within⟩
  | @positive digits m magnitude =>
      obtain rfl : n = m := by omega
      exact readMagnitude_eq_ok_iff.mpr ⟨magnitude, within⟩
  | @negative digits m magnitude => omega

end ScriptBridge.Numeral
