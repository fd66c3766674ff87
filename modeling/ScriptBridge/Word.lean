/-!
# Words

Checked arithmetic on unsigned words of 64 bits: an operation has a result exactly when the
unbounded result fits into a word, and then it is that result.
-/

namespace ScriptBridge.Word

def greatest : UInt64 := 0xFFFFFFFFFFFFFFFF

def ofNat? (n : Nat) : Option UInt64 :=
  if n < UInt64.size then some (UInt64.ofNat n) else none

/-- The sum, unless it overflows. -/
def add? (a b : UInt64) : Option UInt64 :=
  if a ≤ greatest - b then some (a + b) else none

/-- The product, unless it overflows. -/
def mul? (a b : UInt64) : Option UInt64 :=
  if b = 0 then some 0 else if a ≤ greatest / b then some (a * b) else none

def divCeil (a b : UInt64) : UInt64 :=
  if a % b = 0 then a / b else a / b + 1

theorem ofNat?_eq_some_iff {n : Nat} {w : UInt64} : ofNat? n = some w ↔ n = w.toNat := by
  have := w.toNat_lt_size
  simp only [ofNat?]
  split
  · next fits =>
    simp only [Option.some.injEq]
    constructor
    · rintro rfl
      rw [UInt64.toNat_ofNat_of_lt' fits]
    · rintro rfl
      rw [UInt64.ofNat_toNat]
  · next large =>
    simp only [reduceCtorEq, false_iff]
    omega

theorem add?_eq (a b : UInt64) : add? a b = ofNat? (a.toNat + b.toNat) := by
  have ha := a.toNat_lt_size
  have hb := b.toNat_lt_size
  have room : (greatest - b).toNat = UInt64.size - 1 - b.toNat := by
    rw [UInt64.toNat_sub_of_le]
    · rfl
    · rw [UInt64.le_iff_toNat_le]
      show b.toNat ≤ UInt64.size - 1
      omega
  simp only [add?, ofNat?, UInt64.le_iff_toNat_le, room]
  by_cases fits : a.toNat + b.toNat < UInt64.size
  · have small : a.toNat ≤ UInt64.size - 1 - b.toNat := by omega
    rw [if_pos small, if_pos fits, UInt64.ofNat_add, UInt64.ofNat_toNat, UInt64.ofNat_toNat]
  · have large : ¬a.toNat ≤ UInt64.size - 1 - b.toNat := by omega
    rw [if_neg large, if_neg fits]

theorem mul?_eq (a b : UInt64) : mul? a b = ofNat? (a.toNat * b.toNat) := by
  by_cases zero : b = 0
  · subst zero
    rfl
  · have pos : 0 < b.toNat := by
      rcases Nat.eq_zero_or_pos b.toNat with h | h
      · exact absurd (UInt64.toNat_inj.mp h) zero
      · exact h
    have room : (greatest / b).toNat = (UInt64.size - 1) / b.toNat := by
      rw [UInt64.toNat_div]
      rfl
    simp only [mul?, zero, if_false, ofNat?, UInt64.le_iff_toNat_le, room,
      Nat.le_div_iff_mul_le pos]
    by_cases fits : a.toNat * b.toNat < UInt64.size
    · have small : a.toNat * b.toNat ≤ UInt64.size - 1 := Nat.le_sub_one_of_lt fits
      rw [if_pos small, if_pos fits, UInt64.ofNat_mul, UInt64.ofNat_toNat, UInt64.ofNat_toNat]
    · have large : ¬a.toNat * b.toNat ≤ UInt64.size - 1 := fun small =>
        fits (Nat.lt_of_le_sub_one (by decide) small)
      rw [if_neg large, if_neg fits]

end ScriptBridge.Word
