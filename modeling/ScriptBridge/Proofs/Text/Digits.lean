import ScriptBridge.SocketAddress

/-! # Digits of numbers

The digits that a number is written with are digits of its base, they come to the number again, and
the first one is zero only if it is the only one.
-/

namespace ScriptBridge

/-- Whether a text does not go on with a certain kind of character. -/
def Stops (p : Char → Bool) (rest : List Char) : Prop :=
  ∀ c ∈ rest.head?, p c = false

theorem stops_nil (p : Char → Bool) : Stops p [] := by simp [Stops]

theorem stops_cons {p : Char → Bool} {c : Char} (other : p c = false) (rest : List Char) :
    Stops p (c :: rest) := by simp [Stops, other]

theorem span_of_stops {p : Char → Bool} {front rest : List Char} (all : ∀ c ∈ front, p c = true)
    (stops : Stops p rest) :
    (front ++ rest).takeWhile p = front ∧ (front ++ rest).dropWhile p = rest := by
  have behind : rest.takeWhile p = [] ∧ rest.dropWhile p = rest := by
    cases rest with
    | nil => simp
    | cons c rest =>
        have other : p c = false := stops c (by simp)
        simp [other]
  rw [List.takeWhile_append_of_pos all, List.dropWhile_append_of_pos all, behind.1, behind.2,
    List.append_nil]
  exact ⟨rfl, rfl⟩

theorem toList_toString (n : Nat) : (toString n).toList = Nat.toDigits 10 n := by
  rw [Nat.toString_eq_ofList_toDigits, String.toList_ofList]

theorem isDigit_of_mem {n : Nat} {c : Char} (member : c ∈ Nat.toDigits 10 n) :
    c.isDigit = true :=
  Nat.isDigit_of_mem_toDigits (by decide) (by decide) member

theorem exists_cons_toDigits (n : Nat) :
    ∃ c ds, Nat.toDigits 10 n = c :: ds ∧ c.isDigit = true := by
  cases digits : Nat.toDigits 10 n with
  | nil => exact absurd digits Nat.toDigits_ne_nil
  | cons c ds => exact ⟨c, ds, rfl, @isDigit_of_mem n c (by simp [digits])⟩

namespace Text

variable {base : Nat}

theorem digitOf?_digitChar (small : base ≤ 16) {d : Nat} (digit : d < base) :
    digitOf? base (Nat.digitChar d) = some d := by
  have table : ∀ base < 17, ∀ d < base, digitOf? base (Nat.digitChar d) = some d := by decide
  exact table base (by omega) d digit

/-- What the digits of a number stand for. -/
def digitValues (base n : Nat) : List Nat :=
  (Nat.toDigits base n).filterMap (digitOf? base)

variable (proper : 1 < base) (small : base ≤ 16)

include proper small

theorem digitValues_eq (n : Nat) :
    digitValues base n =
      if n < base then [n] else digitValues base (n / base) ++ [n % base] := by
  have least : n % base < base := Nat.mod_lt _ (by omega)
  rw [digitValues, Nat.toDigits_eq_if proper]
  split
  · next below => simp [digitOf?_digitChar small below]
  · simp [digitValues, digitOf?_digitChar small least]

theorem foldl_digitValues (n : Nat) :
    (digitValues base n).foldl (fun n d => n * base + d) 0 = n := by
  induction n using Nat.strongRecOn with
  | ind n ih =>
      rw [digitValues_eq proper small]
      split
      · simp
      · rw [List.foldl_append, ih (n / base) (Nat.div_lt_self (by omega) proper)]
        simp [Nat.div_add_mod' n base]

theorem isSome_of_mem_toDigits {n : Nat} {c : Char} (member : c ∈ Nat.toDigits base n) :
    (digitOf? base c).isSome = true := by
  induction n using Nat.strongRecOn with
  | ind n ih =>
      have least : n % base < base := Nat.mod_lt _ (by omega)
      rw [Nat.toDigits_eq_if proper] at member
      split at member
      · next below =>
          obtain rfl := List.mem_singleton.mp member
          simp [digitOf?_digitChar small below]
      · rcases List.mem_append.mp member with front | last
        · exact ih (n / base) (Nat.div_lt_self (by omega) proper) front
        · obtain rfl := List.mem_singleton.mp last
          simp [digitOf?_digitChar small least]

theorem length_digitValues (n : Nat) :
    (digitValues base n).length = (Nat.toDigits base n).length := by
  induction n using Nat.strongRecOn with
  | ind n ih =>
      rw [digitValues_eq proper small, Nat.toDigits_eq_if proper]
      split
      · rfl
      · rw [List.length_append, List.length_append,
          ih (n / base) (Nat.div_lt_self (by omega) proper)]
        rfl

theorem digitValues_ne_nil (n : Nat) : digitValues base n ≠ [] := by
  rw [digitValues_eq proper small]
  split <;> simp

theorem length_of_head_digitValues {n : Nat} (zero : (digitValues base n).head? = some 0) :
    (digitValues base n).length = 1 := by
  induction n using Nat.strongRecOn with
  | ind n ih =>
      rw [digitValues_eq proper small] at zero ⊢
      split
      · rfl
      · next above =>
          have positive : 0 < n / base := Nat.div_pos (Nat.not_lt.mp above) (by omega)
          have front : (digitValues base (n / base)).head? = some 0 := by
            rw [if_neg above, List.head?_append] at zero
            cases values : digitValues base (n / base) with
            | nil => exact absurd values (digitValues_ne_nil proper small _)
            | cons d ds => simpa [values] using zero
          have single := ih (n / base) (Nat.div_lt_self (by omega) proper) front
          -- The digits in front are a single zero, and so is the number that they write.
          obtain ⟨d, only⟩ := List.length_eq_one_iff.mp single
          obtain rfl : d = 0 := by simpa [only] using front
          have value := foldl_digitValues proper small (n / base)
          rw [only] at value
          simp at value
          omega

end Text

theorem toDigits_ne_zero_cons (n : Nat) (c : Char) (ds : List Char) :
    Nat.toDigits 10 n ≠ '0' :: c :: ds := by
  intro leading
  have size := @Text.length_digitValues 10 (by decide) (by decide) n
  have single := @Text.length_of_head_digitValues 10 (by decide) (by decide) n
  have zero : Text.digitOf? 10 '0' = some 0 := by decide
  have values : Text.digitValues 10 n = 0 :: (c :: ds).filterMap (Text.digitOf? 10) := by
    rw [Text.digitValues, leading, List.filterMap_cons_some zero]
  rw [single (by rw [values]; rfl), leading] at size
  simp at size

namespace SocketAddress

/-- A number is read back if it is in the bounds, and if the text behind it does not go on with
    digits. -/
theorem readNumber_toDigits {base limit n : Nat} (proper : 1 < base) (small : base ≤ 16)
    (bounded : n ≤ limit) {width : Option Nat}
    (fits : ∀ most, width = some most → (Nat.toDigits base n).length ≤ most) (zeros : Bool)
    {rest : List Char} (stops : Stops (fun c => (Text.digitOf? base c).isSome) rest) :
    readNumber base limit width zeros (Nat.toDigits base n ++ rest) = some (n, rest) := by
  have all : ∀ c ∈ Nat.toDigits base n, (Text.digitOf? base c).isSome = true :=
    fun c member => Text.isSome_of_mem_toDigits proper small member
  have spans : spanDigits base (Nat.toDigits base n ++ rest) = (Text.digitValues base n, rest) := by
    obtain ⟨front, behind⟩ := span_of_stops all stops
    simp only [spanDigits, front, behind, Text.digitValues]
  have value := Text.foldl_digitValues proper small n
  have size := Text.length_digitValues proper small n
  have zero := @Text.length_of_head_digitValues base proper small n
  have filled := Text.digitValues_ne_nil proper small n
  have narrow : width.any (fun most => decide (most < (Text.digitValues base n).length)) = false := by
    cases width with
    | none => rfl
    | some most =>
        have few := fits most rfl
        simp only [Option.any_some, decide_eq_false_iff_not, Nat.not_lt]
        omega
  have plain : (!zeros && (Text.digitValues base n).head? == some 0 &&
      decide (1 < (Text.digitValues base n).length)) = false := by
    by_cases first : (Text.digitValues base n).head? = some 0
    · simp [zero first]
    · simp [first]
  simp only [readNumber, spans, value]
  rw [if_neg (by omega), if_neg (by simp [narrow]), if_neg (by simp [plain])]

end SocketAddress

end ScriptBridge
