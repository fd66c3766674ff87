import Mathlib.Algebra.GroupWithZero.Nat
import ScriptBridge.Duration
import ScriptBridge.Proofs.Text.Digits

/-! # Durations that are written are read back

A time span is written as how many it has of each unit. Each of these amounts is read up to its unit
and is worth what it counts, and together they are worth the time span.
-/

namespace ScriptBridge.Duration

/-- A time span in nanoseconds. -/
def total (span : Duration) : Nat :=
  span.seconds.toNat * nanosPerSecond + span.nanos.val

theorem eq_of_total_eq {span other : Duration} (same : span.total = other.total) :
    span = other := by
  obtain ⟨seconds, nanos⟩ := span
  obtain ⟨otherSeconds, otherNanos⟩ := other
  simp only [total, nanosPerSecond] at same
  have below := nanos.isLt
  have otherBelow := otherNanos.isLt
  obtain rfl : seconds = otherSeconds := UInt64.toNat_inj.mp (by omega)
  obtain rfl : nanos = otherNanos := Fin.ext (by omega)
  rfl

theorem total_add? {span sum : Duration} {seconds nanos : Nat}
    (fits : span.total + (seconds * nanosPerSecond + nanos) = sum.total) :
    span.add? seconds nanos = some sum := by
  have small := sum.seconds.toNat_lt_size
  have below := sum.nanos.isLt
  simp only [total, nanosPerSecond] at fits
  have whole : Word.ofNat? (span.seconds.toNat + seconds +
      (span.nanos.val + nanos) / nanosPerSecond) = some sum.seconds := by
    rw [Word.ofNat?_eq_some_iff, nanosPerSecond]
    omega
  have part : Fin.ofNat 1000000000 (span.nanos.val + nanos) = sum.nanos :=
    Fin.ext (by simp only [Fin.ofNat]; omega)
  simp only [add?, whole, Option.bind_eq_bind, Option.bind_some, part]

theorem exists_total {n : Nat} {span : Duration} (small : n ≤ span.total) :
    ∃ less : Duration, less.total = n := by
  have word := span.seconds.toNat_lt_size
  have below := span.nanos.isLt
  simp only [total, nanosPerSecond] at small
  have fits : n / 1000000000 < UInt64.size := by omega
  refine ⟨⟨UInt64.ofNat (n / 1000000000), Fin.ofNat _ n⟩, ?_⟩
  simp only [total, nanosPerSecond, UInt64.toNat_ofNat_of_lt' fits, Fin.ofNat]
  omega

/-- How many nanoseconds a grain has. -/
def Grain.worth : Grain → Nat
  | .nanos => 1
  | .seconds => nanosPerSecond

theorem addGrains?_of_total {span sum : Duration} {count : UInt64} {grain : Grain}
    (fits : span.total + count.toNat * grain.worth = sum.total) :
    span.addGrains? count grain = some sum := by
  cases grain with
  | nanos => exact total_add? (by simpa [Grain.worth] using fits)
  | seconds => exact total_add? (by simpa [Grain.worth] using fits)

/-- A unit that is no unit is worth nothing. -/
def unitWorth (unit : String) : Nat :=
  (unit? unit).elim 0 fun timeUnit => timeUnit.length.toNat * timeUnit.grain.worth

/-- How many there are of a unit, without a fraction. -/
structure Count where
  count : Nat
  unit : String

namespace Count

/-- The count as an amount that is read. -/
def amount (count : Count) : Amount :=
  ⟨UInt64.ofNat count.count, none, count.unit⟩

def text (count : Count) : String :=
  toString count.count ++ count.unit

/-- What a count is worth in nanoseconds. -/
def worth (count : Count) : Nat :=
  count.count * unitWorth count.unit

/-- Whether a count is one of a unit, with no more in it than words hold. -/
structure Fits (count : Count) (timeUnit : TimeUnit) : Prop where
  known : unit? count.unit = some timeUnit
  small : count.count * timeUnit.length.toNat < UInt64.size
  counts : 0 < timeUnit.length.toNat

end Count

theorem addAmount?_of_total {span sum : Duration} {count : Count} {timeUnit : TimeUnit}
    (fits : count.Fits timeUnit) (together : span.total + count.worth = sum.total) :
    addAmount? span count.amount = some sum := by
  have few : count.count < UInt64.size :=
    Nat.lt_of_le_of_lt (Nat.le_mul_of_pos_right _ fits.counts) fits.small
  have product : Word.mul? (UInt64.ofNat count.count) timeUnit.length =
      some (UInt64.ofNat (count.count * timeUnit.length.toNat)) := by
    rw [Word.mul?_eq, Word.ofNat?_eq_some_iff, UInt64.toNat_ofNat_of_lt' few,
      UInt64.toNat_ofNat_of_lt' fits.small]
  have grains : span.addGrains? (UInt64.ofNat (count.count * timeUnit.length.toNat))
      timeUnit.grain = some sum := by
    apply addGrains?_of_total
    rw [UInt64.toNat_ofNat_of_lt' fits.small, ← together]
    simp only [Count.worth, unitWorth, fits.known, Option.elim_some, Nat.mul_assoc]
  simp only [addAmount?, Count.amount, fits.known, product, grains, Option.bind_eq_bind,
    Option.bind_some]

theorem foldlM_addAmount?_of_total {span sum : Duration} {counts : List Count}
    (fit : ∀ count ∈ counts, ∃ timeUnit, count.Fits timeUnit)
    (together : span.total + (counts.map Count.worth).sum = sum.total) :
    (counts.map Count.amount).foldlM addAmount? span = some sum := by
  induction counts generalizing span with
  | nil =>
      obtain rfl : span = sum := eq_of_total_eq (by simpa using together)
      rfl
  | cons count counts ih =>
      obtain ⟨timeUnit, fits⟩ := fit count List.mem_cons_self
      simp only [List.map_cons, List.sum_cons] at together
      obtain ⟨next, worth⟩ : ∃ next : Duration, next.total = span.total + count.worth :=
        @exists_total _ sum (by omega)
      have rest := @ih next (fun other member => fit other (List.mem_cons_of_mem _ member))
        (by omega)
      rw [List.map_cons, List.foldlM_cons, addAmount?_of_total fits worth.symm]
      exact rest

/-- What digits come to behind a number. -/
def extend (n : Nat) (digits : List Char) : Nat :=
  digits.foldl (fun n c => n * 10 + (c.toNat - 48)) n

theorem le_extend (n : Nat) (digits : List Char) : n ≤ extend n digits := by
  induction digits generalizing n with
  | nil => exact Nat.le_refl n
  | cons c digits ih => exact Nat.le_trans (by omega) (ih (n * 10 + (c.toNat - 48)))

theorem extend_toDigits (n : Nat) : extend 0 (Nat.toDigits 10 n) = n := by
  have value := @Nat.ofDigitChars_ten_toDigits n
  simp only [Nat.ofDigitChars_eq_foldl, Nat.mul_comm 10] at value
  exact value

/-- A character that an amount goes on with behind its digits. -/
def isLoose (c : Char) : Bool :=
  c.isDigit || Text.isBlank c || c == '.'

theorem readWhole_digits {digits rest : List Char} (all : ∀ c ∈ digits, c.isDigit = true)
    (stops : Stops isLoose rest) {n : UInt64} (small : extend n.toNat digits < UInt64.size) :
    readWhole n (digits ++ rest) = some (UInt64.ofNat (extend n.toNat digits), rest) := by
  induction digits generalizing n with
  | nil =>
      cases rest with
      | nil => simp [readWhole, extend]
      | cons c rest =>
          have other := stops c (by simp)
          simp only [isLoose, Bool.or_eq_false_iff] at other
          simp [readWhole, extend, other]
  | cons c digits ih =>
      have digit := all c List.mem_cons_self
      have grows := le_extend (n.toNat * 10 + (c.toNat - 48)) digits
      have bound : n.toNat * 10 + (c.toNat - 48) < UInt64.size :=
        Nat.lt_of_le_of_lt grows small
      have value : '0'.toNat = 48 := rfl
      have pushed : pushDigit? n c = some (UInt64.ofNat (n.toNat * 10 + (c.toNat - 48))) := by
        have tens : Word.mul? n 10 = some (UInt64.ofNat (n.toNat * 10)) := by
          rw [Word.mul?_eq, Word.ofNat?_eq_some_iff, UInt64.toNat_ofNat_of_lt' (by omega)]
          rfl
        rw [pushDigit?, tens, Option.bind_eq_bind, Option.bind_some, Word.add?_eq,
          Word.ofNat?_eq_some_iff, UInt64.toNat_ofNat_of_lt' bound,
          UInt64.toNat_ofNat_of_lt' (by omega), UInt64.toNat_ofNat_of_lt' (by omega), value]
      have rest := @ih (fun d member => all d (List.mem_cons_of_mem _ member))
        (UInt64.ofNat (n.toNat * 10 + (c.toNat - 48)))
        (by rw [UInt64.toNat_ofNat_of_lt' bound]; exact small)
      rw [UInt64.toNat_ofNat_of_lt' bound] at rest
      simp only [List.cons_append, readWhole, digit, if_true, pushed, Option.bind_eq_bind,
        Option.bind_some, rest]
      rfl

theorem isUnitChar_of_unit? {unit : String} {timeUnit : TimeUnit}
    (known : unit? unit = some timeUnit) :
    unit.toList ≠ [] ∧ ∀ c ∈ unit.toList, isUnitChar c = true ∧ isLoose c = false := by
  have names : (units.all fun timeUnit => timeUnit.names.all fun unit =>
      !unit.toList.isEmpty && unit.toList.all fun c => isUnitChar c && !isLoose c) = true := by
    decide
  have named : unit ∈ timeUnit.names := by simpa using List.find?_some known
  have letters := List.all_eq_true.mp
    (List.all_eq_true.mp names timeUnit (List.mem_of_find?_eq_some known)) unit named
  simpa using letters

/-- What may stand behind an amount: nothing, or a space and more. -/
def Ends (rest : List Char) : Prop :=
  rest = [] ∨ ∃ more, rest = ' ' :: more

theorem Ends.stops {rest : List Char} (ends : Ends rest) : Stops isUnitChar rest := by
  rcases ends with rfl | ⟨more, rfl⟩
  · exact stops_nil _
  · exact stops_cons rfl _

theorem readOptionalFraction_of_stops {rest : List Char} (stops : Stops isLoose rest) :
    readOptionalFraction rest = some (none, rest) := by
  cases rest with
  | nil => rfl
  | cons c rest =>
      have point : c ≠ '.' := by
        rintro rfl
        exact absurd (stops '.' rfl) (by decide)
      rw [readOptionalFraction]
      simp [point]

theorem readAmount_text {count : Count} {timeUnit : TimeUnit} (fits : count.Fits timeUnit)
    {rest : List Char} (ends : Ends rest) :
    readAmount (count.text.toList ++ rest) = some (count.amount, rest) := by
  obtain ⟨letters, all⟩ := isUnitChar_of_unit? fits.known
  have few : count.count < UInt64.size :=
    Nat.lt_of_le_of_lt (Nat.le_mul_of_pos_right _ fits.counts) fits.small
  have text : count.text.toList ++ rest =
      Nat.toDigits 10 count.count ++ (count.unit.toList ++ rest) := by
    rw [Count.text, String.toList_append, toList_toString, List.append_assoc]
  have stops : Stops isLoose (count.unit.toList ++ rest) := by
    cases unit : count.unit.toList with
    | nil => exact absurd unit letters
    | cons c cs => exact stops_cons (all c (by simp [unit])).2 _
  have whole := @readWhole_digits _ _ (fun _ member => isDigit_of_mem member) stops 0
    (by rw [UInt64.toNat_zero, extend_toDigits count.count]; exact few)
  rw [UInt64.toNat_zero, extend_toDigits] at whole
  obtain ⟨front, behind⟩ := span_of_stops (fun c member => (all c member).1) ends.stops
  obtain ⟨c, ds, digits, digit⟩ := exists_cons_toDigits count.count
  rw [digits] at whole
  rw [text, digits]
  simp only [List.cons_append] at whole ⊢
  simp only [readAmount, digit, if_true, whole, Option.bind_eq_bind, Option.bind_some,
    readOptionalFraction_of_stops stops, front, behind]
  rcases ends with rfl | ⟨more, rfl⟩
  · simp [Count.amount]
  · simp [Count.amount, Text.isBlank]

/-- Counts with spaces between them. -/
def texts (counts : List Count) : List Char :=
  (" ".intercalate (counts.map Count.text)).toList

theorem exists_cons_text (count : Count) :
    ∃ c cs, count.text.toList = c :: cs ∧ c.isDigit = true := by
  obtain ⟨c, ds, digits, digit⟩ := exists_cons_toDigits count.count
  refine ⟨c, ds ++ count.unit.toList, ?_, digit⟩
  rw [Count.text, String.toList_append, toList_toString, digits, List.cons_append]

theorem isBlank_of_isDigit {c : Char} (digit : c.isDigit = true) : Text.isBlank c = false := by
  have table : ∀ n < 58, 48 ≤ n → Text.isBlank (Char.ofNat n) = false := by decide
  simp only [Char.isDigit, Bool.and_eq_true, decide_eq_true_eq, ge_iff_le,
    UInt32.le_iff_toNat_le] at digit
  have solid := table c.toNat (Nat.lt_succ_of_le digit.2) digit.1
  rwa [Char.ofNat_toNat] at solid

theorem dropWhile_isBlank_texts (counts : List Count) :
    (texts counts).dropWhile Text.isBlank = texts counts := by
  cases counts with
  | nil => rfl
  | cons count counts =>
      obtain ⟨c, cs, first, digit⟩ := exists_cons_text count
      have solid := isBlank_of_isDigit digit
      cases counts with
      | nil => simp [texts, first, solid]
      | cons next counts => simp [texts, first, solid, String.toList_intercalate]

theorem texts_cons (count : Count) (counts : List Count) :
    ∃ behind, texts (count :: counts) = count.text.toList ++ behind ∧ Ends behind ∧
      behind.dropWhile Text.isBlank = texts counts := by
  cases counts with
  | nil => exact ⟨[], by simp [texts], Or.inl rfl, rfl⟩
  | cons next counts =>
      refine ⟨' ' :: texts (next :: counts), ?_, Or.inr ⟨_, rfl⟩, ?_⟩
      · simp [texts, String.toList_intercalate]
      · exact dropWhile_isBlank_texts (next :: counts)

theorem readAmounts_texts {counts : List Count}
    (fit : ∀ count ∈ counts, ∃ timeUnit, count.Fits timeUnit) {fuel : Nat}
    (enough : counts.length < fuel) {cs : List Char}
    (text : cs.dropWhile Text.isBlank = texts counts) :
    readAmounts fuel cs = some (counts.map Count.amount) := by
  induction counts generalizing fuel cs with
  | nil =>
      obtain ⟨fuel, rfl⟩ : ∃ less, fuel = less + 1 := ⟨fuel - 1, by simp at enough; omega⟩
      have nothing : cs.dropWhile Text.isBlank = [] := text
      simp [readAmounts, nothing]
  | cons count counts ih =>
      obtain ⟨fuel, rfl⟩ : ∃ less, fuel = less + 1 := ⟨fuel - 1, by omega⟩
      obtain ⟨timeUnit, fits⟩ := fit count List.mem_cons_self
      obtain ⟨behind, split, ends, more⟩ := texts_cons count counts
      have rest := ih (fun other member => fit other (List.mem_cons_of_mem _ member))
        (Nat.lt_of_succ_lt_succ enough) more
      have read := readAmount_text fits ends
      obtain ⟨c, tail, first, _⟩ := exists_cons_text count
      rw [split] at text
      rw [first, List.cons_append] at text read
      simp only [readAmounts, text, read, rest, Option.bind_eq_bind, Option.bind_some,
        List.map_cons]

/-- The name of a unit that takes an `s` behind any count but one. -/
def plural (name : String) (n : Nat) : String :=
  if n = 1 then name else name ++ "s"

/-- How many a time span has of each unit, the greatest first. -/
def counts (span : Duration) : List Count :=
  let seconds := span.seconds.toNat
  let nanos := span.nanos.val
  let inYear := seconds % 31557600
  let inMonth := inYear % 2630016
  let inDay := inMonth % 86400
  [⟨seconds / 31557600, plural "year" (seconds / 31557600)⟩,
   ⟨inYear / 2630016, plural "month" (inYear / 2630016)⟩,
   ⟨inMonth / 86400, plural "day" (inMonth / 86400)⟩, ⟨inDay / 3600, "h"⟩,
   ⟨inDay % 3600 / 60, "m"⟩, ⟨inDay % 60, "s"⟩, ⟨nanos / 1000000, "ms"⟩,
   ⟨nanos / 1000 % 1000, "us"⟩, ⟨nanos % 1000, "ns"⟩]

/-- The counts that are written. -/
def present (span : Duration) : List Count :=
  span.counts.filter fun count => count.count ≠ 0

theorem countOf_eq (name : String) (n : Nat) :
    countOf name n = if n = 0 then none else some (Count.text ⟨n, plural name n⟩) := by
  unfold countOf Count.text plural
  split
  · rfl
  · split
    · next one =>
        have digit : toString 1 = "1" := by decide
        simp only [one, digit]
    · next many => simp [String.append_assoc]

theorem amounts_eq (span : Duration) : span.amounts = span.present.map Count.text := by
  have picked : ∀ counts : List Count,
      (counts.map fun count => if count.count = 0 then none else some count.text).filterMap id =
        (counts.filter fun count => count.count ≠ 0).map Count.text := by
    intro counts
    induction counts with
    | nil => rfl
    | cons count counts ih =>
        by_cases none : count.count = 0
        · simpa [none] using ih
        · simpa [none] using ih
  rw [present, ← picked]
  simp only [amounts, countOf_eq, amountOf]
  rfl

/-- Whether a text names a unit of some length. -/
def Names (unit : String) (length : Nat) (grain : Grain) : Prop :=
  ∃ timeUnit, unit? unit = some timeUnit ∧ timeUnit.length.toNat = length ∧ timeUnit.grain = grain

theorem names_plural {name : String} {length : Nat} {grain : Grain} (one : Names name length grain)
    (many : Names (name ++ "s") length grain) (n : Nat) : Names (plural name n) length grain := by
  unfold plural
  split
  · exact one
  · exact many

theorem names_year (n : Nat) : Names (plural "year" n) 31557600 .seconds :=
  @names_plural "year" 31557600 .seconds ⟨_, rfl, rfl, rfl⟩ ⟨_, rfl, rfl, rfl⟩ n

theorem names_month (n : Nat) : Names (plural "month" n) 2630016 .seconds :=
  @names_plural "month" 2630016 .seconds ⟨_, rfl, rfl, rfl⟩ ⟨_, rfl, rfl, rfl⟩ n

theorem names_day (n : Nat) : Names (plural "day" n) 86400 .seconds :=
  @names_plural "day" 86400 .seconds ⟨_, rfl, rfl, rfl⟩ ⟨_, rfl, rfl, rfl⟩ n

theorem names_hour : Names "h" 3600 .seconds := ⟨_, rfl, rfl, rfl⟩

theorem names_minute : Names "m" 60 .seconds := ⟨_, rfl, rfl, rfl⟩

theorem names_second : Names "s" 1 .seconds := ⟨_, rfl, rfl, rfl⟩

theorem names_milli : Names "ms" 1000000 .nanos := ⟨_, rfl, rfl, rfl⟩

theorem names_micro : Names "us" 1000 .nanos := ⟨_, rfl, rfl, rfl⟩

theorem names_nano : Names "ns" 1 .nanos := ⟨_, rfl, rfl, rfl⟩

theorem Names.fits {unit : String} {length : Nat} {grain : Grain} (names : Names unit length grain)
    (positive : 0 < length) {n : Nat} (small : n * length < UInt64.size) :
    ∃ timeUnit, Count.Fits ⟨n, unit⟩ timeUnit := by
  obtain ⟨timeUnit, known, rfl, rfl⟩ := names
  exact ⟨timeUnit, known, small, positive⟩

theorem Names.worth {unit : String} {length : Nat} {grain : Grain}
    (names : Names unit length grain) (n : Nat) :
    Count.worth ⟨n, unit⟩ = n * (length * grain.worth) := by
  obtain ⟨timeUnit, known, rfl, rfl⟩ := names
  simp only [Count.worth, unitWorth, known, Option.elim_some]

theorem fits_counts (span : Duration) :
    ∀ count ∈ span.counts, ∃ timeUnit, count.Fits timeUnit := by
  have small := span.seconds.toNat_lt_size
  have below := span.nanos.isLt
  have size : UInt64.size = 18446744073709551616 := rfl
  simp only [counts, List.mem_cons, List.not_mem_nil, or_false, forall_eq_or_imp, forall_eq]
  refine ⟨(names_year _).fits (by decide) ?_, (names_month _).fits (by decide) ?_,
    (names_day _).fits (by decide) ?_, names_hour.fits (by decide) ?_,
    names_minute.fits (by decide) ?_, names_second.fits (by decide) ?_,
    names_milli.fits (by decide) ?_, names_micro.fits (by decide) ?_,
    names_nano.fits (by decide) ?_⟩ <;> omega

theorem sum_worth_cons (count : Count) (counts : List Count) :
    ((count :: counts).map Count.worth).sum = count.worth + (counts.map Count.worth).sum := by
  rw [List.map_cons, List.sum_cons]

theorem sum_worth_nil : (([] : List Count).map Count.worth).sum = 0 := by
  rw [List.map_nil, List.sum_nil]

theorem sum_worth (years months days hours minutes seconds millis micros nanos : Nat) :
    (([⟨years, plural "year" years⟩, ⟨months, plural "month" months⟩, ⟨days, plural "day" days⟩,
      ⟨hours, "h"⟩, ⟨minutes, "m"⟩, ⟨seconds, "s"⟩, ⟨millis, "ms"⟩, ⟨micros, "us"⟩,
      ⟨nanos, "ns"⟩] : List Count).map Count.worth).sum =
    (years * 31557600 + months * 2630016 + days * 86400 + hours * 3600 + minutes * 60 + seconds) *
      nanosPerSecond + (millis * 1000000 + micros * 1000 + nanos) := by
  simp only [sum_worth_cons, sum_worth_nil, (names_year _).worth,
    (names_month _).worth, (names_day _).worth, names_hour.worth, names_minute.worth,
    names_second.worth, names_milli.worth, names_micro.worth, names_nano.worth, Grain.worth,
    Nat.add_mul, Nat.mul_assoc, Nat.one_mul, Nat.mul_one, Nat.add_zero, Nat.add_assoc]

theorem seconds_of_parts (n : Nat) :
    n / 31557600 * 31557600 + n % 31557600 / 2630016 * 2630016 +
      n % 31557600 % 2630016 / 86400 * 86400 + n % 31557600 % 2630016 % 86400 / 3600 * 3600 +
      n % 31557600 % 2630016 % 86400 % 3600 / 60 * 60 +
      n % 31557600 % 2630016 % 86400 % 60 = n := by
  omega

theorem nanos_of_parts (n : Nat) :
    n / 1000000 * 1000000 + n / 1000 % 1000 * 1000 + n % 1000 = n := by
  omega

theorem sum_worth_counts (span : Duration) :
    (span.counts.map Count.worth).sum = span.total := by
  rw [counts, sum_worth, seconds_of_parts, nanos_of_parts, total]

theorem sum_worth_present (span : Duration) :
    (span.present.map Count.worth).sum = span.total := by
  have skipped : ∀ counts : List Count,
      ((counts.filter fun count => count.count ≠ 0).map Count.worth).sum =
        (counts.map Count.worth).sum := by
    intro counts
    induction counts with
    | nil => rfl
    | cons count counts ih =>
        by_cases none : count.count = 0
        · simpa [none, Count.worth] using ih
        · simpa [none] using ih
  rw [present, skipped, sum_worth_counts]

theorem length_lt_length_text {count : Count} {timeUnit : TimeUnit} (fits : count.Fits timeUnit) :
    1 < count.text.toList.length := by
  have letters := List.length_pos_iff.mpr (isUnitChar_of_unit? fits.known).1
  obtain ⟨c, ds, digits, _⟩ := exists_cons_toDigits count.count
  rw [Count.text, String.toList_append, toList_toString, digits, List.length_append,
    List.length_cons]
  omega

theorem length_le_length_texts {counts : List Count}
    (fit : ∀ count ∈ counts, ∃ timeUnit, count.Fits timeUnit) :
    counts.length ≤ (texts counts).length := by
  induction counts with
  | nil => exact Nat.zero_le _
  | cons count counts ih =>
      obtain ⟨timeUnit, fits⟩ := fit count List.mem_cons_self
      have long := length_lt_length_text fits
      have rest := ih fun other member => fit other (List.mem_cons_of_mem _ member)
      obtain ⟨behind, split, _, more⟩ := texts_cons count counts
      have fewer := (List.dropWhile_sublist Text.isBlank (l := behind)).length_le
      rw [more] at fewer
      rw [split, List.length_cons, List.length_append]
      omega

/-- A time span that is written is read back. -/
theorem parse?_render (span : Duration) : parse? span.render = some span := by
  have fit : ∀ count ∈ span.present, ∃ timeUnit, count.Fits timeUnit := fun count member =>
    fits_counts span count (List.mem_filter.mp member).1
  have worth := sum_worth_present span
  cases present : span.present with
  | nil =>
      rw [present] at worth
      have rendered : span.render = "0s" := by
        simp only [render, amounts_eq, present, List.map_nil]
      have zero : span = Duration.zero := eq_of_total_eq worth.symm
      rw [rendered, zero]
      rfl
  | cons count counts =>
      rw [present] at worth fit
      have text : span.render.toList = texts (count :: counts) := by
        simp only [render, amounts_eq, present]
        rfl
      have enough := length_le_length_texts fit
      have read : readAmounts (span.render.length + 1) span.render.toList =
          some ((count :: counts).map Count.amount) := by
        refine readAmounts_texts fit ?_ ?_
        · rw [← String.length_toList, text]
          omega
        · rw [text, dropWhile_isBlank_texts]
      have more : span.render ≠ "0" := by
        intro zero
        obtain ⟨timeUnit, fits⟩ := fit count List.mem_cons_self
        have long := length_lt_length_text fits
        obtain ⟨behind, split, _⟩ := texts_cons count counts
        have size := congrArg List.length (text.symm.trans (congrArg String.toList zero))
        rw [split, List.length_append] at size
        have one : "0".toList.length = 1 := rfl
        omega
      have sum : (zero.total + ((count :: counts).map Count.worth).sum) = span.total := by
        rw [worth]
        exact Nat.zero_add _
      simp only [parse?, if_neg more, read, List.map_cons]
      exact foldlM_addAmount?_of_total fit sum

end ScriptBridge.Duration
