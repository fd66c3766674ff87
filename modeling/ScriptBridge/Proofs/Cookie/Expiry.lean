import ScriptBridge.Proofs.Cookie.Histories
import ScriptBridge.Proofs.Text.Numeral

/-! # Cookies that end

The age of a cookie is a numeral of any size among the attributes of its text, behind a key in any
case and between blanks. A jar does what an age asks for just if the age is no less than the least
number of 64 bits: an age below it is taken for none, and the cookie that has ended stays.
-/

namespace ScriptBridge

namespace SetCookie

/-- Whether an attribute states an age: on the two sides of its first `=`, with blanks around them,
    stand `Max-Age` in any case and a numeral. -/
def StatesAge (part : String) (age : Int) : Prop :=
  ∃ key value : String, part.toList = key.toList ++ '=' :: value.toList ∧ '=' ∉ key.toList ∧
    Text.eqIgnoreAsciiCase (Text.trim key) "max-age" = true ∧
    Numeral.Writes (Text.trim value).toList age

/-- Whether the key of an attribute is `Max-Age`, whatever its value. -/
def isMaxAge (part : String) : Bool :=
  (Text.cutFirst? '=' part).any fun (key, _) =>
    Text.eqIgnoreAsciiCase (Text.trim key) "max-age"

theorem StatesAge.isMaxAge {part : String} {age : Int} (states : StatesAge part age) :
    isMaxAge part = true := by
  obtain ⟨key, value, whole, free, isKey, -⟩ := states
  simp [SetCookie.isMaxAge, Text.cutFirst?_eq_some_iff.mpr ⟨whole, free⟩, isKey]

theorem StatesAge.unique {part : String} {age other : Int} (states : StatesAge part age)
    (states' : StatesAge part other) : other = age := by
  obtain ⟨key, value, whole, free, -, writes⟩ := states
  obtain ⟨key', value', whole', free', -, writes'⟩ := states'
  have cut := Text.cutFirst?_eq_some_iff.mpr ⟨whole, free⟩
  rw [Text.cutFirst?_eq_some_iff.mpr ⟨whole', free'⟩] at cut
  obtain ⟨-, rfl⟩ := Prod.mk.inj (Option.some.inj cut)
  exact writes'.unique writes

/-- The one age that attributes state. -/
structure HasAge (attributes : List String) (age : Int) : Prop where
  stated : ∃ part ∈ attributes, StatesAge part age
  only : ∀ part ∈ attributes, ∀ other, StatesAge part other → other = age

theorem hasAge_of_single {front behind : List String} {part : String} {age : Int}
    (states : StatesAge part age) (others : ∀ other ∈ front ++ behind, isMaxAge other = false) :
    HasAge (front ++ part :: behind) age where
  stated := ⟨part, List.mem_append_right front List.mem_cons_self, states⟩
  only other member age' states' := by
    rcases List.mem_append.mp member with before | member
    · have no := others other (List.mem_append_left behind before)
      rw [states'.isMaxAge] at no
      cases no
    · rcases List.mem_cons.mp member with rfl | after
      · exact states.unique states'
      · have no := others other (List.mem_append_right front after)
        rw [states'.isMaxAge] at no
        cases no

theorem givesAge_iff {part : String} {age : Int} :
    GivesAge part age ↔ StatesAge part age ∧ -2 ^ 63 ≤ age ∧ age < 2 ^ 63 := by
  have halves := Text.cutFirst?_trim (by decide : Text.isBlank '=' = false) part
  have read : ∀ value : String, Numeral.readInt64 (Text.trim value) = .ok age ↔
      Numeral.Writes (Text.trim value).toList age ∧ -2 ^ 63 ≤ age ∧ age < 2 ^ 63 := by
    intro value
    rw [Numeral.readInt64, Numeral.readInt_eq_ok_iff, Numeral.maxInt64]
    exact and_congr_right fun _ => by omega
  simp only [GivesAge, StatesAge, ← and_assoc, ← Text.cutFirst?_eq_some_iff, read]
  constructor
  · rintro ⟨key, value, ⟨⟨⟨⟨cut, isKey⟩, writes⟩, low⟩, high⟩⟩
    rw [cut, Option.map_some, eq_comm, Option.map_eq_some_iff] at halves
    obtain ⟨⟨key', value'⟩, cut', same⟩ := halves
    obtain ⟨sameKey, sameValue⟩ := Prod.mk.inj same
    exact ⟨⟨⟨key', value', ⟨cut', sameKey ▸ isKey⟩, sameValue ▸ writes⟩, low⟩, high⟩
  · rintro ⟨⟨⟨key, value, ⟨cut, isKey⟩, writes⟩, low⟩, high⟩
    rw [cut, Option.map_some, Option.map_eq_some_iff] at halves
    obtain ⟨⟨key', value'⟩, cut', same⟩ := halves
    obtain ⟨sameKey, sameValue⟩ := Prod.mk.inj same
    exact ⟨key', value', ⟨⟨⟨cut', sameKey ▸ isKey⟩, sameValue ▸ writes⟩, low⟩, high⟩

/-- A cookie is over if its age is zero or less and a number of 64 bits. -/
theorem HasAge.isOver_iff {attributes : List String} {age : Int} (has : HasAge attributes age) :
    IsOver attributes ↔ age ≤ 0 ∧ -2 ^ 63 ≤ age := by
  simp only [IsOver, givesAge_iff]
  constructor
  · rintro ⟨part, member, other, ended, states, low, -⟩
    obtain rfl := has.only part member other states
    exact ⟨ended, low⟩
  · rintro ⟨ended, low⟩
    obtain ⟨part, member, states⟩ := has.stated
    exact ⟨part, member, age, ended, states, low, by omega⟩

end SetCookie

namespace CookieJar

open SetCookie

variable {text name value : String} {attributes : List String}

theorem get?_store_of_sets (jar : CookieJar) (sets : Sets text name value attributes)
    (other : String) :
    (jar.store text).get? other =
      if name = other then if attributes.any expires then none else some value
      else jar.get? other := by
  rw [get?_store]
  by_cases same : name = other
  · subst same
    rw [asks?_of_sets sets, if_pos rfl, Option.getD_some]
  · rw [asks?, parse_of_sets sets, Option.bind_some, if_neg same, if_neg same, Option.getD_none]

/-- Whether a jar does what the age of a cookie asks for: it takes the cookie out if the age is zero
    or less and puts it in otherwise, and leaves all other cookies as they are. -/
def HeedsAge (jar : CookieJar) (text name value : String) (age : Int) : Prop :=
  ∀ other, (jar.store text).get? other =
    if name = other then if age ≤ 0 then none else some value else jar.get? other

/-- Of all ages, with any number of digits, a jar fails those that are less than every number of 64
    bits, and no others. -/
theorem heedsAge_iff (jar : CookieJar) {age : Int} (sets : Sets text name value attributes)
    (has : HasAge attributes age) : jar.HeedsAge text name value age ↔ -2 ^ 63 ≤ age := by
  have ends : attributes.any expires = true ↔ age ≤ 0 ∧ -2 ^ 63 ≤ age :=
    any_expires_iff.trans has.isOver_iff
  simp only [HeedsAge, jar.get?_store_of_sets sets]
  constructor
  · intro heeds
    by_contra low
    have stays : ¬attributes.any expires = true := fun ended => low (ends.mp ended).2
    have kept := heeds name
    rw [if_pos rfl, if_pos rfl, if_neg stays, if_pos (by omega)] at kept
    cases kept
  · intro low other
    have agree : attributes.any expires = true ↔ age ≤ 0 := by
      rw [ends]
      exact and_iff_left low
    simp only [agree]

/-- Ages beyond 64 bits above zero, and within them below zero behind many zeros. -/
theorem heedsAge_iff_of_long_numerals :
    let lasting := "sid=1; \u00a0mAx-aGe\u2003= +00018446744073709551616 ; Path=/"
    let ending := "sid=2;HttpOnly;Max-Age=-000000000000000000000000000007"
    let first := [] ++ " \u00a0mAx-aGe\u2003= +00018446744073709551616 " :: [" Path=/"]
    let second := ["HttpOnly"] ++ "Max-Age=-000000000000000000000000000007" :: []
    Sets lasting "sid" "1" first ∧ HasAge first 18446744073709551616 ∧
      empty.HeedsAge lasting "sid" "1" 18446744073709551616 ∧
      Sets ending "sid" "2" second ∧ HasAge second (-7) ∧
      (empty.store lasting).HeedsAge ending "sid" "2" (-7) := by
  intro lasting ending first second
  have sets : Sets lasting "sid" "1" first := ⟨"sid", "1", by decide +kernel⟩
  have ends : Sets ending "sid" "2" second := ⟨"sid", "2", by decide +kernel⟩
  have long : Numeral.IsMagnitude "00018446744073709551616".toList 18446744073709551616 := by
    constructor <;> simp [Nat.ofDigitChars_cons]
  have zeros : Numeral.IsMagnitude "000000000000000000000000000007".toList 7 := by
    constructor <;> simp [Nat.ofDigitChars_cons]
  have hasLong : HasAge first 18446744073709551616 := by
    refine hasAge_of_single ⟨" \u00a0mAx-aGe\u2003", " +00018446744073709551616 ",
      by decide +kernel, by decide +kernel, by decide +kernel, ?_⟩ (by decide +kernel)
    rw [show (Text.trim " +00018446744073709551616 ").toList =
      '+' :: "00018446744073709551616".toList by decide +kernel]
    exact .positive long
  have hasZeros : HasAge second (-7) := by
    refine hasAge_of_single ⟨"Max-Age", "-000000000000000000000000000007",
      by decide +kernel, by decide +kernel, by decide +kernel, ?_⟩ (by decide +kernel)
    rw [show (Text.trim "-000000000000000000000000000007").toList =
      '-' :: "000000000000000000000000000007".toList by decide +kernel]
    exact .negative zeros
  exact ⟨sets, hasLong, (heedsAge_iff empty sets hasLong).mpr (by decide), ends, hasZeros,
    (heedsAge_iff _ ends hasZeros).mpr (by decide)⟩

/-- An age of one less than the least number of 64 bits leaves in the jar what it should take out. -/
theorem not_heedsAge_of_long_age :
    let text := "sid=2;Max-Age=-9223372036854775809"
    let attributes := [] ++ "Max-Age=-9223372036854775809" :: []
    let jar := empty.store "sid=1"
    Sets text "sid" "2" attributes ∧ HasAge attributes (-9223372036854775809) ∧
      (jar.store text).get? "sid" = some "2" ∧
      ¬jar.HeedsAge text "sid" "2" (-9223372036854775809) := by
  intro text attributes jar
  have long : Numeral.IsMagnitude "9223372036854775809".toList 9223372036854775809 := by
    constructor <;> simp [Nat.ofDigitChars_cons]
  have has : HasAge attributes (-9223372036854775809) := by
    refine hasAge_of_single ⟨"Max-Age", "-9223372036854775809",
      by decide +kernel, by decide +kernel, by decide +kernel, ?_⟩ (by decide +kernel)
    rw [show (Text.trim "-9223372036854775809").toList =
      '-' :: "9223372036854775809".toList by decide +kernel]
    exact .negative long
  have stays : (jar.store text).get? "sid" = some "2" := by decide +kernel
  refine ⟨⟨"sid", "2", by decide +kernel⟩, has, stays, fun heeds => ?_⟩
  rw [heeds "sid"] at stays
  exact absurd stays (by decide)

end CookieJar

end ScriptBridge
