import Mathlib.Data.List.Forall2
import ScriptBridge.Proofs.Text.Cutting
import ScriptBridge.Proofs.Text.Utf8
import ScriptBridge.Text.Percent

/-! # Url-encoded pairs are read back

There are several ways to write the octets of a name or a value: any of them as `%` with two digits, a
space as `+`, and those that are no marks as themselves. All of them are read as the same octets, and
none has a mark in it at which pairs are cut apart, so the pairs come back whichever way each octet was
written.
-/

namespace ScriptBridge.UrlEncoded

/-- The octets that do not stand for themselves: `%`, `&`, `+` and `=`. -/
def isMark (b : UInt8) : Bool :=
  b == 37 || b == 38 || b == 43 || b == 61

/-- Whether a text is a way to write octets. -/
inductive Spells : Bytes → Bytes → Prop
  | nil : Spells [] []
  | escaped {a b octet : UInt8} {text octets : Bytes} (digits : hexOctet? a b = some octet)
      (rest : Spells text octets) : Spells (37 :: a :: b :: text) (octet :: octets)
  | space {text octets : Bytes} (rest : Spells text octets) : Spells (43 :: text) (32 :: octets)
  | literal {b : UInt8} {text octets : Bytes} (plain : isMark b = false)
      (rest : Spells text octets) : Spells (b :: text) (b :: octets)

/-- Whether a piece is a way to write a pair. -/
def SpellsPair (piece : Bytes) (pair : String × String) : Prop :=
  ∃ name value, piece = name ++ 61 :: value ∧ Spells name (utf8 pair.1) ∧ Spells value (utf8 pair.2)

/-- Whether a text is a way to write pairs, with `&` between them. -/
def SpellsPairs (text : Bytes) (pairs : List (String × String)) : Prop :=
  ∃ pieces, text = [38].intercalate pieces ∧ List.Forall₂ SpellsPair pieces pairs

/-- A pair with every octet as `%` and two digits. -/
def escapePair (pair : String × String) : Bytes :=
  escape (utf8 pair.1) ++ 61 :: escape (utf8 pair.2)

def escapePairs (pairs : List (String × String)) : Bytes :=
  [38].intercalate (pairs.map escapePair)

theorem hexOctet?_hexDigits (b : UInt8) :
    hexOctet? (hexDigit (b / 16)) (hexDigit (b % 16)) = some b := by
  have table : ∀ n < 256, hexOctet? (hexDigit (UInt8.ofNat n / 16)) (hexDigit (UInt8.ofNat n % 16)) =
      some (UInt8.ofNat n) := by
    decide +kernel
  have row := table b.toNat b.toNat_lt
  rwa [UInt8.ofNat_toNat] at row

theorem spells_escape (octets : Bytes) : Spells (escape octets) octets := by
  induction octets with
  | nil => exact .nil
  | cons b rest ih => exact .escaped (hexOctet?_hexDigits b) ih

theorem ne_of_hexOctet? {a b octet : UInt8} (digits : hexOctet? a b = some octet) {mark : UInt8}
    (other : hexValue? mark = none) : mark ≠ a ∧ mark ≠ b := by
  obtain ⟨high, first, rest⟩ := Option.bind_eq_some_iff.mp digits
  obtain ⟨low, second, -⟩ := Option.bind_eq_some_iff.mp rest
  constructor
  · rintro rfl
    simp [other] at first
  · rintro rfl
    simp [other] at second

/-- Whichever way octets are written, they are read back. -/
theorem Spells.unescape {text octets : Bytes} (spells : Spells text octets) :
    UrlEncoded.unescape text = octets := by
  induction spells with
  | nil => rfl
  | escaped digits rest ih => simp only [UrlEncoded.unescape, digits, ih]
  | space rest ih => rw [UrlEncoded.unescape, ih]
  | literal plain rest ih =>
      simp only [isMark, Bool.or_eq_false_iff, beq_eq_false_iff_ne] at plain
      obtain ⟨⟨⟨noPercent, -⟩, noPlus⟩, -⟩ := plain
      rw [UrlEncoded.unescape, ih]
      · intro a b rest' percent
        exact absurd percent noPercent
      · exact noPlus

theorem Spells.not_mem {text octets : Bytes} (spells : Spells text octets) {mark : UInt8}
    (cuts : mark = 38 ∨ mark = 61) : mark ∉ text := by
  have marks : mark ≠ 37 ∧ mark ≠ 43 ∧ isMark mark = true ∧ hexValue? mark = none := by
    rcases cuts with rfl | rfl <;> decide
  obtain ⟨noPercent, noPlus, isMark, other⟩ := marks
  induction spells with
  | nil => exact List.not_mem_nil
  | escaped digits rest ih =>
      obtain ⟨first, second⟩ := ne_of_hexOctet? digits other
      simp [noPercent, first, second, ih]
  | space rest ih => simp [noPlus, ih]
  | @literal b text octets plain rest ih =>
      have apart : mark ≠ b := by
        rintro rfl
        exact Bool.false_ne_true (plain.symm.trans isMark)
      simp [apart, ih]

theorem SpellsPair.pairOf {piece : Bytes} {pair : String × String}
    (spells : SpellsPair piece pair) : UrlEncoded.pairOf piece = pair := by
  obtain ⟨name, value, rfl, first, second⟩ := spells
  simp only [UrlEncoded.pairOf, cutFirst?_append_mark (first.not_mem (.inr rfl)),
    Option.getD_some, first.unescape, second.unescape, Utf8.decodeLossy_encode]

theorem SpellsPair.not_mem {piece : Bytes} {pair : String × String}
    (spells : SpellsPair piece pair) : 38 ∉ piece := by
  obtain ⟨name, value, rfl, first, second⟩ := spells
  simp [first.not_mem (.inl rfl), second.not_mem (.inl rfl)]

theorem SpellsPair.ne_nil {piece : Bytes} {pair : String × String}
    (spells : SpellsPair piece pair) : piece ≠ [] := by
  obtain ⟨name, value, rfl, -, -⟩ := spells
  simp

theorem pairs_of_free {piece : Bytes} (free : 38 ∉ piece) (filled : piece ≠ []) :
    pairs piece = [pairOf piece] := by
  simp [pairs, cutAll_of_free free, filled]

theorem pairs_append_mark {piece : Bytes} (free : 38 ∉ piece) (filled : piece ≠ [])
    (rest : Bytes) : pairs (piece ++ 38 :: rest) = pairOf piece :: pairs rest := by
  simp [pairs, cutAll_append_mark free, filled]

theorem SpellsPairs.pairs {text : Bytes} {pairs : List (String × String)}
    (spells : SpellsPairs text pairs) : UrlEncoded.pairs text = pairs := by
  obtain ⟨pieces, rfl, each⟩ := spells
  induction each with
  | nil => rfl
  | @cons piece pair pieces pairs first others ih =>
      cases others with
      | nil =>
          rw [List.intercalate_singleton, pairs_of_free first.not_mem first.ne_nil, first.pairOf]
      | cons second others =>
          rw [List.intercalate_cons_cons, List.append_assoc, List.singleton_append,
            pairs_append_mark first.not_mem first.ne_nil, first.pairOf, ih]

theorem spellsPairs_escapePairs (pairs : List (String × String)) :
    SpellsPairs (escapePairs pairs) pairs := by
  refine ⟨pairs.map escapePair, rfl, ?_⟩
  rw [List.forall₂_map_left_iff, List.forall₂_same]
  intro pair _
  exact ⟨_, _, rfl, spells_escape _, spells_escape _⟩

end ScriptBridge.UrlEncoded
