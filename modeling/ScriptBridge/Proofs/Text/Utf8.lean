import ScriptBridge.Text.Utf8

/-! # Reading UTF-8 back

The octets of a text are read back as the text. The reader follows the octets of one character at a
time: the first one tells how many more there are and bounds the second one. An octet of an ASCII
character stands for that character wherever it is, so that octets can be cut there as text is cut.
-/

namespace ScriptBridge.Utf8

theorem Scan.run_cons (scan : Scan) (b : UInt8) (rest : Bytes) :
    scan.run (b :: rest) = (scan.next b).1 ++ (scan.next b).2.run rest := by
  cases scan <;> rfl

theorem first_two : ∀ high < 32, 2 ≤ high →
    Scan.first (UInt8.ofNat (high + 0xC0)) = ([], .within high 1 0x80 0xBF) := by
  decide

theorem first_three : ∀ high < 16,
    Scan.first (UInt8.ofNat (high + 0xE0)) = ([], .within high 2
      (if high = 0 then 0xA0 else 0x80) (if high = 13 then 0x9F else 0xBF)) := by
  decide

theorem first_four : ∀ high < 5,
    Scan.first (UInt8.ofNat (high + 0xF0)) = ([], .within high 3
      (if high = 0 then 0x90 else 0x80) (if high = 4 then 0x8F else 0xBF)) := by
  decide

theorem next_within {code owed bits : Nat} {low high : UInt8} (small : bits < 64)
    (above : low.toNat ≤ bits + 0x80) (below : bits + 0x80 ≤ high.toNat) :
    (Scan.within code owed low high).next (UInt8.ofNat (bits + 0x80)) =
      if owed ≤ 1 then ([Char.ofNat (code * 64 + bits)], .between)
      else ([], .within (code * 64 + bits) (owed - 1) 0x80 0xBF) := by
  have value : (UInt8.ofNat (bits + 0x80)).toNat = bits + 0x80 := by
    simp only [UInt8.toNat_ofNat']
    omega
  have fits : low ≤ UInt8.ofNat (bits + 0x80) ∧ UInt8.ofNat (bits + 0x80) ≤ high := by
    simp only [UInt8.le_iff_toNat_le, value]
    exact ⟨above, below⟩
  simp only [Scan.next, fits, and_self, if_true, value, Nat.add_sub_cancel]

theorem run_last {code bits : Nat} {low high : UInt8} (small : bits < 64)
    (above : low.toNat ≤ bits + 0x80) (below : bits + 0x80 ≤ high.toNat) (rest : Bytes) :
    (Scan.within code 1 low high).run (UInt8.ofNat (bits + 0x80) :: rest) =
      Char.ofNat (code * 64 + bits) :: Scan.between.run rest := by
  rw [Scan.run_cons, next_within small above below]
  rfl

theorem run_further {code owed bits : Nat} {low high : UInt8} (more : 1 < owed)
    (small : bits < 64) (above : low.toNat ≤ bits + 0x80) (below : bits + 0x80 ≤ high.toNat)
    (rest : Bytes) :
    (Scan.within code owed low high).run (UInt8.ofNat (bits + 0x80) :: rest) =
      (Scan.within (code * 64 + bits) (owed - 1) 0x80 0xBF).run rest := by
  have owes : ¬ owed ≤ 1 := by omega
  rw [Scan.run_cons, next_within small above below]
  simp only [owes, if_false, List.nil_append]

theorem run_first {b : UInt8} {scan : Scan} (first : Scan.first b = ([], scan)) (rest : Bytes) :
    Scan.between.run (b :: rest) = scan.run rest := by
  rw [Scan.run_cons]
  simp only [Scan.next, first, List.nil_append]

theorem code_valid (c : Char) :
    c.val.toNat < 0xD800 ∨ 0xDFFF < c.val.toNat ∧ c.val.toNat < 0x110000 :=
  c.valid

theorem run_encodeChar (c : Char) (rest : Bytes) :
    Scan.between.run (String.utf8EncodeChar c ++ rest) = c :: Scan.between.run rest := by
  have same : Char.ofNat c.val.toNat = c := Char.ofNat_toNat c
  have valid := code_valid c
  simp only [String.utf8EncodeChar]
  generalize c.val.toNat = code at same valid
  split
  · have value : (UInt8.ofNat code).toNat = code := by
      simp only [UInt8.toNat_ofNat']
      omega
    have ascii : UInt8.ofNat code < 0x80 := by
      rw [UInt8.lt_iff_toNat_lt, value]
      change code < 128
      omega
    simp only [List.cons_append, List.nil_append, Scan.run_cons, Scan.next, Scan.first, ascii,
      if_true, value, same]
  · split
    · have high : code / 64 % 32 = code / 64 := by omega
      rw [high]
      simp only [List.cons_append, List.nil_append]
      rw [run_first (first_two _ (by omega) (by omega)),
        run_last (by omega) (by simp) (by simp; omega)]
      rw [show code / 64 * 64 + code % 64 = code by omega, same]
    · split
      · have high : code / 4096 % 16 = code / 4096 := by omega
        rw [high]
        simp only [List.cons_append, List.nil_append]
        rw [run_first (first_three _ (by omega)),
          run_further (by omega) (by omega) (by split <;> simp; omega)
            (by split <;> simp <;> omega),
          run_last (by omega) (by simp) (by simp; omega)]
        rw [show (code / 4096 * 64 + code / 64 % 64) * 64 + code % 64 = code by omega, same]
      · have high : code / 262144 % 8 = code / 262144 := by omega
        rw [high]
        simp only [List.cons_append, List.nil_append]
        rw [run_first (first_four _ (by omega)),
          run_further (by omega) (by omega) (by split <;> simp; omega)
            (by split <;> simp <;> omega),
          run_further (by omega) (by omega) (by simp) (by simp; omega),
          run_last (by omega) (by simp) (by simp; omega)]
        rw [show ((code / 262144 * 64 + code / 4096 % 64) * 64 + code / 64 % 64) * 64 +
          code % 64 = code by omega, same]

theorem decodeChars_encodeChars_append (cs : List Char) (rest : Bytes) :
    decodeChars (encodeChars cs ++ rest) = cs ++ decodeChars rest := by
  induction cs with
  | nil => rfl
  | cons c cs ih =>
      simp only [decodeChars, encodeChars, List.flatMap_cons, List.append_assoc,
        List.cons_append] at ih ⊢
      rw [run_encodeChar, ih]

theorem decodeChars_encodeChars (cs : List Char) : decodeChars (encodeChars cs) = cs := by
  have read := decodeChars_encodeChars_append cs []
  rwa [List.append_nil, show decodeChars [] = [] from rfl, List.append_nil] at read

/-- The octets of a text are read back as the text. -/
@[simp]
theorem decodeLossy_encode (s : String) : decodeLossy (encode s) = s := by
  rw [decodeLossy, encode, decodeChars_encodeChars, String.ofList_toList]

theorem eq_of_mem_encodeChar {c : Char} {b : UInt8} (member : b ∈ String.utf8EncodeChar c)
    (ascii : b.toNat < 0x80) : c = Char.ofNat b.toNat := by
  have same : Char.ofNat c.val.toNat = c := Char.ofNat_toNat c
  simp only [String.utf8EncodeChar] at member
  generalize c.val.toNat = code at same member
  split at member
  · obtain rfl := List.mem_singleton.mp member
    have value : (UInt8.ofNat code).toNat = code := by
      simp only [UInt8.toNat_ofNat']
      omega
    rw [value, same]
  · refine absurd ascii ?_
    split at member
    · simp only [List.mem_cons, List.not_mem_nil, or_false] at member
      rcases member with rfl | rfl <;> simp only [UInt8.toNat_ofNat'] <;> omega
    · split at member
      · simp only [List.mem_cons, List.not_mem_nil, or_false] at member
        rcases member with rfl | rfl | rfl <;> simp only [UInt8.toNat_ofNat'] <;> omega
      · simp only [List.mem_cons, List.not_mem_nil, or_false] at member
        rcases member with rfl | rfl | rfl | rfl <;> simp only [UInt8.toNat_ofNat'] <;> omega

theorem not_mem_encode {s : String} {b : UInt8} (ascii : b.toNat < 0x80)
    (free : Char.ofNat b.toNat ∉ s.toList) : b ∉ encode s := by
  intro member
  obtain ⟨c, isChar, member⟩ := List.mem_flatMap.mp member
  exact free (eq_of_mem_encodeChar member ascii ▸ isChar)

theorem encodeChars_append (before behind : List Char) :
    encodeChars (before ++ behind) = encodeChars before ++ encodeChars behind :=
  List.flatMap_append

@[simp]
theorem encode_append (s t : String) : encode (s ++ t) = encode s ++ encode t := by
  simp only [encode, String.toList_append, encodeChars_append]

theorem encodeChar_ascii {b : UInt8} (ascii : b.toNat < 0x80) :
    String.utf8EncodeChar (Char.ofNat b.toNat) = [b] := by
  have valid : b.toNat.isValidChar := Or.inl (by omega)
  have code : (Char.ofNat b.toNat).val.toNat = b.toNat := by
    rw [Char.ofNat, dif_pos valid]
    rfl
  have small : b.toNat ≤ 0x7F := by omega
  simp only [String.utf8EncodeChar, code, small, if_true, UInt8.ofNat_toNat]

/-- Where characters have an ASCII octet, one of them is the ASCII character, and the octets before
    and behind are those of the characters before and behind. -/
theorem exists_of_encodeChars_eq {cs : List Char} {front rest : Bytes} {b : UInt8}
    (ascii : b.toNat < 0x80) (eq : encodeChars cs = front ++ b :: rest) :
    ∃ before behind, cs = before ++ Char.ofNat b.toNat :: behind ∧
      front = encodeChars before ∧ rest = encodeChars behind := by
  induction cs generalizing front with
  | nil => simp [encodeChars] at eq
  | cons c cs ih =>
      have parts : String.utf8EncodeChar c ++ encodeChars cs = front ++ b :: rest := eq
      rcases List.append_eq_append_iff.mp parts with ⟨gap, rfl, further⟩ | ⟨inner, whole, further⟩
      · -- the octet lies behind the first character
        obtain ⟨before, behind, rfl, rfl, rfl⟩ := ih further
        exact ⟨c :: before, behind, rfl, rfl, rfl⟩
      · cases inner with
        | nil =>
            have later : encodeChars cs = [] ++ b :: rest := further.symm
            obtain ⟨before, behind, rfl, none, rfl⟩ := ih later
            refine ⟨c :: before, behind, rfl, ?_, rfl⟩
            simp only [List.append_nil] at whole
            simp only [encodeChars, List.flatMap_cons, whole] at none ⊢
            rw [← none, List.append_nil]
        | cons a inner =>
            -- the octet is one of the first character, which is ASCII and has no other octet
            obtain ⟨rfl, rfl⟩ := List.cons.inj further
            have member : b ∈ String.utf8EncodeChar c := by simp [whole]
            obtain rfl := eq_of_mem_encodeChar member ascii
            rw [encodeChar_ascii ascii] at whole
            obtain ⟨rfl, rfl⟩ : front = [] ∧ inner = [] := by
              cases front with
              | nil => simpa using whole
              | cons f front => simp at whole
            exact ⟨[], cs, rfl, rfl, rfl⟩

theorem exists_of_encode_eq {s : String} {front rest : Bytes} {b : UInt8}
    (ascii : b.toNat < 0x80) (eq : encode s = front ++ b :: rest) :
    ∃ before behind, front = encode before ∧ rest = encode behind := by
  obtain ⟨before, behind, -, rfl, rfl⟩ := exists_of_encodeChars_eq ascii eq
  exact ⟨String.ofList before, String.ofList behind, by simp [encode], by simp [encode]⟩

@[simp]
theorem encode_eq_nil_iff (s : String) : encode s = [] ↔ s = "" := by
  constructor
  · intro empty
    rw [← decodeLossy_encode s, empty]
    rfl
  · rintro rfl
    rfl

end ScriptBridge.Utf8
