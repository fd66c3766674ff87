import ScriptBridge.Json.Reader
import ScriptBridge.Json.Writer
import ScriptBridge.Proofs.Text.Digits

/-! # JSON that is written is read back

The text of a value in lines of its own is read as the value again. Texts between quotes and numbers
are read up to their ends, whatever comes behind; a value is read behind any blanks. Lines of a list
or an object are given character by character in `itemLines`, along which both are read.
-/

namespace ScriptBridge.Json

theorem hexValue?_hexDigit (n : Nat) : hexValue? (hexDigit n) = some (n % 16) := by
  have table : ∀ d < 16, hexValue? (Nat.digitChar d) = some d := by decide
  exact table (n % 16) (Nat.mod_lt n (by decide))

theorem readEscapedUnits_control {c : Char} (control : c.toNat < 0x20) (rest : List Char) :
    readEscapedUnits ('0' :: '0' :: hexDigit (c.toNat / 16) :: hexDigit c.toNat :: rest) =
      some (some c, rest) := by
  have zero : hexValue? '0' = some 0 := by decide
  have unit : ((0 * 16 + 0) * 16 + c.toNat / 16 % 16) * 16 + c.toNat % 16 = c.toNat := by omega
  simp only [readEscapedUnits, readUnit, zero, hexValue?_hexDigit, Option.bind_eq_bind,
    Option.bind_some, unit]
  rw [if_pos (Or.inl (by omega)), Char.ofNat_toNat]

theorem readText_escapeChar (c : Char) (fuel : Nat) (before rest : List Char) :
    readText (fuel + 1) (some before) (escapeChar c ++ rest) =
      readText fuel (some (c :: before)) rest := by
  unfold escapeChar
  split
  · rfl
  · rfl
  · rfl
  · rfl
  · rfl
  · rfl
  · rfl
  · next quote backslash _ _ _ _ _ =>
      split
      · next control =>
          simp only [List.cons_append, List.nil_append, readText,
            readEscapedUnits_control control, Option.bind_eq_bind, Option.bind_some,
            Option.map_some]
      · next printed =>
          have plain : readText (fuel + 1) (some before) (c :: rest) =
              if c.toNat < 0x20 then none else readText fuel (some (c :: before)) rest := by
            rw [readText.eq_def]
            split <;> simp_all
          rw [List.singleton_append, plain, if_neg printed]

theorem readText_escaped (s before rest : List Char) {fuel : Nat} (enough : s.length < fuel) :
    readText fuel (some before) (s.flatMap escapeChar ++ '"' :: rest) =
      some (some (String.ofList (before.reverse ++ s)), rest) := by
  induction s generalizing before fuel with
  | nil =>
      cases fuel with
      | zero => simp at enough
      | succ fuel => simp [readText]
  | cons c s ih =>
      cases fuel with
      | zero => simp at enough
      | succ fuel =>
          rw [List.flatMap_cons, List.append_assoc, readText_escapeChar,
            ih (c :: before) (Nat.lt_of_succ_lt_succ enough)]
          simp

theorem length_le_flatMap_escapeChar (s : List Char) :
    s.length ≤ (s.flatMap escapeChar).length := by
  induction s with
  | nil => exact Nat.le_refl _
  | cons c s ih =>
      have some_ : 0 < (escapeChar c).length := by
        unfold escapeChar
        split <;> first | (split <;> simp) | simp
      rw [List.flatMap_cons, List.length_append, List.length_cons]
      omega

theorem readText_quote (s : String) (rest : List Char) :
    readText (s.toList.flatMap escapeChar ++ '"' :: rest).length.succ (some [])
      (s.toList.flatMap escapeChar ++ '"' :: rest) = some (some s, rest) := by
  have enough : s.toList.length <
      (s.toList.flatMap escapeChar ++ '"' :: rest).length.succ := by
    have grows := length_le_flatMap_escapeChar s.toList
    rw [List.length_append, List.length_cons]
    omega
  rw [readText_escaped _ _ _ enough]
  simp

/-- A character that a number goes on with. -/
def isNumeric (c : Char) : Bool :=
  c.isDigit || c == '.' || c == 'e' || c == 'E'

theorem natOfDigits_toDigits (n : Nat) : natOfDigits (Nat.toDigits 10 n) = n := by
  have value := @Nat.ofDigitChars_ten_toDigits n
  simp only [Nat.ofDigitChars_eq_foldl, Nat.mul_comm 10] at value
  exact value

theorem digits_toDigits (n : Nat) {rest : List Char} (stops : Stops isNumeric rest) :
    digits (Nat.toDigits 10 n ++ rest) = (Nat.toDigits 10 n, rest) := by
  have ends : Stops Char.isDigit rest := fun c first => by
    have other := stops c first
    simp only [isNumeric, Bool.or_eq_false_iff] at other
    exact other.1.1.1
  obtain ⟨front, behind⟩ := span_of_stops (fun _ member => isDigit_of_mem member) ends
  rw [digits, front, behind]

theorem readFraction_of_stops {rest : List Char} (stops : Stops isNumeric rest) :
    readFraction rest = some ([], rest) := by
  cases rest with
  | nil => rfl
  | cons c rest =>
      have other := stops c (by simp)
      have point : c ≠ '.' := by
        rintro rfl
        contradiction
      rw [readFraction]
      simp [point]

theorem readExponent_of_stops {rest : List Char} (stops : Stops isNumeric rest) :
    readExponent rest = some ([], rest) := by
  cases rest with
  | nil => rfl
  | cons c rest =>
      have other := stops c (by simp)
      have mark : ¬ (c = 'e' ∨ c = 'E') := by
        rintro (rfl | rfl) <;> contradiction
      unfold readExponent
      split <;> simp_all

theorem readMagnitude_toDigits (n : Nat) {negative : Bool} (signed : negative = true → n ≠ 0)
    {rest : List Char} (stops : Stops isNumeric rest) :
    readMagnitude negative (Nat.toDigits 10 n ++ rest) =
      some (.whole (if negative then -Int.ofNat n else Int.ofNat n), rest) := by
  have nonzero : (negative && n == 0) = false := by
    cases negative with
    | false => rfl
    | true => simpa using signed rfl
  simp only [readMagnitude, digits_toDigits n stops]
  split
  · next none => exact absurd none Nat.toDigits_ne_nil
  · next c ds leading => exact absurd leading (toDigits_ne_zero_cons n c ds)
  · simp [readFraction_of_stops stops, readExponent_of_stops stops, natOfDigits_toDigits, nonzero]

/-- Lines between brackets from the first one on, without the blanks in front of it. -/
def itemLines (depth : Nat) (closing : Char) : List (List Char) → List Char
  | [] => [closing]
  | [line] => line ++ '\n' :: (indent depth).toList ++ [closing]
  | line :: next :: lines =>
    line ++ ',' :: '\n' :: (indent (depth + 1)).toList ++ itemLines depth closing (next :: lines)

theorem intercalate_eq_itemLines (depth : Nat) (closing : Char) (line : List Char)
    (lines : List (List Char)) :
    [',', '\n'].intercalate ((line :: lines).map ((indent (depth + 1)).toList ++ ·)) ++
        '\n' :: (indent depth).toList ++ [closing] =
      (indent (depth + 1)).toList ++ itemLines depth closing (line :: lines) := by
  induction lines generalizing line with
  | nil => simp [itemLines]
  | cons next lines ih =>
      rw [itemLines, List.map_cons, List.map_cons, List.intercalate_cons_cons, ← List.map_cons]
      simp only [List.append_assoc, List.cons_append, List.nil_append] at ih ⊢
      rw [ih next]

theorem toList_bracketed (opening : String) {closing : String} {mark : Char}
    (closes : closing.toList = [mark]) (depth : Nat) (line : String) (lines : List String) :
    (bracketed opening closing depth (line :: lines)).toList =
      opening.toList ++ '\n' :: (indent (depth + 1)).toList ++
        itemLines depth mark ((line :: lines).map String.toList) := by
  have joined := intercalate_eq_itemLines depth mark line.toList (lines.map String.toList)
  have comma : ",\n".toList = [',', '\n'] := rfl
  have feed : "\n".toList = ['\n'] := rfl
  have moved : (((line :: lines).map (indent (depth + 1) ++ ·)).map String.toList) =
      ((line.toList :: lines.map String.toList).map ((indent (depth + 1)).toList ++ ·)) := by
    simp
  simp only [bracketed, List.isEmpty_cons, Bool.false_eq_true, if_false, String.toList_append,
    String.toList_intercalate, closes, comma, feed, moved, List.append_assoc, List.cons_append,
    List.nil_append] at joined ⊢
  rw [joined]
  rfl

theorem prettyItems_eq_map (depth : Nat) (items : List Json) :
    prettyItems depth items = items.map (prettyAt depth) := by
  induction items with
  | nil => rfl
  | cons item items ih => exact congrArg (prettyAt depth item :: ·) ih

theorem prettyMembers_eq_map (depth : Nat) (members : List (String × Json)) :
    prettyMembers depth members =
      members.map fun (name, member) => quote name ++ ": " ++ prettyAt depth member := by
  induction members with
  | nil => rfl
  | cons member members ih =>
      exact congrArg ((quote member.1 ++ ": " ++ prettyAt depth member.2) :: ·) ih

theorem prettyAt_list (depth : Nat) (items : List Json) :
    prettyAt depth (.list items) = bracketed "[" "]" depth (items.map (prettyAt (depth + 1))) :=
  congrArg (bracketed "[" "]" depth) (prettyItems_eq_map (depth + 1) items)

theorem prettyAt_object (depth : Nat) (members : List (String × Json)) :
    prettyAt depth (.object members) = bracketed "\x7b" "\x7d" depth
      (members.map fun (name, member) => quote name ++ ": " ++ prettyAt (depth + 1) member) :=
  congrArg (bracketed "\x7b" "\x7d" depth) (prettyMembers_eq_map (depth + 1) members)

theorem length_lt_itemLines (depth : Nat) (closing : Char) {line : List Char}
    {lines : List (List Char)} (member : line ∈ lines) :
    line.length < (itemLines depth closing lines).length := by
  induction lines with
  | nil => contradiction
  | cons first lines ih =>
      cases lines with
      | nil =>
          obtain rfl := List.mem_singleton.mp member
          simp [itemLines]
      | cons next lines =>
          rcases List.mem_cons.mp member with rfl | later
          · simp [itemLines]
          · have shorter := ih later
            simp only [itemLines, List.length_append, List.length_cons]
            omega

theorem length_le_itemLines (depth : Nat) (closing : Char) (lines : List (List Char)) :
    lines.length ≤ (itemLines depth closing lines).length := by
  induction lines with
  | nil => exact Nat.zero_le _
  | cons first lines ih =>
      cases lines with
      | nil =>
          simp [itemLines]
          omega
      | cons next lines =>
          simp only [itemLines, List.length_append, List.length_cons] at ih ⊢
          omega

theorem skipBlanks_indent (depth : Nat) (rest : List Char) :
    skipBlanks ('\n' :: ((indent depth).toList ++ rest)) = skipBlanks rest := by
  have spaces : ∀ n, skipBlanks (List.replicate n ' ' ++ rest) = skipBlanks rest := fun n => by
    induction n with
    | zero => rfl
    | succ n ih => rw [← ih]; rfl
  rw [indent, String.toList_ofList, ← spaces (2 * depth)]
  rfl

/-- Whether a value is written so that it can be read as itself: nothing in it stands as it was
    written. -/
inductive IsPlain : Json → Prop where
  | null : IsPlain .null
  | bool (value : Bool) : IsPlain (.bool value)
  | whole (value : Int) : IsPlain (.whole value)
  | text (value : String) : IsPlain (.text value)
  | list {items : List Json} (plain : ∀ item ∈ items, IsPlain item) : IsPlain (.list items)
  | object {members : List (String × Json)} (plain : ∀ member ∈ members, IsPlain member.2) :
    IsPlain (.object members)

theorem toList_quote (s : String) :
    (quote s).toList = '"' :: (s.toList.flatMap escapeChar ++ ['"']) := by
  simp [quote]

theorem toList_null (depth : Nat) : (prettyAt depth .null).toList = ['n', 'u', 'l', 'l'] := by
  change "null".toList = _
  rfl

theorem toList_true (depth : Nat) :
    (prettyAt depth (.bool true)).toList = ['t', 'r', 'u', 'e'] := by
  change "true".toList = _
  rfl

theorem toList_false (depth : Nat) :
    (prettyAt depth (.bool false)).toList = ['f', 'a', 'l', 's', 'e'] := by
  change "false".toList = _
  rfl

theorem toList_ofNat (depth n : Nat) :
    (prettyAt depth (.whole (Int.ofNat n))).toList = Nat.toDigits 10 n :=
  toList_toString n

theorem toList_negSucc (depth n : Nat) :
    (prettyAt depth (.whole (Int.negSucc n))).toList = '-' :: Nat.toDigits 10 (n + 1) := by
  have signed : prettyAt depth (.whole (Int.negSucc n)) = "-" ++ toString (n + 1) := rfl
  rw [signed, String.toList_append, toList_toString]
  rfl

theorem toList_text (depth : Nat) (s : String) :
    (prettyAt depth (.text s)).toList = '"' :: (s.toList.flatMap escapeChar ++ ['"']) :=
  toList_quote s

theorem toList_empty_list (depth : Nat) : (prettyAt depth (.list [])).toList = ['[', ']'] := by
  change ("[" ++ "]").toList = _
  rfl

theorem toList_empty_object (depth : Nat) :
    (prettyAt depth (.object [])).toList = ['\x7b', '\x7d'] := by
  change ("\x7b" ++ "\x7d").toList = _
  rfl

/-- The lines of the items of a list. -/
def itemTexts (depth : Nat) (items : List Json) : List (List Char) :=
  items.map fun item => (prettyAt depth item).toList

theorem toList_list (depth : Nat) (item : Json) (items : List Json) :
    (prettyAt depth (.list (item :: items))).toList =
      '[' :: '\n' :: ((indent (depth + 1)).toList ++
        itemLines depth ']' (itemTexts (depth + 1) (item :: items))) := by
  have closes : "]".toList = [']'] := rfl
  rw [prettyAt_list, List.map_cons, toList_bracketed "[" closes]
  simp [itemTexts, Function.comp_def]

/-- The line of a member in an object. -/
def memberLine (depth : Nat) (member : String × Json) : List Char :=
  '"' :: (member.1.toList.flatMap escapeChar ++ '"' :: ':' :: ' ' ::
    (prettyAt depth member.2).toList)

theorem toList_object (depth : Nat) (member : String × Json) (members : List (String × Json)) :
    (prettyAt depth (.object (member :: members))).toList =
      '\x7b' :: '\n' :: ((indent (depth + 1)).toList ++
        itemLines depth '\x7d' ((member :: members).map (memberLine (depth + 1)))) := by
  have closes : "\x7d".toList = ['\x7d'] := rfl
  have line : ∀ member : String × Json,
      (quote member.1 ++ ": " ++ prettyAt (depth + 1) member.2).toList =
        memberLine (depth + 1) member := fun member => by
    simp [memberLine, toList_quote]
  rw [prettyAt_object, List.map_cons, toList_bracketed "\x7b" closes]
  simp [Function.comp_def, line]

theorem not_mem_of_isDigit {c : Char} (digit : c.isDigit = true) :
    c ∉ [' ', '\t', '\n', '\r', ']', 'n', 't', 'f', '"', '-', '[', '\x7b'] := by
  have marks : ([' ', '\t', '\n', '\r', ']', 'n', 't', 'f', '"', '-', '[', '\x7b'].all
      fun mark => !mark.isDigit) = true := by decide
  intro member
  have other := List.all_eq_true.mp marks c member
  rw [digit] at other
  contradiction

/-- A value begins with a character that is neither a blank nor closes a list. -/
theorem exists_cons_prettyAt {json : Json} (plain : json.IsPlain) (depth : Nat) :
    ∃ c cs, (prettyAt depth json).toList = c :: cs ∧ c ∉ [' ', '\t', '\n', '\r', ']'] := by
  cases plain with
  | null => exact ⟨_, _, toList_null depth, by decide⟩
  | bool value =>
      cases value with
      | false => exact ⟨_, _, toList_false depth, by decide⟩
      | true => exact ⟨_, _, toList_true depth, by decide⟩
  | whole value =>
      cases value with
      | ofNat n =>
          obtain ⟨c, ds, digits, digit⟩ := exists_cons_toDigits n
          have other := not_mem_of_isDigit digit
          simp only [List.mem_cons, not_or] at other
          exact ⟨c, ds, (toList_ofNat depth n).trans digits, by simp [other]⟩
      | negSucc n => exact ⟨_, _, toList_negSucc depth n, by decide⟩
  | text value => exact ⟨_, _, toList_text depth value, by decide⟩
  | @list items =>
      cases items with
      | nil => exact ⟨_, _, toList_empty_list depth, by decide⟩
      | cons item items => exact ⟨_, _, toList_list depth item items, by decide⟩
  | @object members =>
      cases members with
      | nil => exact ⟨_, _, toList_empty_object depth, by decide⟩
      | cons member members => exact ⟨_, _, toList_object depth member members, by decide⟩

theorem skipBlanks_of_not_mem {c : Char} (solid : c ∉ [' ', '\t', '\n', '\r'])
    (rest : List Char) : skipBlanks (c :: rest) = c :: rest := by
  simp only [List.mem_cons, List.not_mem_nil, or_false, not_or] at solid
  simp [skipBlanks, solid]

theorem skipBlanks_prettyAt {json : Json} (plain : json.IsPlain) (depth : Nat) (rest : List Char) :
    skipBlanks ((prettyAt depth json).toList ++ rest) = (prettyAt depth json).toList ++ rest := by
  obtain ⟨c, cs, first, solid⟩ := exists_cons_prettyAt plain depth
  simp only [List.mem_cons, List.not_mem_nil, or_false, not_or] at solid
  rw [first]
  exact skipBlanks_of_not_mem (by simp [solid]) _

theorem exists_cons_itemLines (depth : Nat) (closing c : Char) (cs : List Char)
    (lines : List (List Char)) :
    ∃ more, itemLines depth closing ((c :: cs) :: lines) = c :: more := by
  cases lines with
  | nil => exact ⟨_, rfl⟩
  | cons next lines => exact ⟨_, rfl⟩

theorem exists_cons_itemTexts {item : Json} (plain : item.IsPlain) (items : List Json)
    (depth : Nat) :
    ∃ c more, itemLines depth ']' (itemTexts (depth + 1) (item :: items)) = c :: more ∧
      c ∉ [' ', '\t', '\n', '\r', ']'] := by
  obtain ⟨c, cs, first, solid⟩ := exists_cons_prettyAt plain (depth + 1)
  obtain ⟨more, lines⟩ := exists_cons_itemLines depth ']' c cs (itemTexts (depth + 1) items)
  refine ⟨c, more, ?_, solid⟩
  rw [← lines, ← first]
  rfl

/-- How a value is read, by what it begins with. -/
structure ReadsByStart (depth : Nat) (cs : List Char) : Prop where
  null : ∀ {rest}, skipBlanks cs = 'n' :: 'u' :: 'l' :: 'l' :: rest →
    readValue (depth + 1) cs = some (.null, rest)
  yes : ∀ {rest}, skipBlanks cs = 't' :: 'r' :: 'u' :: 'e' :: rest →
    readValue (depth + 1) cs = some (.bool true, rest)
  no : ∀ {rest}, skipBlanks cs = 'f' :: 'a' :: 'l' :: 's' :: 'e' :: rest →
    readValue (depth + 1) cs = some (.bool false, rest)
  text : ∀ {s : String} {rest},
    skipBlanks cs = '"' :: (s.toList.flatMap escapeChar ++ '"' :: rest) →
    readValue (depth + 1) cs = some (.text s, rest)
  number : ∀ {c : Char} {rest}, c.isDigit = true → skipBlanks cs = c :: rest →
    readValue (depth + 1) cs = readMagnitude false (c :: rest)
  negative : ∀ {rest}, skipBlanks cs = '-' :: rest →
    readValue (depth + 1) cs = readMagnitude true rest
  emptyList : ∀ {rest}, skipBlanks cs = '[' :: ']' :: rest →
    readValue (depth + 1) cs = some (.list [], rest)
  list : ∀ {c : Char} {behind more}, c ≠ ']' → skipBlanks cs = '[' :: behind →
    skipBlanks behind = c :: more →
    readValue (depth + 1) cs =
      readItems (readValue depth) (c :: more).length.succ [] (c :: more)
  emptyObject : ∀ {rest}, skipBlanks cs = '\x7b' :: '\x7d' :: rest →
    readValue (depth + 1) cs = some (.object [], rest)
  object : ∀ {behind more rest} {members : List (String × Json)},
    skipBlanks cs = '\x7b' :: behind → skipBlanks behind = '"' :: more →
    readMembers (readValue depth) ('"' :: more).length.succ (some []) ('"' :: more) =
      some (some members, rest) →
    readValue (depth + 1) cs = some (.object members, rest)

theorem readsByStart (depth : Nat) (cs : List Char) : ReadsByStart depth cs where
  null start := by simp only [readValue, start]
  yes start := by simp only [readValue, start]
  no start := by simp only [readValue, start]
  text start := by
    simp only [readValue, start, readText_quote]
    rfl
  number digit start := by
    have other := not_mem_of_isDigit digit
    simp only [List.mem_cons, List.not_mem_nil, or_false, not_or] at other
    simp only [readValue, start]
    split <;> simp_all
  negative start := by simp only [readValue, start]
  emptyList start := by
    simp only [readValue, start]
    rfl
  list other start first := by
    simp only [readValue, start, first]
    split
    · simp_all
    · rfl
  emptyObject start := by
    simp only [readValue, start]
    rfl
  object start first read := by
    simp only [readValue, start, first]
    split
    · simp_all
    · simp only [read]
      rfl

theorem readItems_succ {read : List Char → Option (Json × List Char)} {item : Json}
    {cs behind : List Char} (first : read cs = some (item, behind)) (fuel : Nat)
    (before : List Json) :
    readItems read (fuel + 1) before cs =
      match skipBlanks behind with
      | ',' :: rest => readItems read fuel (item :: before) rest
      | ']' :: rest => some (.list (item :: before).reverse, rest)
      | _ => none := by
  simp only [readItems, first]
  rfl

theorem readMembers_succ {read : List Char → Option (Json × List Char)} {name : String}
    {member : Json} {cs rest behind : List Char}
    (text : skipBlanks cs = '"' :: (name.toList.flatMap escapeChar ++ '"' :: ':' :: rest))
    (first : read rest = some (member, behind)) (fuel : Nat) (before : List (String × Json)) :
    readMembers read (fuel + 1) (some before) cs =
      match skipBlanks behind with
      | ',' :: rest => readMembers read fuel (some ((name, member) :: before)) rest
      | '\x7d' :: rest => some (some ((name, member) :: before).reverse, rest)
      | _ => none := by
  have colon : skipBlanks (':' :: rest) = ':' :: rest := skipBlanks_of_not_mem (by decide) rest
  simp only [readMembers, text, readText_quote, Option.bind_eq_bind, Option.bind_some, colon, first]
  rfl

/-- Whether the text of a value is read as the value, behind any blanks and up to where it ends. -/
def ReadsBack (json : Json) : Prop :=
  ∀ (indentation depth : Nat) (cs rest : List Char),
    skipBlanks cs = (prettyAt indentation json).toList ++ rest →
    (prettyAt indentation json).toList.length < depth → Stops isNumeric rest →
    readValue depth cs = some (json, rest)

variable {indentation depth fuel : Nat} {cs rest : List Char}

theorem readItems_itemTexts {item : Json} {items : List Json}
    (plain : ∀ i ∈ item :: items, i.IsPlain) (reads : ∀ i ∈ item :: items, i.ReadsBack)
    (before : List Json)
    (text : skipBlanks cs =
      itemLines indentation ']' (itemTexts (indentation + 1) (item :: items)) ++ rest)
    (enough : (itemLines indentation ']' (itemTexts (indentation + 1) (item :: items))).length ≤
      depth)
    (long : items.length < fuel) :
    readItems (readValue depth) fuel before cs =
      some (.list (before.reverse ++ item :: items), rest) := by
  induction items generalizing item before cs fuel with
  | nil =>
      obtain ⟨fuel, rfl⟩ : ∃ less, fuel = less + 1 := ⟨fuel - 1, by omega⟩
      have short : (prettyAt (indentation + 1) item).toList.length < depth :=
        Nat.lt_of_lt_of_le (length_lt_itemLines indentation ']' List.mem_cons_self) enough
      have first := reads item List.mem_cons_self (indentation + 1) depth cs
        ('\n' :: ((indent indentation).toList ++ ']' :: rest))
        (by simpa [itemTexts, itemLines] using text) short (stops_cons rfl _)
      rw [readItems_succ first, skipBlanks_indent, skipBlanks_of_not_mem (by decide)]
      simp
  | cons next items ih =>
      obtain ⟨fuel, rfl⟩ : ∃ less, fuel = less + 1 := ⟨fuel - 1, by omega⟩
      have short : (prettyAt (indentation + 1) item).toList.length < depth :=
        Nat.lt_of_lt_of_le (length_lt_itemLines indentation ']' List.mem_cons_self) enough
      obtain ⟨c, more, lines, solid⟩ :=
        exists_cons_itemTexts (plain next (by simp)) items indentation
      have split : itemLines indentation ']' (itemTexts (indentation + 1) (item :: next :: items)) =
          (prettyAt (indentation + 1) item).toList ++
            ',' :: '\n' :: ((indent (indentation + 1)).toList ++ c :: more) := by
        rw [← lines]
        simp [itemTexts, itemLines]
      have first := reads item List.mem_cons_self (indentation + 1) depth cs
        (',' :: '\n' :: ((indent (indentation + 1)).toList ++ (c :: more ++ rest)))
        (by simpa [split] using text) short (stops_cons rfl _)
      rw [readItems_succ first, skipBlanks_of_not_mem (by decide)]
      simp only [List.mem_cons, List.not_mem_nil, or_false, not_or] at solid
      simp only [split, List.length_append, List.length_cons] at enough
      have behind : skipBlanks
          ('\n' :: ((indent (indentation + 1)).toList ++ (c :: more ++ rest))) =
            itemLines indentation ']' (itemTexts (indentation + 1) (next :: items)) ++ rest := by
        rw [skipBlanks_indent, lines]
        exact skipBlanks_of_not_mem (by simp [solid]) _
      have later := ih (fun i member => plain i (List.mem_cons_of_mem _ member))
        (fun i member => reads i (List.mem_cons_of_mem _ member)) (item :: before) behind
        (by rw [lines, List.length_cons]; omega) (Nat.lt_of_succ_lt_succ long)
      simpa using later

theorem readMembers_memberLine {member : String × Json} (plain : member.2.IsPlain)
    (reads : member.2.ReadsBack) (before : List (String × Json))
    (text : skipBlanks cs = memberLine indentation member ++ rest)
    (enough : (memberLine indentation member).length ≤ depth) (stops : Stops isNumeric rest) :
    readMembers (readValue depth) (fuel + 1) (some before) cs =
      match skipBlanks rest with
      | ',' :: rest => readMembers (readValue depth) fuel (some (member :: before)) rest
      | '\x7d' :: rest => some (some (member :: before).reverse, rest)
      | _ => none := by
  have value : skipBlanks (' ' :: ((prettyAt indentation member.2).toList ++ rest)) =
      (prettyAt indentation member.2).toList ++ rest := skipBlanks_prettyAt plain indentation rest
  have short : (prettyAt indentation member.2).toList.length < depth := by
    simp only [memberLine, List.length_cons, List.length_append] at enough
    omega
  refine readMembers_succ ?_ (reads indentation _ _ _ value short stops) fuel before
  simpa [memberLine] using text

theorem readMembers_memberTexts {member : String × Json} {members : List (String × Json)}
    (plain : ∀ m ∈ member :: members, m.2.IsPlain)
    (reads : ∀ m ∈ member :: members, m.2.ReadsBack) (before : List (String × Json))
    (text : skipBlanks cs =
      itemLines indentation '\x7d' ((member :: members).map (memberLine (indentation + 1))) ++ rest)
    (enough : (itemLines indentation '\x7d'
      ((member :: members).map (memberLine (indentation + 1)))).length ≤ depth)
    (long : members.length < fuel) :
    readMembers (readValue depth) fuel (some before) cs =
      some (some (before.reverse ++ member :: members), rest) := by
  induction members generalizing member before cs fuel with
  | nil =>
      obtain ⟨fuel, rfl⟩ : ∃ less, fuel = less + 1 := ⟨fuel - 1, by omega⟩
      have short : (memberLine (indentation + 1) member).length < depth :=
        Nat.lt_of_lt_of_le (length_lt_itemLines indentation '\x7d' List.mem_cons_self) enough
      have line : skipBlanks cs = memberLine (indentation + 1) member ++
          '\n' :: ((indent indentation).toList ++ '\x7d' :: rest) := by
        simpa [itemLines] using text
      rw [readMembers_memberLine (plain member List.mem_cons_self)
        (reads member List.mem_cons_self) before line (Nat.le_of_lt short) (stops_cons rfl _),
        skipBlanks_indent, skipBlanks_of_not_mem (by decide)]
      simp
  | cons next members ih =>
      obtain ⟨fuel, rfl⟩ : ∃ less, fuel = less + 1 := ⟨fuel - 1, by omega⟩
      have short : (memberLine (indentation + 1) member).length < depth :=
        Nat.lt_of_lt_of_le (length_lt_itemLines indentation '\x7d' List.mem_cons_self) enough
      obtain ⟨more, lines⟩ := exists_cons_itemLines indentation '\x7d' '"'
        (next.1.toList.flatMap escapeChar ++ '"' :: ':' :: ' ' ::
          (prettyAt (indentation + 1) next.2).toList)
        (members.map (memberLine (indentation + 1)))
      have tail : itemLines indentation '\x7d'
          ((next :: members).map (memberLine (indentation + 1))) = '"' :: more := lines
      have split : itemLines indentation '\x7d'
          ((member :: next :: members).map (memberLine (indentation + 1))) =
            memberLine (indentation + 1) member ++
              ',' :: '\n' :: ((indent (indentation + 1)).toList ++ '"' :: more) := by
        rw [← tail]
        simp [itemLines]
      have line : skipBlanks cs = memberLine (indentation + 1) member ++
          ',' :: '\n' :: ((indent (indentation + 1)).toList ++ ('"' :: more ++ rest)) := by
        rw [text, split]
        simp
      simp only [split, List.length_append, List.length_cons] at enough
      rw [readMembers_memberLine (plain member List.mem_cons_self)
        (reads member List.mem_cons_self) before line (Nat.le_of_lt short) (stops_cons rfl _),
        skipBlanks_of_not_mem (by decide)]
      have behind : skipBlanks
          ('\n' :: ((indent (indentation + 1)).toList ++ ('"' :: more ++ rest))) =
            itemLines indentation '\x7d'
              ((next :: members).map (memberLine (indentation + 1))) ++ rest := by
        rw [skipBlanks_indent, tail]
        exact skipBlanks_of_not_mem (by decide) _
      have later := ih (fun m inside => plain m (List.mem_cons_of_mem _ inside))
        (fun m inside => reads m (List.mem_cons_of_mem _ inside)) (member :: before) behind
        (by rw [tail, List.length_cons]; omega) (Nat.lt_of_succ_lt_succ long)
      simpa using later

theorem readsBack_whole (value : Int) : (Json.whole value).ReadsBack := by
  intro indentation depth cs rest text enough stops
  obtain ⟨depth, rfl⟩ : ∃ less, depth = less + 1 := ⟨depth - 1, by omega⟩
  cases value with
  | ofNat n =>
      obtain ⟨c, ds, digits, digit⟩ := exists_cons_toDigits n
      have number := @readMagnitude_toDigits n false (by simp) rest stops
      rw [toList_ofNat, digits] at text
      rw [digits] at number
      rw [(readsByStart depth cs).number digit text]
      exact number
  | negSucc n =>
      have number := @readMagnitude_toDigits (n + 1) true (by simp) rest stops
      simp only [toList_negSucc, List.cons_append] at text
      rw [(readsByStart depth cs).negative text]
      exact number

theorem readsBack_list {items : List Json} (plain : ∀ item ∈ items, item.IsPlain)
    (reads : ∀ item ∈ items, item.ReadsBack) : (Json.list items).ReadsBack := by
  intro indentation depth cs rest text enough _
  obtain ⟨depth, rfl⟩ : ∃ less, depth = less + 1 := ⟨depth - 1, by omega⟩
  cases items with
  | nil =>
      simp only [toList_empty_list, List.cons_append, List.nil_append] at text
      exact (readsByStart depth cs).emptyList text
  | cons item items =>
      obtain ⟨c, more, lines, solid⟩ :=
        exists_cons_itemTexts (plain item List.mem_cons_self) items indentation
      simp only [List.mem_cons, List.not_mem_nil, or_false, not_or] at solid
      have counted := length_le_itemLines indentation ']'
        (itemTexts (indentation + 1) (item :: items))
      rw [toList_list, lines] at text enough
      simp only [List.cons_append, List.append_assoc] at text
      simp only [List.length_cons, List.length_append] at enough
      have behind : skipBlanks ('\n' :: ((indent (indentation + 1)).toList ++
          c :: (more ++ rest))) = c :: (more ++ rest) := by
        rw [skipBlanks_indent]
        exact skipBlanks_of_not_mem (by simp [solid]) _
      rw [(readsByStart depth cs).list solid.2.2.2.2 text behind]
      refine @readItems_itemTexts indentation depth _ _ rest item items plain reads [] ?_ ?_ ?_
      · rw [lines]
        exact skipBlanks_of_not_mem (by simp [solid]) _
      · rw [lines, List.length_cons]
        omega
      · rw [itemTexts, List.length_map, ← itemTexts, lines] at counted
        simp only [List.length_cons, List.length_append] at counted ⊢
        omega

theorem readsBack_object {members : List (String × Json)}
    (plain : ∀ member ∈ members, member.2.IsPlain)
    (reads : ∀ member ∈ members, member.2.ReadsBack) : (Json.object members).ReadsBack := by
  intro indentation depth cs rest text enough _
  obtain ⟨depth, rfl⟩ : ∃ less, depth = less + 1 := ⟨depth - 1, by omega⟩
  cases members with
  | nil =>
      simp only [toList_empty_object, List.cons_append, List.nil_append] at text
      exact (readsByStart depth cs).emptyObject text
  | cons member members =>
      obtain ⟨more, lines⟩ := exists_cons_itemLines indentation '\x7d' '"'
        (member.1.toList.flatMap escapeChar ++ '"' :: ':' :: ' ' ::
          (prettyAt (indentation + 1) member.2).toList)
        (members.map (memberLine (indentation + 1)))
      have all : itemLines indentation '\x7d'
          ((member :: members).map (memberLine (indentation + 1))) = '"' :: more := lines
      have counted := length_le_itemLines indentation '\x7d'
        ((member :: members).map (memberLine (indentation + 1)))
      rw [toList_object, all] at text enough
      simp only [List.cons_append, List.append_assoc] at text
      simp only [List.length_cons, List.length_append] at enough
      have behind : skipBlanks ('\n' :: ((indent (indentation + 1)).toList ++
          '"' :: (more ++ rest))) = '"' :: (more ++ rest) := by
        rw [skipBlanks_indent]
        exact skipBlanks_of_not_mem (by decide) _
      refine (readsByStart depth cs).object text behind
        (@readMembers_memberTexts indentation depth _ _ rest member members plain reads [] ?_ ?_ ?_)
      · rw [all]
        exact skipBlanks_of_not_mem (by decide) _
      · rw [all, List.length_cons]
        omega
      · rw [List.length_map, all] at counted
        simp only [List.length_cons, List.length_append] at counted ⊢
        omega

theorem IsPlain.readsBack {json : Json} (plain : json.IsPlain) : json.ReadsBack := by
  induction plain with
  | null =>
      intro indentation depth cs rest text enough _
      obtain ⟨depth, rfl⟩ : ∃ less, depth = less + 1 := ⟨depth - 1, by omega⟩
      simp only [toList_null, List.cons_append, List.nil_append] at text
      exact (readsByStart depth cs).null text
  | bool value =>
      intro indentation depth cs rest text enough _
      obtain ⟨depth, rfl⟩ : ∃ less, depth = less + 1 := ⟨depth - 1, by omega⟩
      cases value with
      | false =>
          simp only [toList_false, List.cons_append, List.nil_append] at text
          exact (readsByStart depth cs).no text
      | true =>
          simp only [toList_true, List.cons_append, List.nil_append] at text
          exact (readsByStart depth cs).yes text
  | whole value => exact readsBack_whole value
  | text value =>
      intro indentation depth cs rest text enough _
      obtain ⟨depth, rfl⟩ : ∃ less, depth = less + 1 := ⟨depth - 1, by omega⟩
      simp only [toList_text, List.cons_append, List.append_assoc, List.nil_append] at text
      exact (readsByStart depth cs).text text
  | list plain reads => exact readsBack_list plain reads
  | object plain reads => exact readsBack_object plain reads

/-- What is printed is read back. -/
theorem IsPlain.parse_pretty {json : Json} (plain : json.IsPlain) :
    parse? json.pretty = some json := by
  have whole : skipBlanks json.pretty.toList = (prettyAt 0 json).toList ++ [] := by
    have solid := skipBlanks_prettyAt plain 0 []
    simpa [pretty] using solid
  have read := plain.readsBack 0 _ _ _ whole (Nat.lt_succ_self _) (stops_nil _)
  simp only [parse?]
  rw [show json.pretty.toList.length.succ = (prettyAt 0 json).toList.length.succ from rfl, read]
  rfl

end ScriptBridge.Json
