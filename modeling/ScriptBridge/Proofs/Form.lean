import Mathlib
import ScriptBridge.Form
import ScriptBridge.Proofs.Table
import ScriptBridge.Proofs.Text.Cutting
import ScriptBridge.Proofs.Text.Digits

/-! # What appending to a field keeps

A field `base[]` appends to what `base` holds. A list gets the value behind its items. A map gets it
under its size, whatever keys it has: an entry that a client put under that number is overwritten.
Nothing is lost as long as every numeral among the keys of a map is below its size, and a form keeps
to that which names no numeral between brackets.
-/

namespace ScriptBridge

/-- Where a list or a map holds something. -/
inductive Slot where
  | index (i : Nat)
  | key (name : String)
  deriving DecidableEq

namespace Value

/-- What a list or a map holds in a slot. -/
def held? : Value → Slot → Option Value
  | .list items, .index i => items[i]?
  | .map entries, .key name => Table.get? name entries
  | _, _ => none

/-- How much a list or a map holds. -/
def size : Value → Nat
  | .list items => items.length
  | .map entries => entries.length
  | _ => 0

/-- The values that hold others. -/
def IsContainer : Value → Prop
  | .list _ | .map _ => True
  | _ => False

/-- One slot holds a text now, and every other slot what it held. -/
def PutsIn (before : Value) (slot : Slot) (text : String) (after : Value) : Prop :=
  after.held? slot = some (.str text) ∧
    ∀ other, other ≠ slot → after.held? other = before.held? other

/-- A text was put into a slot that was free. -/
def Gains (before : Value) (text : String) (after : Value) : Prop :=
  ∃ slot, before.held? slot = none ∧ before.PutsIn slot text after

/-- The slot of a map that the next value goes to. -/
def nextSlot (value : Value) : Slot :=
  .key (toString value.size)

/-- All numerals among the keys of a map are below its size. -/
def Numbered (value : Value) : Prop :=
  ∀ n : Nat, (value.held? (.key (toString n))).isSome → n < value.size

variable {before after : Value} {slot : Slot} {text : String}

theorem PutsIn.gains_iff (puts : before.PutsIn slot text after) :
    before.Gains text after ↔ before.held? slot = none := by
  constructor
  · rintro ⟨other, free, holds, -⟩
    by_cases same : other = slot
    · exact same ▸ free
    · rw [puts.2 other same, free] at holds
      contradiction
  · intro free
    exact ⟨slot, free, puts⟩

theorem Numbered.nextSlot (numbered : before.Numbered) : before.held? before.nextSlot = none := by
  cases holds : before.held? before.nextSlot with
  | none => rfl
  | some value =>
      have below : before.size < before.size := numbered before.size (Option.isSome_of_eq_some holds)
      exact absurd below (Nat.lt_irrefl _)

end Value

namespace Form

open Value

/-- The brackets of a key count if there is something in front of them and nothing behind them, and
    if they are the only ones. -/
theorem splitBrackets_eq_some_iff {key field name : List Char} :
    Target.splitBrackets key = some (field, name) ↔
      key = field ++ '[' :: (name ++ [']']) ∧ field ≠ [] ∧ '[' ∉ field ∧ '[' ∉ name ∧ ']' ∉ name := by
  constructor
  · intro splits
    unfold Target.splitBrackets at splits
    split at splits
    · contradiction
    · next front behind cut =>
        split at splits
        · contradiction
        · next filled =>
            split at splits
            · next closed =>
                dsimp only at splits
                split at splits
                · contradiction
                · next inner =>
                    obtain ⟨rfl, rfl⟩ := Prod.mk.inj (Option.some.inj splits)
                    have whole : behind.dropLast ++ [']'] = behind :=
                      List.dropLast_append_getLast? _ closed
                    refine ⟨?_, by simpa using filled, cutFirst?_free cut, ?_, ?_⟩
                    · rw [whole]
                      exact cutFirst?_eq_some cut
                    · intro member
                      simp [member] at inner
                    · intro member
                      simp [member] at inner
            · contradiction
  · rintro ⟨rfl, filled, free, noOpening, noClosing⟩
    have nonempty : field.isEmpty = false := by simpa using filled
    simp [Target.splitBrackets, cutFirst?_append_mark free, nonempty, noOpening, noClosing]

theorem ofKey_append_brackets {base : String} (filled : base ≠ "") (free : '[' ∉ base.toList) :
    Target.ofKey (base ++ "[]") = .element base := by
  have nonempty : base.toList ≠ [] := by
    intro empty
    exact filled (String.toList_eq_nil_iff.mp empty)
  have pieces : Target.splitBrackets (base ++ "[]").toList = some (base.toList, []) := by
    refine splitBrackets_eq_some_iff.mpr ⟨?_, nonempty, free, List.not_mem_nil, List.not_mem_nil⟩
    simp
  simp only [Target.ofKey, pieces, String.ofList_toList]

theorem putsIn_append_list (items : List Value) (text : String) :
    (Value.list items).PutsIn (.index items.length) text (.list (items ++ [.str text])) := by
  refine ⟨by simp [held?], fun other differs => ?_⟩
  cases other with
  | key name => rfl
  | index i =>
      have elsewhere : i ≠ items.length := fun same => differs (congrArg Slot.index same)
      simp only [held?]
      rcases Nat.lt_or_gt_of_ne elsewhere with inside | beyond
      · exact List.getElem?_append_left inside
      · rw [List.getElem?_eq_none (by simp; omega), List.getElem?_eq_none (by omega)]

theorem putsIn_insert (entries : Table Value) (name text : String) :
    (Value.map entries).PutsIn (.key name) text
      (.map (Table.insert name (.str text) entries)) := by
  refine ⟨by simp [held?, Table.get?_insert], fun other differs => ?_⟩
  cases other with
  | index i => rfl
  | key key =>
      have elsewhere : name ≠ key := fun same => differs (congrArg Slot.key same.symm)
      simp only [held?, Table.get?_insert, if_neg elsewhere]

/-- Appending to a list or a map puts the text into one slot. It gains it just if the map has nothing
    under its size, and a list always does. -/
theorem appendTo_spec {before : Value} (container : before.IsContainer) (text : String) :
    (before.Gains text (appendTo (some before) text) ↔ before.held? before.nextSlot = none) ∧
      (before.held? before.nextSlot ≠ none →
        before.PutsIn before.nextSlot text (appendTo (some before) text)) := by
  cases before with
  | bool | int | str => exact container.elim
  | list items =>
      have puts := putsIn_append_list items text
      have free : (Value.list items).held? (.index items.length) = none := by simp [held?]
      exact ⟨iff_of_true ⟨_, free, puts⟩ rfl, fun taken => absurd rfl taken⟩
  | map entries =>
      have puts := putsIn_insert entries (toString entries.length) text
      exact ⟨puts.gains_iff, fun _ => puts⟩

theorem get?_insert_self {pair : String × String} {target : Target} (filled : pair.1 ≠ "")
    (goes : Target.ofKey pair.1 = target) (fields : Table Value) :
    Table.get? target.field (insert fields pair) =
      some (update (Table.get? target.field fields) target pair.2) := by
  have keyed : ¬ pair.1.isEmpty := by simpa using filled
  simp only [insert, if_neg keyed, goes, Table.get?_insert, if_true]

theorem get?_insert_of_ne {fields : Table Value} {pair : String × String} {field : String}
    (other : (Target.ofKey pair.1).field ≠ field) :
    Table.get? field (insert fields pair) = Table.get? field fields := by
  simp only [insert]
  split
  · rfl
  · rw [Table.get?_insert, if_neg other]

/-- Whether a key names an entry of a field by a numeral. -/
def NamesNumeral (base key : String) : Prop :=
  ∃ n : Nat, Target.ofKey key = .entry base (toString n)

theorem numbered_of_no_keys {value : Value} (keyless : ∀ name, value.held? (.key name) = none) :
    value.Numbered := by
  intro n holds
  simp [keyless] at holds

theorem keys_indexed (items : List Value) :
    (items.zipIdx.map fun (item, i) => ((toString i, item) : String × Value)).map (·.1) =
      (List.range items.length).map toString := by
  rw [List.range_eq_range', ← List.zipIdx_map_snd 0 items, List.map_map, List.map_map]
  rfl

theorem length_indexed (items : List Value) : (indexed items).length = items.length := by
  have distinct : ((List.range items.length).map (toString : Nat → String)).Nodup :=
    List.nodup_range.map fun _ _ => Nat.repr_injective
  rw [indexed, Table.ofPairs, Table.length_insertAll_of_fresh (keys_indexed items ▸ distinct)
    fun _ _ => Table.get?_empty _]
  simp [Table.empty]

theorem numbered_indexed (items : List Value) : (Value.map (indexed items)).Numbered := by
  intro n holds
  simp only [held?, size, length_indexed] at holds ⊢
  by_contra beyond
  have absent : toString n ∉ (List.range items.length).map toString := by
    intro member
    obtain ⟨i, inside, same⟩ := List.mem_map.mp member
    obtain rfl : i = n := Nat.repr_injective same
    exact beyond (List.mem_range.mp inside)
  rw [← keys_indexed] at absent
  rw [indexed, Table.ofPairs, Table.get?_insertAll_of_not_mem absent] at holds
  simp [Table.empty, Table.get?] at holds

/-- A name that is no numeral beyond the size keeps the numerals below it. -/
theorem numbered_insert {entries : Table Value} (numbered : (Value.map entries).Numbered)
    {name : String} (near : ∀ n : Nat, name = toString n → n ≤ entries.length) (text : String) :
    (Value.map (Table.insert name (.str text) entries)).Numbered := by
  intro n holds
  simp only [held?, size, Table.get?_insert] at holds ⊢
  have grows := Table.length_le_length_insert name (.str text) entries
  split at holds
  · next same =>
      have within := near n same
      cases taken : Table.get? name entries with
      | none =>
          have room := Table.length_insert_of_fresh taken (Value.str text)
          omega
      | some old =>
          have below : n < entries.length := numbered n (by rw [held?, ← same, taken]; rfl)
          omega
  · have below : n < entries.length := numbered n holds
    omega

theorem numbered_appendTo {old : Option Value} (numbered : ∀ value ∈ old, value.Numbered)
    (text : String) : (appendTo old text).Numbered := by
  rcases old with _ | ⟨⟨⟩ | ⟨⟩ | ⟨⟩ | items | entries⟩
  case some.map =>
    refine numbered_insert (numbered _ rfl) (fun n same => ?_) text
    exact Nat.le_of_eq (Nat.repr_injective same).symm
  all_goals exact numbered_of_no_keys fun _ => rfl

theorem numbered_putInto {old : Option Value} (numbered : ∀ value ∈ old, value.Numbered)
    {name : String} (named : ∀ n : Nat, name ≠ toString n) (text : String) :
    (putInto old name text).Numbered := by
  have near : ∀ {size} (n : Nat), name = toString n → n ≤ size := fun n same =>
    absurd same (named n)
  have single : (Value.map [(name, .str text)]).Numbered :=
    @numbered_insert [] (numbered_of_no_keys fun _ => rfl) name near text
  rcases old with _ | ⟨⟨⟩ | ⟨⟩ | ⟨⟩ | items | entries⟩
  case some.list => exact numbered_insert (numbered_indexed items) near text
  case some.map => exact numbered_insert (numbered _ rfl) near text
  all_goals exact single

theorem numbered_insert_pair {base : String} {fields : Table Value} {pair : String × String}
    (numbered : ∀ value ∈ Table.get? base fields, value.Numbered)
    (unnamed : ¬ NamesNumeral base pair.1) :
    ∀ value ∈ Table.get? base (insert fields pair), value.Numbered := by
  by_cases filled : pair.1 = ""
  · have same : insert fields pair = fields := if_pos (by simp [filled])
    rwa [same]
  · by_cases here : (Target.ofKey pair.1).field = base
    · rcases goes : Target.ofKey pair.1 with field | field | ⟨field, name⟩
      all_goals
        obtain rfl : field = base := by rw [goes] at here; exact here
        intro value holds
        obtain rfl := Option.some.inj ((get?_insert_self filled goes fields).symm.trans holds)
      · exact numbered_of_no_keys fun _ => rfl
      · exact numbered_appendTo numbered pair.2
      · refine numbered_putInto numbered (fun n same => unnamed ⟨n, ?_⟩) pair.2
        rw [goes, same]
    · rwa [get?_insert_of_ne here]

theorem numbered_ofPairs {base : String} {pairs : List (String × String)}
    (unnamed : ∀ pair ∈ pairs, ¬ NamesNumeral base pair.1) :
    ∀ value ∈ Table.get? base (ofPairs pairs), value.Numbered := by
  suffices run : ∀ fields, (∀ value ∈ Table.get? base fields, value.Numbered) →
      ∀ value ∈ Table.get? base (pairs.foldl insert fields), value.Numbered by
    exact run .empty (by simp [Table.empty, Table.get?])
  induction pairs with
  | nil => exact fun _ numbered => numbered
  | cons pair pairs ih =>
      intro fields numbered
      exact ih (fun later member => unnamed later (List.mem_cons_of_mem _ member)) _
        (numbered_insert_pair numbered (unnamed pair List.mem_cons_self))

/-- What appending to a field does in the middle of a form. The field gains the value, and keeps all
    that it held where it held it, just if it has nothing under its size; otherwise what it has there
    is overwritten. A list has nothing there, and neither has a map, as long as the form named none of
    its entries by a numeral. -/
theorem append_gains_iff {data : Bytes} {front behind : List (String × String)}
    {base text : String} {before : Value}
    (pairs : UrlEncoded.pairs data = front ++ (base ++ "[]", text) :: behind)
    (filled : base ≠ "") (free : '[' ∉ base.toList)
    (holds : Table.get? base (ofPairs front) = some before) (container : before.IsContainer) :
    ∃ fields after, decode data = .map (behind.foldl insert fields) ∧
      Table.get? base fields = some after ∧
      (∀ other, other ≠ base → Table.get? other fields = Table.get? other (ofPairs front)) ∧
      (before.Gains text after ↔ before.held? before.nextSlot = none) ∧
      (before.held? before.nextSlot ≠ none → before.PutsIn before.nextSlot text after) ∧
      ((∀ pair ∈ front, ¬ NamesNumeral base pair.1) → before.Gains text after) := by
  have goes := ofKey_append_brackets filled free
  have keyed : base ++ "[]" ≠ "" := by simp
  have updated : Table.get? base (insert (ofPairs front) (base ++ "[]", text)) =
      some (appendTo (some before) text) := by
    rw [← holds]
    exact @get?_insert_self (base ++ "[]", text) (.element base) keyed goes (ofPairs front)
  obtain ⟨gains, overwrites⟩ := appendTo_spec container text
  refine ⟨insert (ofPairs front) (base ++ "[]", text), _, ?_, updated, ?_, gains, overwrites, ?_⟩
  · rw [decode, pairs, ofPairs, List.foldl_append]
    rfl
  · intro other differs
    refine get?_insert_of_ne ?_
    rw [goes]
    exact Ne.symm differs
  · intro unnamed
    exact gains.mpr (numbered_ofPairs unnamed before holds).nextSlot

/-- A list that became a map by an entry with a name, and grows on. -/
theorem append_gains_of_named_entry :
    let data := utf8 "a[]=1&a[k]=2&a[]=3&b=4"
    let front := [("a[]", "1"), ("a[k]", "2")]
    let before : Value := .map [("0", .str "1"), ("k", .str "2")]
    UrlEncoded.pairs data = front ++ ("a" ++ "[]", "3") :: [("b", "4")] ∧ "a" ≠ "" ∧
      '[' ∉ "a".toList ∧ Table.get? "a" (ofPairs front) = some before ∧ before.IsContainer ∧
      (∀ pair ∈ front, ¬ NamesNumeral "a" pair.1) ∧
      ∃ fields after, decode data = .map ([("b", "4")].foldl insert fields) ∧
        Table.get? "a" fields = some after ∧ before.Gains "3" after := by
  intro data front before
  have pairs : UrlEncoded.pairs data = front ++ ("a" ++ "[]", "3") :: [("b", "4")] := by
    decide +kernel
  have holds : Table.get? "a" (ofPairs front) = some before := by rfl
  have unnamed : ∀ pair ∈ front, ¬ NamesNumeral "a" pair.1 := by
    rintro pair member ⟨n, named⟩
    rcases List.mem_pair.mp member with rfl | rfl
    · rw [show Target.ofKey "a[]" = .element "a" by decide +kernel] at named
      contradiction
    · rw [show Target.ofKey "a[k]" = .entry "a" "k" by decide +kernel] at named
      have digit : 'k' ∈ Nat.toDigits 10 n := by
        rw [← toList_toString, ← (Target.entry.inj named).2]
        exact List.mem_singleton_self _
      exact absurd (isDigit_of_mem digit) (by decide)
  obtain ⟨fields, after, reads, grown, -, -, -, gains⟩ :=
    append_gains_iff pairs (by decide) (by decide) holds trivial
  exact ⟨pairs, by decide, by decide, holds, trivial, unnamed, fields, after, reads, grown,
    gains unnamed⟩

/-- A client names the entry that the next value goes to. -/
theorem append_loses_entry_at_size :
    let data := utf8 "a[1]=x&a[]=y"
    let front := [("a[1]", "x")]
    let before : Value := .map [("1", .str "x")]
    let after : Value := .map [("1", .str "y")]
    UrlEncoded.pairs data = front ++ [("a" ++ "[]", "y")] ∧
      Table.get? "a" (ofPairs front) = some before ∧ before.IsContainer ∧
      decode data = .map [("a", after)] ∧ ¬ before.Gains "y" after := by
  intro data front before after
  have pairs : UrlEncoded.pairs data = front ++ [("a" ++ "[]", "y")] := by decide +kernel
  have puts : before.PutsIn (.key "1") "y" after := putsIn_insert [("1", .str "x")] "1" "y"
  refine ⟨pairs, rfl, trivial, ?_, fun gains => ?_⟩
  · rw [decode, pairs]
    rfl
  · have free : before.held? (.key "1") = none := puts.gains_iff.mp gains
    contradiction

end Form

end ScriptBridge
