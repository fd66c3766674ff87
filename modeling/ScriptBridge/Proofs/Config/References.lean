import ScriptBridge.Config.Expansion
import ScriptBridge.Proofs.Json.Literals

/-! # Texts without references

A reference is written with its name between braces, and maybe with a default in front of the
closing one. A text in which no reference stands is left as it is by expansion. In what is printed
of a value a reference opens within a text or a name, so leaving out some of these makes none.
-/

namespace ScriptBridge

namespace Expansion

/-- Whether a reference can be written: its name is one of a variable, and its default does not
    close it. -/
structure Reference.IsProper (reference : Reference) : Prop where
  start : ∃ c cs, reference.name = c :: cs ∧ isNameStart c = true
  name : ∀ c ∈ reference.name, isNameChar c = true
  fallback : ∀ fallback, reference.fallback = some fallback → '\x7d' ∉ fallback

/-- How a reference begins, up to where its default stands. -/
def Reference.opening (reference : Reference) : List Char :=
  '$' :: '\x7b' :: (reference.name ++
    match reference.fallback with
    | none => ['\x7d']
    | some _ => [':', '-'])

/-- How a reference is written: `${NAME}` or `${NAME:-default}`. -/
def Reference.written (reference : Reference) : List Char :=
  reference.opening ++
    match reference.fallback with
    | none => []
    | some fallback => fallback ++ ['\x7d']

/-- Whether a reference stands somewhere in a text. -/
def Refers (s : String) : Prop :=
  ∃ reference : Reference, reference.IsProper ∧ reference.written <:+: s.toList

theorem cutBrace_eq {cs inside behind : List Char} (cut : cutBrace cs = some (inside, behind)) :
    cs = inside ++ '\x7d' :: behind ∧ '\x7d' ∉ inside := by
  induction cs generalizing inside behind with
  | nil => contradiction
  | cons c cs ih =>
      by_cases brace : c = '\x7d'
      · subst brace
        obtain ⟨rfl, rfl⟩ := Prod.mk.inj (Option.some.inj cut)
        exact ⟨rfl, List.not_mem_nil⟩
      · rw [cutBrace] at cut
        · obtain ⟨⟨front, rest⟩, before, same⟩ := Option.map_eq_some_iff.mp cut
          obtain ⟨rfl, rfl⟩ := Prod.mk.inj same
          obtain ⟨rfl, missing⟩ := ih before
          exact ⟨rfl, by simp [missing, Ne.symm brace]⟩
        · exact brace

theorem isNameChar_of_isNameStart {c : Char} (start : isNameStart c = true) :
    isNameChar c = true := by
  simp only [isNameStart, isNameChar, Char.isAlphanum, Bool.or_eq_true] at start ⊢
  exact start.imp_left Or.inl

theorem readName_eq {cs name rest : List Char} (read : readName cs = some (name, rest)) :
    cs = name ++ rest ∧ (∃ c more, name = c :: more ∧ isNameStart c = true) ∧
      ∀ c ∈ name, isNameChar c = true := by
  cases cs with
  | nil => contradiction
  | cons c cs =>
      rw [readName] at read
      split at read
      · next start =>
          obtain ⟨rfl, rfl⟩ := Prod.mk.inj (Option.some.inj read)
          refine ⟨List.takeWhile_append_dropWhile.symm, ⟨c, cs.takeWhile isNameChar, ?_, start⟩, ?_⟩
          · rw [List.takeWhile_cons, if_pos (isNameChar_of_isNameStart start)]
          · exact List.all_eq_true.mp List.all_takeWhile
      · contradiction

theorem readReference_eq {cs rest : List Char} {reference : Reference}
    (read : readReference cs = some (reference, rest)) :
    reference.IsProper ∧ '$' :: cs = reference.written ++ rest := by
  unfold readReference at read
  split at read
  · next cs =>
      obtain ⟨⟨name, behind⟩, named, tail⟩ := Option.bind_eq_some_iff.mp read
      obtain ⟨rfl, start, all⟩ := readName_eq named
      dsimp only at tail
      split at tail
      · obtain ⟨rfl, rfl⟩ := Prod.mk.inj (Option.some.inj tail)
        exact ⟨⟨start, all, by simp⟩, by simp [Reference.written, Reference.opening]⟩
      · obtain ⟨⟨fallback, behind⟩, cut, last⟩ := Option.bind_eq_some_iff.mp tail
        obtain ⟨rfl, rfl⟩ := Prod.mk.inj (Option.some.inj last)
        obtain ⟨rfl, missing⟩ := cutBrace_eq cut
        exact ⟨⟨start, all, by simpa using missing⟩,
          by simp [Reference.written, Reference.opening]⟩
      · contradiction
  · contradiction

theorem pieces_eq_map {cs : List Char}
    (none : ∀ reference : Reference, reference.IsProper → ¬reference.written <:+: cs)
    {fuel : Nat} (enough : cs.length ≤ fuel) : pieces fuel cs = cs.map .char := by
  induction cs generalizing fuel with
  | nil => cases fuel <;> rfl
  | cons c cs ih =>
      obtain ⟨fuel, rfl⟩ : ∃ less, fuel = less + 1 := ⟨fuel - 1, by simp at enough; omega⟩
      have rest := ih (fun reference proper inside => none reference proper (List.infix_cons inside))
        (Nat.le_of_succ_le_succ enough)
      by_cases dollar : c = '$'
      · subst dollar
        cases read : readReference cs with
        | none => simp only [pieces, read, rest, List.map_cons]
        | some found =>
            obtain ⟨reference, behind⟩ := found
            obtain ⟨proper, text⟩ := readReference_eq read
            exact absurd (text ▸ (List.prefix_append _ _).isInfix) (none reference proper)
      · rw [pieces, rest, List.map_cons]
        exact fun same => dollar same

theorem assemble_map_char (vars : Table String) (cs : List Char) :
    assemble vars (cs.map .char) = .ok cs := by
  induction cs with
  | nil => rfl
  | cons c cs ih =>
      rw [List.map_cons, assemble, ih]
      rfl

theorem expand_of_not_refers {s : String} (plain : ¬Refers s) (vars : Table String) :
    expand vars s = .ok s := by
  have none : ∀ reference : Reference, reference.IsProper → ¬reference.written <:+: s.toList :=
    fun reference proper inside => plain ⟨reference, proper, inside⟩
  rw [expand, pieces_eq_map none (Nat.le_of_eq String.length_toList), assemble_map_char]
  simp [Except.map]

theorem Reference.IsProper.unquoted {reference : Reference} (proper : reference.IsProper) :
    '"' ∉ reference.opening := by
  have named : '"' ∉ reference.name := fun member =>
    absurd (proper.name '"' member) (by decide)
  cases fallback : reference.fallback with
  | none => simp [Reference.opening, fallback, named]
  | some text => simp [Reference.opening, fallback, named]

/-- Where a reference opens, one stands if there is a brace at the end of the text. -/
theorem refers_of_opening {s : String} {front : List Char} (ends : s.toList = front ++ ['\x7d'])
    {reference : Reference} (proper : reference.IsProper)
    (opens : reference.opening <:+: s.toList) : Refers s := by
  cases fallback : reference.fallback with
  | none =>
      refine ⟨reference, proper, ?_⟩
      rw [Reference.written, fallback, List.append_nil]
      exact opens
  | some text =>
      obtain ⟨before, after, same⟩ := opens
      -- The opening does not end with a brace, so the last brace stands behind it.
      have brace : '\x7d' ∈ after := by
        have last := congrArg List.getLast? (same.trans ends)
        rcases List.eq_nil_or_concat after with rfl | ⟨more, c, rfl⟩
        · have dash : reference.opening = ('$' :: '\x7b' :: reference.name ++ [':']) ++ ['-'] := by
            simp [Reference.opening, fallback]
          rw [dash, List.append_nil, ← List.append_assoc, List.getLast?_concat,
            List.getLast?_concat] at last
          exact absurd last (by decide)
        · have final : c = '\x7d' := by simpa using last
          simp [final]
      obtain ⟨inside, rest, rfl, missing⟩ := List.eq_append_cons_of_mem brace
      refine ⟨⟨reference.name, some inside⟩, ⟨proper.start, proper.name, ?_⟩, before, rest, ?_⟩
      · simpa using missing
      · rw [← same]
        simp [Reference.written, Reference.opening, fallback]

end Expansion

namespace Json

theorem exists_itemLines_append (depth : Nat) (closing : Char) (lines : List (List Char)) :
    ∃ front, itemLines depth closing lines = front ++ [closing] := by
  induction lines with
  | nil => exact ⟨[], rfl⟩
  | cons line lines ih =>
      cases lines with
      | nil => exact ⟨line ++ '\n' :: (indent depth).toList, rfl⟩
      | cons next lines =>
          obtain ⟨front, ends⟩ := ih
          exact ⟨line ++ ',' :: '\n' :: (indent (depth + 1)).toList ++ front,
            by simp [itemLines, ends]⟩

theorem exists_object_append (members : List (String × Json)) :
    ∃ front, (Json.object members).pretty.toList = front ++ ['\x7d'] := by
  cases members with
  | nil => exact ⟨['\x7b'], toList_empty_object 0⟩
  | cons member members =>
      obtain ⟨front, ends⟩ :=
        exists_itemLines_append 0 '\x7d' ((member :: members).map (memberLine 1))
      refine ⟨'\x7b' :: '\n' :: ((indent 1).toList ++ front), ?_⟩
      rw [pretty, toList_object, ends]
      simp

open Expansion in
/-- What is printed of an object has references if what is printed of some of its texts has. -/
theorem IsPlain.refers_of_refers {json : Json} {members : List (String × Json)}
    (plain : json.IsPlain) (whole : (Json.object members).IsPlain)
    (among : ∀ s, json.HasLiteral s → (Json.object members).HasLiteral s)
    (refers : Refers json.pretty) : Refers (Json.object members).pretty := by
  obtain ⟨reference, proper, inside⟩ := refers
  have opens : reference.opening <:+: json.pretty.toList :=
    (List.prefix_append _ _).isInfix.trans inside
  obtain ⟨s, literal, within⟩ := (plain.infix_pretty_iff proper.unquoted).mp opens
  obtain ⟨front, ends⟩ := exists_object_append members
  exact refers_of_opening ends proper
    ((whole.infix_pretty_iff proper.unquoted).mpr ⟨s, among s literal, within⟩)

open Expansion in
theorem IsPlain.not_refers {json : Json} (plain : json.IsPlain)
    (missing : ∀ s ∈ json.literals, '$' ∉ s.toList) : ¬Refers json.pretty := by
  rintro ⟨reference, proper, inside⟩
  have opens : reference.opening <:+: json.pretty.toList :=
    (List.prefix_append _ _).isInfix.trans inside
  obtain ⟨s, literal, within⟩ := (plain.infix_pretty_iff proper.unquoted).mp opens
  exact missing s literal.mem_literals
    (dollar_mem_of_mem_escaped (within.subset List.mem_cons_self))

end Json

end ScriptBridge
