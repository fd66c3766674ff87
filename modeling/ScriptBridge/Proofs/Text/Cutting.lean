import Mathlib.Data.List.DropRight
import ScriptBridge.Text.Blank
import ScriptBridge.Text.Cut

/-! # Cutting and trimming

Parts that are free of a mark come back when they are cut apart at it. Trimming keeps some of the
characters, and none that it trims away at the front. Where both parts are trimmed, it makes no
difference whether the text was trimmed before it was cut.
-/

namespace ScriptBridge

section Parts

variable {α : Type} [BEq α] [LawfulBEq α] {mark : α}

theorem cutParts_free (mark : α) (as : List α) :
    mark ∉ (cutParts mark as).1 ∧ ∀ part ∈ (cutParts mark as).2, mark ∉ part := by
  induction as with
  | nil => simp [cutParts]
  | cons a rest ih =>
      obtain ⟨first, others⟩ := ih
      by_cases eq : a = mark
      · simp only [cutParts, eq, beq_self_eq_true, if_true]
        refine ⟨by simp, fun part member => ?_⟩
        rcases List.mem_cons.mp member with rfl | member
        · exact first
        · exact others part member
      · have ne : (a == mark) = false := by simpa using eq
        simp only [cutParts, ne]
        exact ⟨by simpa [Ne.symm eq] using first, others⟩

theorem cutAll_free (mark : α) (as : List α) :
    ∀ part ∈ cutAll mark as, mark ∉ part := by
  obtain ⟨first, others⟩ := cutParts_free mark as
  intro part member
  rcases List.mem_cons.mp member with rfl | member
  · exact first
  · exact others part member

theorem cutAll_of_free {as : List α} (free : mark ∉ as) : cutAll mark as = [as] := by
  have parts : cutParts mark as = (as, []) := by
    induction as with
    | nil => rfl
    | cons a rest ih =>
        simp only [List.mem_cons, not_or] at free
        obtain ⟨ne, free⟩ := free
        simp [cutParts, ih free, Ne.symm ne]
  rw [cutAll, parts]

/-- Cutting at a mark goes on behind it as from the start. -/
theorem cutAll_append (mark : α) (as bs : List α) :
    cutAll mark (as ++ mark :: bs) = cutAll mark as ++ cutAll mark bs := by
  have parts : cutParts mark (as ++ mark :: bs) =
      ((cutParts mark as).1, (cutParts mark as).2 ++ cutAll mark bs) := by
    induction as with
    | nil => simp [cutParts, cutAll]
    | cons a as ih =>
        simp only [List.cons_append, cutParts, ih]
        split <;> simp
  rw [cutAll, parts]
  rfl

theorem cutAll_append_mark {part : List α} (free : mark ∉ part) (rest : List α) :
    cutAll mark (part ++ mark :: rest) = part :: cutAll mark rest := by
  rw [cutAll_append, cutAll_of_free free, List.singleton_append]

theorem cutFirst?_append_mark {before : List α} (free : mark ∉ before) (behind : List α) :
    cutFirst? mark (before ++ mark :: behind) = some (before, behind) := by
  induction before with
  | nil => simp [cutFirst?]
  | cons a before ih =>
      simp only [List.mem_cons, not_or] at free
      obtain ⟨ne, free⟩ := free
      simp [cutFirst?, ih free, Ne.symm ne]

theorem cutFirst?_free {as before behind : List α}
    (cut : cutFirst? mark as = some (before, behind)) : mark ∉ before := by
  induction as generalizing before with
  | nil => simp [cutFirst?] at cut
  | cons a rest ih =>
      by_cases eq : a = mark
      · simp only [cutFirst?, eq, beq_self_eq_true, if_true, Option.some.injEq] at cut
        obtain ⟨rfl, rfl⟩ := Prod.mk.inj cut
        simp
      · simp only [cutFirst?, beq_eq_false_iff_ne.mpr eq, Bool.false_eq_true, if_false,
          Option.map_eq_some_iff] at cut
        obtain ⟨⟨front, back⟩, found, eq'⟩ := cut
        obtain ⟨rfl, rfl⟩ := Prod.mk.inj eq'
        simpa [Ne.symm eq] using ih found

theorem cutParts_joined (mark : α) (as : List α) :
    (cutParts mark as).1 ++ (cutParts mark as).2.flatMap (mark :: ·) = as := by
  induction as with
  | nil => rfl
  | cons a rest ih =>
      by_cases same : a = mark
      · simp [cutParts, same, ih]
      · simp [cutParts, same, ih]

theorem cutAll_joined {part : List α} {parts : List (List α)}
    (free : ∀ piece ∈ part :: parts, mark ∉ piece) :
    cutAll mark (part ++ parts.flatMap (mark :: ·)) = part :: parts := by
  induction parts generalizing part with
  | nil =>
      rw [List.flatMap_nil, List.append_nil]
      exact cutAll_of_free (free part List.mem_cons_self)
  | cons next parts ih =>
      obtain ⟨first, others⟩ := List.forall_mem_cons.mp free
      rw [List.flatMap_cons, List.cons_append, cutAll_append_mark first, ih others]

end Parts

namespace Text

theorem cutFirst?_eq_some_iff {mark : Char} {s front back : String} :
    Text.cutFirst? mark s = some (front, back) ↔
      s.toList = front.toList ++ mark :: back.toList ∧ mark ∉ front.toList := by
  constructor
  · intro cut
    obtain ⟨⟨before, behind⟩, halves, same⟩ := Option.map_eq_some_iff.mp cut
    obtain ⟨rfl, rfl⟩ := Prod.mk.inj same
    rw [String.toList_ofList, String.toList_ofList]
    exact ⟨cutFirst?_eq_some halves, cutFirst?_free halves⟩
  · rintro ⟨whole, free⟩
    rw [Text.cutFirst?, whole, cutFirst?_append_mark free]
    simp

section Trimming

variable (p : Char → Bool) (cs : List Char)

theorem mem_of_mem_trimChars {c : Char} (member : c ∈ trimChars p cs) : c ∈ cs := by
  have inner := (List.dropWhile_sublist p).mem (List.mem_reverse.mp member)
  exact (List.dropWhile_sublist p).mem (List.mem_reverse.mp inner)

theorem trimChars_isPrefix : trimChars p cs <+: cs.dropWhile p := by
  rw [trimChars, ← List.reverse_suffix, List.reverse_reverse]
  exact List.dropWhile_suffix p

theorem not_of_trimChars_eq_cons {c : Char} {rest : List Char}
    (begins : trimChars p cs = c :: rest) : p c = false := by
  obtain ⟨behind, eq⟩ := trimChars_isPrefix p cs
  rw [begins, List.cons_append] at eq
  have head : (cs.dropWhile p).head? = some c := by rw [← eq]; rfl
  have stops := List.head?_dropWhile_not p cs
  rw [head] at stops
  exact stops

end Trimming

section Halves

variable {p : Char → Bool} {c : Char}

theorem dropWhile_append_cons (stays : p c = false) (as bs : List Char) :
    (as ++ c :: bs).dropWhile p = as.dropWhile p ++ c :: bs := by
  induction as with
  | nil => simp [stays]
  | cons a as ih =>
      rw [List.cons_append, List.dropWhile_cons, List.dropWhile_cons, ih]
      split <;> rfl

theorem rdropWhile_append_cons (stays : p c = false) (as bs : List Char) :
    (as ++ c :: bs).rdropWhile p = as ++ c :: bs.rdropWhile p := by
  have reversed : (as ++ c :: bs).reverse = bs.reverse ++ c :: as.reverse := by simp
  rw [List.rdropWhile, reversed, dropWhile_append_cons stays]
  simp [List.rdropWhile]

theorem trimChars_eq (p : Char → Bool) (cs : List Char) :
    trimChars p cs = (cs.dropWhile p).rdropWhile p := rfl

/-- What stays parts what is trimmed at the front from what is trimmed at the back. -/
theorem trimChars_append_cons (stays : p c = false) (as bs : List Char) :
    trimChars p (as ++ c :: bs) = as.dropWhile p ++ c :: bs.rdropWhile p := by
  rw [trimChars_eq, dropWhile_append_cons stays, rdropWhile_append_cons stays]

theorem trimChars_dropWhile (p : Char → Bool) (cs : List Char) :
    trimChars p (cs.dropWhile p) = trimChars p cs := by
  rw [trimChars_eq, List.dropWhile_idempotent, trimChars_eq]

theorem trimChars_rdropWhile (p : Char → Bool) (cs : List Char) :
    trimChars p (cs.rdropWhile p) = trimChars p cs := by
  by_cases all : ∀ c ∈ cs, p c = true
  · rw [trimChars_eq, trimChars_eq, List.rdropWhile_eq_nil_iff.mpr all,
      List.dropWhile_eq_nil_iff.mpr all]
    rfl
  · simp only [not_forall, Bool.not_eq_true] at all
    obtain ⟨c, member, stays⟩ := all
    obtain ⟨as, bs, rfl⟩ := List.append_of_mem member
    rw [rdropWhile_append_cons stays, trimChars_append_cons stays, trimChars_append_cons stays,
      List.rdropWhile_idempotent]

theorem cutFirst?_trimChars (stays : p c = false) (cs : List Char) :
    ScriptBridge.cutFirst? c (trimChars p cs) =
      (ScriptBridge.cutFirst? c cs).map fun (before, behind) =>
        (before.dropWhile p, behind.rdropWhile p) := by
  cases cut : ScriptBridge.cutFirst? c cs with
  | none =>
      rw [cutFirst?_eq_none] at cut
      exact cutFirst?_eq_none.mpr fun member => cut (mem_of_mem_trimChars p cs member)
  | some halves =>
      obtain ⟨before, behind⟩ := halves
      have free : c ∉ before.dropWhile p := fun member =>
        cutFirst?_free cut ((List.dropWhile_sublist p).mem member)
      rw [cutFirst?_eq_some cut, trimChars_append_cons stays, cutFirst?_append_mark free]
      rfl

end Halves

theorem cutFirst?_trim {mark : Char} (stays : isBlank mark = false) (s : String) :
    (Text.cutFirst? mark (trim s)).map (Prod.map trim trim) =
      (Text.cutFirst? mark s).map (Prod.map trim trim) := by
  rw [Text.cutFirst?, Text.cutFirst?, trim, String.toList_ofList, cutFirst?_trimChars stays]
  simp only [Option.map_map]
  congr 1
  funext halves
  simp [trim, trimChars_dropWhile, trimChars_rdropWhile]

theorem mem_of_mem_trim {c : Char} {s : String} (member : c ∈ (trim s).toList) : c ∈ s.toList := by
  rw [trim, String.toList_ofList] at member
  exact mem_of_mem_trimChars _ _ member

theorem not_isBlank_of_trim {c : Char} {rest : List Char} {s : String}
    (begins : (trim s).toList = c :: rest) : isBlank c = false := by
  rw [trim, String.toList_ofList] at begins
  exact not_of_trimChars_eq_cons _ _ begins

theorem trimLeadingSpaces_append {front : String} (behind : String)
    (begins : ∃ c rest, front.toList = c :: rest ∧ c ≠ ' ') :
    trimLeadingSpaces (" " ++ front ++ behind) = front ++ behind ∧
      trimLeadingSpaces (front ++ behind) = front ++ behind := by
  obtain ⟨c, rest, eq, ne⟩ := begins
  constructor <;> apply String.toList_inj.mp
  · simp [trimLeadingSpaces, eq, ne]
  · simp [trimLeadingSpaces, eq, ne]

end Text

end ScriptBridge
