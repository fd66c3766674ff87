import ScriptBridge.Http.Message
import ScriptBridge.Proofs.Text.Utf8

/-! # How a response is framed

A response that was composed of a status line, a block of header lines and a body is read line by
line. No line holds a line end of its own, so that each of them is read back; but an empty one is
taken for the end of the headers, and what follows it for the body.
-/

namespace ScriptBridge

/-- A text without the characters that a line ends with. -/
def IsLine (line : String) : Prop :=
  '\r' ∉ line.toList ∧ '\n' ∉ line.toList

instance (line : String) : Decidable (IsLine line) :=
  inferInstanceAs (Decidable (_ ∧ _))

/-- Bytes with no line end among them. A lone character of a line end may stand anywhere. -/
def Unbroken (bytes : Bytes) : Prop :=
  ¬ lineEnd <:+: bytes

theorem unbroken_of_not_mem {bytes : Bytes} (free : 13 ∉ bytes) : Unbroken bytes :=
  fun part => free (part.subset (by simp [lineEnd]))

theorem Unbroken.of_cons {b : UInt8} {bytes : Bytes} (unbroken : Unbroken (b :: bytes)) :
    Unbroken bytes :=
  fun part => unbroken (part.trans (List.suffix_cons b bytes).isInfix)

theorem IsLine.unbroken {line : String} (single : IsLine line) : Unbroken (utf8 line) :=
  unbroken_of_not_mem (Utf8.not_mem_encode (by decide) single.1)

theorem Unbroken.ne_lineEnd {b : UInt8} {front : Bytes} (unbroken : Unbroken (b :: front))
    (rest behind : Bytes) : b :: (front ++ lineEnd ++ rest) ≠ lineEnd ++ behind := by
  intro eq
  obtain ⟨rfl, further⟩ := List.cons.inj eq
  -- the line end would end in the line, or in the first byte of the line end behind it
  cases front with
  | nil => exact absurd (List.cons.inj further).1 (by decide)
  | cons c front =>
      obtain ⟨rfl, -⟩ := List.cons.inj further
      exact unbroken ⟨[], front, rfl⟩

/-- Line ends do not overlap: one behind an unbroken line is the first one, and any other is wholly
    behind it. -/
theorem Unbroken.cases {front before rest behind : Bytes} (unbroken : Unbroken front)
    (eq : front ++ lineEnd ++ rest = before ++ lineEnd ++ behind) :
    (before = front ∧ behind = rest) ∨
      ∃ gap, before = front ++ lineEnd ++ gap ∧ rest = gap ++ lineEnd ++ behind := by
  induction front generalizing before with
  | nil =>
      match before, eq with
      | [], eq => exact Or.inl ⟨rfl, (List.append_cancel_left eq).symm⟩
      | [b], eq => exact absurd (List.cons.inj (List.cons.inj eq).2).1 (by decide)
      | b :: c :: gap, eq =>
          obtain ⟨rfl, second⟩ := List.cons.inj eq
          obtain ⟨rfl, further⟩ := List.cons.inj second
          exact Or.inr ⟨gap, rfl, further⟩
  | cons f front ih =>
      cases before with
      | nil =>
          simp only [List.nil_append] at eq
          exact absurd eq (unbroken.ne_lineEnd rest behind)
      | cons b before =>
          obtain ⟨rfl, further⟩ := List.cons.inj eq
          rcases ih unbroken.of_cons further with ⟨rfl, rfl⟩ | ⟨gap, rfl, rfl⟩
          · exact Or.inl ⟨rfl, rfl⟩
          · exact Or.inr ⟨gap, rfl, rfl⟩

theorem exists_first_lineEnd {bytes : Bytes} (broken : ¬ Unbroken bytes) :
    ∃ front rest, Unbroken front ∧ bytes = front ++ lineEnd ++ rest := by
  induction bytes with
  | nil => exact absurd (unbroken_of_not_mem List.not_mem_nil) broken
  | cons b bytes ih =>
      by_cases starts : lineEnd <+: b :: bytes
      · obtain ⟨rest, eq⟩ := starts
        exact ⟨[], rest, unbroken_of_not_mem List.not_mem_nil, eq.symm⟩
      · have further : ¬ Unbroken bytes := fun unbroken =>
          broken fun part => (List.infix_cons_iff.mp part).elim starts unbroken
        obtain ⟨front, rest, unbroken, rfl⟩ := ih further
        refine ⟨b :: front, rest, fun part => ?_, rfl⟩
        rcases List.infix_cons_iff.mp part with begins | inside
        · exact starts (begins.trans ⟨lineEnd ++ rest, by simp⟩)
        · exact unbroken inside

/-- Lines as a block of headers, each with its line end. -/
def fieldBlock (lines : List String) : Bytes :=
  lines.flatMap fun line => utf8 line ++ lineEnd

@[simp]
theorem fieldBlock_cons (line : String) (lines : List String) :
    fieldBlock (line :: lines) = utf8 line ++ lineEnd ++ fieldBlock lines := rfl

/-- The header lines and the body that are read from a block with a body behind it: the headers end
    at the first empty line. -/
def framed (body : Bytes) : List String → List String × Bytes
  | [] => ([], body)
  | line :: rest =>
    if line = "" then ([], fieldBlock rest ++ lineEnd ++ body)
    else (line :: (framed body rest).1, (framed body rest).2)

/-- Lines and body are read as they were written just if no line is empty. -/
theorem framed_eq_iff (body : Bytes) (lines : List String) :
    framed body lines = (lines, body) ↔ "" ∉ lines := by
  induction lines with
  | nil => simp [framed]
  | cons line rest ih =>
      by_cases empty : line = ""
      · simp [framed, empty]
      · simp only [framed, empty, if_false, List.mem_cons, not_or, ← ih, Ne.symm empty,
          not_false_iff, true_and]
        rw [Prod.ext_iff, Prod.ext_iff]
        simp

theorem cutAt?_lineEnd {front : Bytes} (unbroken : Unbroken front) (rest : Bytes) :
    cutAt? lineEnd (front ++ lineEnd ++ rest) = some (front, rest) := by
  induction front with
  | nil => rfl
  | cons b front ih =>
      have none : dropFront? lineEnd (b :: (front ++ lineEnd ++ rest)) = none := by
        rw [Option.eq_none_iff_forall_ne_some]
        intro behind starts
        exact unbroken.ne_lineEnd rest behind (dropFront?_eq_some.mp starts)
      simp only [List.cons_append, cutAt?, none, ih unbroken.of_cons, Option.map_some]

theorem cutAt?_of_unbroken {bytes : Bytes} (unbroken : Unbroken bytes) :
    cutAt? lineEnd bytes = none := by
  induction bytes with
  | nil => rfl
  | cons b bytes ih =>
      have none : dropFront? lineEnd (b :: bytes) = none := by
        rw [Option.eq_none_iff_forall_ne_some]
        intro behind starts
        exact unbroken ⟨[], behind, (dropFront?_eq_some.mp starts).symm⟩
      simp only [cutAt?, none, ih unbroken.of_cons, Option.map_none]

namespace Message

theorem readLines_cons {b : UInt8} {rest : Bytes}
    (inside : ∀ behind, b :: rest ≠ lineEnd ++ behind) (line : Bytes) :
    readLines line (b :: rest) = readLines (b :: line) rest := by
  rw [readLines]
  rintro behind rfl rfl
  exact inside behind rfl

theorem readLines_line {front : Bytes} (unbroken : Unbroken front) (line rest : Bytes) :
    readLines line (front ++ lineEnd ++ rest) =
      if (line.reverse ++ front).isEmpty then some ([], rest)
      else (readLines [] rest).map fun (lines, body) =>
        ((line.reverse ++ front) :: lines, body) := by
  induction front generalizing line with
  | nil => simp [readLines, lineEnd]
  | cons b front ih =>
      simp only [List.cons_append]
      rw [readLines_cons (unbroken.ne_lineEnd rest), ih unbroken.of_cons]
      simp

theorem readLines_of_unbroken {bytes : Bytes} (unbroken : Unbroken bytes) (line : Bytes) :
    readLines line bytes = none := by
  induction bytes generalizing line with
  | nil => rfl
  | cons b bytes ih =>
      rw [readLines_cons, ih unbroken.of_cons]
      intro behind eq
      exact unbroken ⟨[], behind, eq.symm⟩

theorem readLines_block {lines : List String} (single : ∀ line ∈ lines, IsLine line)
    (body : Bytes) :
    readLines [] (fieldBlock lines ++ lineEnd ++ body) =
      some ((framed body lines).1.map utf8, (framed body lines).2) := by
  induction lines with
  | nil => rfl
  | cons line rest ih =>
      have unbroken := (single line List.mem_cons_self).unbroken
      have others := ih fun line member => single line (List.mem_cons_of_mem _ member)
      simp only [fieldBlock_cons, List.append_assoc] at others ⊢
      rw [← List.append_assoc, readLines_line unbroken]
      by_cases empty : line = ""
      · simp [framed, empty]
      · have filled : (utf8 line).isEmpty = false := by simp [empty]
        simp only [List.reverse_nil, List.nil_append, filled, framed, empty, if_false, others,
          Option.map_some, List.map_cons, Bool.false_eq_true]

theorem http_utf8 {status : String} (http : Text.startsWith "HTTP/" status = true) :
    utf8 "HTTP/" <+: utf8 status := by
  obtain ⟨rest, eq⟩ := List.isPrefixOf_iff_prefix.mp http
  refine ⟨Utf8.encodeChars rest, ?_⟩
  simp only [Utf8.encode, ← eq, Utf8.encodeChars_append]

theorem parse_compose {status : String} {lines : List String} (statusLine : IsLine status)
    (http : Text.startsWith "HTTP/" status = true) (single : ∀ line ∈ lines, IsLine line)
    (body : Bytes) :
    parse (compose status (fieldBlock lines) body) =
      .ok ⟨status, (framed body lines).1, (framed body lines).2⟩ := by
  have front : (utf8 "HTTP/").isPrefixOf (utf8 status) = true :=
    List.isPrefixOf_iff_prefix.mpr (http_utf8 http)
  have cut := cutAt?_lineEnd statusLine.unbroken (fieldBlock lines ++ lineEnd ++ body)
  simp only [List.append_assoc] at cut
  have reads := readLines_block single body
  simp only [List.append_assoc] at reads
  simp only [parse, compose, List.append_assoc, cut, front, if_true, reads, List.map_map,
    Function.comp_def, Utf8.decodeLossy_encode, List.map_id']

theorem parse_compose_iff {status : String} {lines : List String} (statusLine : IsLine status)
    (http : Text.startsWith "HTTP/" status = true) (single : ∀ line ∈ lines, IsLine line)
    (body : Bytes) :
    parse (compose status (fieldBlock lines) body) = .ok ⟨status, lines, body⟩ ↔ "" ∉ lines := by
  rw [parse_compose statusLine http single, ← framed_eq_iff body lines, Prod.ext_iff]
  simp

end Message

end ScriptBridge
