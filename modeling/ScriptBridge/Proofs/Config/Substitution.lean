import Mathlib
import ScriptBridge.Proofs.Config.References
import ScriptBridge.Proofs.Text.Digits

/-! # Expansion puts in values once

A text with references is made of texts without dollar signs and of references between them. Expansion
reads it as just that: it puts the value or the default of each reference in its place and leaves all
else, whatever a default or a value holds, and it names the first reference that has neither. A text
has references exactly if expansion finds any, so that it can be told from the text itself.
-/

namespace ScriptBridge.Expansion

/-- A text made of a text in front and of references with a text behind each. -/
structure Template where
  lead : List Char
  parts : List (Reference × List Char)
  deriving Repr, DecidableEq

namespace Template

def written (template : Template) : String :=
  String.ofList (template.lead ++ template.parts.flatMap fun part => part.1.written ++ part.2)

/-- Whether the texts between the references have no dollar signs, and the references can be
    written. Of a default it is only asked that it does not close its reference. -/
structure IsProper (template : Template) : Prop where
  lead : '$' ∉ template.lead
  parts : ∀ part ∈ template.parts, part.1.IsProper ∧ '$' ∉ part.2

end Template

/-- Whether nothing stands in for a reference: its variable is not set, and it has no default. -/
def Reference.isLacking (vars : Table String) (reference : Reference) : Bool :=
  (Table.get? (String.ofList reference.name) vars).isNone && reference.fallback.isNone

/-- What stands in for a reference: what its variable is set to, even if that is empty, and otherwise
    its default. -/
def Reference.standIn (vars : Table String) (reference : Reference) : List Char :=
  match Table.get? (String.ofList reference.name) vars with
  | some value => value.toList
  | none => reference.fallback.getD []

namespace Template

/-- The text with something in the place of each reference. -/
def filled (vars : Table String) (template : Template) : String :=
  String.ofList (template.lead ++ template.parts.flatMap fun part =>
    part.1.standIn vars ++ part.2)

/-- The first reference that nothing stands in for. -/
def firstLacking? (vars : Table String) (template : Template) : Option Reference :=
  (template.parts.map (·.1)).find? (·.isLacking vars)

end Template

theorem cutBrace_append {inside : List Char} (free : '\x7d' ∉ inside) (behind : List Char) :
    cutBrace (inside ++ '\x7d' :: behind) = some (inside, behind) := by
  induction inside with
  | nil => rfl
  | cons c inside ih =>
      simp only [List.mem_cons, not_or] at free
      rw [List.cons_append, cutBrace, ih free.2]
      · rfl
      · exact Ne.symm free.1

theorem readName_append {c : Char} {cs rest : List Char} (start : isNameStart c = true)
    (all : ∀ d ∈ c :: cs, isNameChar d = true) (stops : Stops isNameChar rest) :
    readName (c :: cs ++ rest) = some (c :: cs, rest) := by
  obtain ⟨front, behind⟩ := span_of_stops all stops
  rw [List.cons_append] at front behind ⊢
  rw [readName, if_pos start, front, behind]

theorem readReference_written {reference : Reference} (proper : reference.IsProper)
    (rest : List Char) :
    ∃ behind, reference.written ++ rest = '$' :: behind ∧
      readReference behind = some (reference, rest) := by
  obtain ⟨⟨c, cs, named, start⟩, all, closed⟩ := proper
  obtain ⟨name, fallback⟩ := reference
  dsimp only at named all closed
  subst named
  cases fallback with
  | none =>
      have stops : Stops isNameChar ('\x7d' :: rest) := stops_cons (by decide) rest
      refine ⟨'\x7b' :: (c :: cs ++ '\x7d' :: rest), ?_, ?_⟩
      · simp [Reference.written, Reference.opening]
      · simp only [readReference, readName_append start all stops, Option.bind_eq_bind,
          Option.bind_some]
  | some fallback =>
      have stops : Stops isNameChar (':' :: '-' :: (fallback ++ '\x7d' :: rest)) :=
        stops_cons (by decide) _
      refine ⟨'\x7b' :: (c :: cs ++ ':' :: '-' :: (fallback ++ '\x7d' :: rest)), ?_, ?_⟩
      · simp [Reference.written, Reference.opening]
      · simp only [readReference, readName_append start all stops,
          cutBrace_append (closed fallback rfl), Option.bind_eq_bind, Option.bind_some]

theorem pieces_append {front : List Char} (plain : '$' ∉ front) (rest : List Char) (fuel : Nat) :
    pieces (front.length + fuel) (front ++ rest) = front.map .char ++ pieces fuel rest := by
  induction front with
  | nil => simp
  | cons c front ih =>
      simp only [List.mem_cons, not_or] at plain
      have next : (c :: front).length + fuel = (front.length + fuel) + 1 := by
        simp only [List.length_cons]
        omega
      rw [next, List.cons_append, pieces, ih plain.2]
      · rfl
      · intro dollar
        exact plain.1 dollar.symm

theorem pieces_written {reference : Reference} (proper : reference.IsProper) (rest : List Char)
    (fuel : Nat) :
    pieces (fuel + 1) (reference.written ++ rest) = .reference reference :: pieces fuel rest := by
  obtain ⟨behind, text, read⟩ := readReference_written proper rest
  rw [text, pieces, read]

theorem length_written_pos (reference : Reference) : 0 < reference.written.length := by
  simp only [Reference.written, Reference.opening, List.length_append, List.length_cons]
  omega

/-- The pieces of references with texts behind them. -/
def piecesOf (parts : List (Reference × List Char)) : List Piece :=
  parts.flatMap fun part => .reference part.1 :: part.2.map .char

theorem pieces_parts {parts : List (Reference × List Char)}
    (proper : ∀ part ∈ parts, part.1.IsProper ∧ '$' ∉ part.2) {fuel : Nat}
    (enough : (parts.flatMap fun part => part.1.written ++ part.2).length ≤ fuel) :
    pieces fuel (parts.flatMap fun part => part.1.written ++ part.2) =
      piecesOf parts := by
  induction parts generalizing fuel with
  | nil => cases fuel <;> rfl
  | cons part parts ih =>
      obtain ⟨reference, behind⟩ := part
      obtain ⟨⟨isProper, plain⟩, others⟩ := List.forall_mem_cons.mp proper
      have positive := length_written_pos reference
      simp only [List.flatMap_cons, List.length_append, List.append_assoc] at enough ⊢
      obtain ⟨less, rfl⟩ : ∃ less, fuel = behind.length + less + 1 :=
        ⟨fuel - behind.length - 1, by omega⟩
      rw [pieces_written isProper, pieces_append plain, ih others (by omega)]
      simp [piecesOf]

theorem pieces_template {template : Template} (proper : template.IsProper) :
    pieces template.written.length template.written.toList =
      template.lead.map .char ++ piecesOf template.parts := by
  rw [Template.written, String.length_ofList, String.toList_ofList, List.length_append,
    pieces_append proper.lead, pieces_parts proper.parts (Nat.le_refl _)]

theorem value_eq (vars : Table String) (reference : Reference) :
    reference.value vars =
      if reference.isLacking vars then .error ⟨String.ofList reference.name⟩
      else .ok (reference.standIn vars) := by
  cases held : Table.get? (String.ofList reference.name) vars with
  | some value => simp [Reference.value, Reference.isLacking, Reference.standIn, held]
  | none =>
      cases default : reference.fallback with
      | some fallback =>
          simp [Reference.value, Reference.isLacking, Reference.standIn, held, default]
      | none => simp [Reference.value, Reference.isLacking, held, default]

theorem assemble_append (vars : Table String) (front : List Char) (rest : List Piece) :
    assemble vars (front.map .char ++ rest) = (assemble vars rest).map (front ++ ·) := by
  induction front with
  | nil => cases read : assemble vars rest <;> simp [read, Except.map]
  | cons c front ih =>
      rw [List.map_cons, List.cons_append, assemble, ih]
      cases assemble vars rest <;> rfl

/-- The first reference that nothing stands in for decides, and without one all are filled in. -/
theorem assemble_piecesOf (vars : Table String) (parts : List (Reference × List Char)) :
    assemble vars (piecesOf parts) =
      match (parts.map (·.1)).find? (·.isLacking vars) with
      | some reference => .error ⟨String.ofList reference.name⟩
      | none => .ok (parts.flatMap fun part => part.1.standIn vars ++ part.2) := by
  induction parts with
  | nil => rfl
  | cons part parts ih =>
      obtain ⟨reference, behind⟩ := part
      have pieces : piecesOf ((reference, behind) :: parts) =
          .reference reference :: (behind.map .char ++ piecesOf parts) := by
        simp [piecesOf]
      rw [pieces, assemble, value_eq, assemble_append, ih, List.map_cons, List.find?_cons]
      by_cases lacking : reference.isLacking vars
      · simp only [lacking, if_true]
        rfl
      · simp only [lacking, Bool.false_eq_true, if_false]
        cases (parts.map (·.1)).find? (·.isLacking vars) with
        | some first => rfl
        | none => simp [Except.map, bind, Except.bind]

/-- Whether a piece is a reference. -/
def Piece.isReference : Piece → Bool
  | .reference _ => true
  | .char _ => false

theorem any_pieces_of_infix {reference : Reference} (proper : reference.IsProper) {cs : List Char}
    (inside : reference.written <:+: cs) {fuel : Nat} (enough : cs.length ≤ fuel) :
    (pieces fuel cs).any Piece.isReference = true := by
  induction cs generalizing fuel with
  | nil =>
      have positive := length_written_pos reference
      simp [List.eq_nil_of_infix_nil inside] at positive
  | cons c cs ih =>
      obtain ⟨less, rfl⟩ : ∃ less, fuel = less + 1 := ⟨fuel - 1, by simp at enough; omega⟩
      have fewer : cs.length ≤ less := Nat.le_of_succ_le_succ enough
      rcases List.infix_cons_iff.mp inside with ⟨rest, first⟩ | later
      · rw [← first, pieces_written proper]
        rfl
      · by_cases dollar : c = '$'
        · subst dollar
          rw [pieces]
          -- Another reference may be read here, and swallow the one further behind.
          cases readReference cs with
          | some found => rfl
          | none => exact ih later fewer
        · rw [pieces]
          · exact ih later fewer
          · exact dollar

theorem refers_iff (s : String) :
    Refers s ↔ (pieces s.length s.toList).any Piece.isReference = true := by
  constructor
  · rintro ⟨reference, proper, inside⟩
    exact any_pieces_of_infix proper inside (Nat.le_of_eq String.length_toList)
  · intro found
    by_contra plain
    have none : ∀ reference : Reference, reference.IsProper → ¬reference.written <:+: s.toList :=
      fun reference proper inside => plain ⟨reference, proper, inside⟩
    rw [pieces_eq_map none (Nat.le_of_eq String.length_toList)] at found
    simp [Piece.isReference] at found

instance : DecidablePred Refers := fun s => decidable_of_iff _ (refers_iff s).symm

/-- Expansion fills in a template: each reference gets the value of its variable or its default, the
    texts between stay, and nothing that is put in is looked at again. If nothing stands in for some
    of the references, the fault names the first of them. A text that refers to nothing stays as it
    is. -/
theorem expand_template (vars : Table String) :
    (∀ template : Template, template.IsProper →
      expand vars template.written =
        match template.firstLacking? vars with
        | some reference => .error ⟨String.ofList reference.name⟩
        | none => .ok (template.filled vars)) ∧
    ∀ s, ¬Refers s → expand vars s = .ok s := by
  constructor
  · intro template proper
    rw [expand, pieces_template proper, assemble_append, assemble_piecesOf, Template.firstLacking?]
    cases (template.parts.map (·.1)).find? (·.isLacking vars) with
    | some reference => rfl
    | none => rfl
  · intro s plain
    exact expand_of_not_refers plain vars

/-- A value that looks like a reference, an empty value in front of a default, and a default over two
    lines with another opening in it; then a fault; then an opening without an end and a name that
    begins with a digit. -/
theorem expand_template_of_openings :
    let vars : Table String := [("A", "$\x7bB\x7d"), ("E", "")]
    let a : Reference := ⟨['A'], none⟩
    let e : Reference := ⟨['E'], some ['d']⟩
    let n : Reference := ⟨['N', '_', '1'], some ['\n', '$', '\x7b', 'A', ':', '-']⟩
    let m : Reference := ⟨['M'], none⟩
    let template : Template := ⟨['x'], [(a, [':']), (e, []), (n, ['\x7d'])]⟩
    let lacking : Template := ⟨[], [(e, []), (m, []), (⟨['N'], none⟩, [])]⟩
    template.IsProper ∧ lacking.IsProper ∧ ¬Refers "a $\x7bNAME" ∧ ¬Refers "$\x7b1x\x7d" ∧
      template.written = "x$\x7bA\x7d:$\x7bE:-d\x7d$\x7bN_1:-\n$\x7bA:-\x7d\x7d" ∧
      expand vars template.written = .ok "x$\x7bB\x7d:\n$\x7bA:-\x7d" ∧
      expand vars lacking.written = .error ⟨"M"⟩ ∧
      expand vars "a $\x7bNAME" = .ok "a $\x7bNAME" ∧
      expand vars "$\x7b1x\x7d" = .ok "$\x7b1x\x7d" := by
  intro vars a e n m template lacking
  have proper : ∀ reference ∈ [a, e, n, m, ⟨['N'], none⟩], reference.IsProper := by
    intro reference member
    simp only [List.mem_cons, List.not_mem_nil, or_false] at member
    rcases member with rfl | rfl | rfl | rfl | rfl
    all_goals exact ⟨⟨_, _, rfl, rfl⟩, List.all_eq_true.mp rfl, by simp [a, e, n, m]⟩
  have isProper : template.IsProper := by
    refine ⟨by decide, ?_⟩
    intro part member
    have named : part.1 ∈ [a, e, n] ∧ '$' ∉ part.2 := by
      revert part
      decide
    exact ⟨proper _ (List.subset_append_left [a, e, n] [m, ⟨['N'], none⟩] named.1), named.2⟩
  have isProper' : lacking.IsProper := by
    refine ⟨by decide, ?_⟩
    intro part member
    have named : part.1 ∈ [a, e, n, m, ⟨['N'], none⟩] ∧ '$' ∉ part.2 := by
      revert part
      decide
    exact ⟨proper _ named.1, named.2⟩
  have unended : ¬Refers "a $\x7bNAME" := by decide +kernel
  have digit : ¬Refers "$\x7b1x\x7d" := by decide +kernel
  obtain ⟨fills, stays⟩ := expand_template vars
  exact ⟨isProper, isProper', unended, digit, by decide +kernel, fills template isProper,
    fills lacking isProper', stays _ unended, stays _ digit⟩

end ScriptBridge.Expansion
