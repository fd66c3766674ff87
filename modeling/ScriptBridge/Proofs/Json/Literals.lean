import ScriptBridge.Proofs.Json.Reading

/-! # Texts in what is printed

Between the brackets, the commas and the numbers of a value stand its texts and names, each between
quotes. A run of characters that begins with a dollar sign and has no quote stands in one of them,
if it stands anywhere in what is printed.
-/

namespace ScriptBridge.Json

/-- Whether a text stands somewhere in a value, be it as a name. -/
inductive HasLiteral : Json → String → Prop where
  | text (s : String) : HasLiteral (.text s) s
  | item {items : List Json} {item : Json} {s : String} (member : item ∈ items)
    (inside : HasLiteral item s) : HasLiteral (.list items) s
  | name {members : List (String × Json)} {member : String × Json} (inside : member ∈ members) :
    HasLiteral (.object members) member.1
  | member {members : List (String × Json)} {member : String × Json} {s : String}
    (within : member ∈ members) (inside : HasLiteral member.2 s) : HasLiteral (.object members) s

mutual

/-- The texts of a value and the names in it, in order. -/
def literals : Json → List String
  | .null | .bool _ | .whole _ | .fractional _ | .unpaired _ => []
  | .text s => [s]
  | .list items => literalsOfItems items
  | .object members => literalsOfMembers members

def literalsOfItems : List Json → List String
  | [] => []
  | item :: items => literals item ++ literalsOfItems items

def literalsOfMembers : List (String × Json) → List String
  | [] => []
  | (name, member) :: members => name :: (literals member ++ literalsOfMembers members)

end

theorem literals_subset_of_mem_items {item : Json} {items : List Json} (member : item ∈ items) :
    item.literals ⊆ literalsOfItems items := by
  induction items with
  | nil => contradiction
  | cons first items ih =>
      rcases List.mem_cons.mp member with rfl | later
      · exact List.subset_append_left _ _
      · exact List.Subset.trans (ih later) (List.subset_append_right _ _)

theorem literals_subset_of_mem_members {member : String × Json} {members : List (String × Json)}
    (inside : member ∈ members) : member.1 :: member.2.literals ⊆ literalsOfMembers members := by
  induction members with
  | nil => contradiction
  | cons first members ih =>
      rcases List.mem_cons.mp inside with rfl | later
      · exact List.cons_subset_cons _ (List.subset_append_left _ _)
      · exact List.Subset.trans (ih later)
          (List.Subset.trans (List.subset_append_right _ _) (List.subset_cons_self _ _))

theorem HasLiteral.mem_literals {json : Json} {s : String} (literal : json.HasLiteral s) :
    s ∈ json.literals := by
  induction literal with
  | text s => exact List.mem_singleton.mpr rfl
  | item member _ ih => exact literals_subset_of_mem_items member ih
  | name inside => exact literals_subset_of_mem_members inside List.mem_cons_self
  | member within _ ih =>
      exact literals_subset_of_mem_members within (List.mem_cons_of_mem _ ih)

/-- A text as it stands between its quotes. -/
def escaped (s : String) : List Char :=
  s.toList.flatMap escapeChar

theorem infix_itemLines {depth : Nat} {closing : Char} {line : List Char}
    {lines : List (List Char)} (member : line ∈ lines) :
    line <:+: itemLines depth closing lines := by
  induction lines with
  | nil => contradiction
  | cons first lines ih =>
      cases lines with
      | nil =>
          obtain rfl := List.mem_singleton.mp member
          exact ⟨[], '\n' :: (indent depth).toList ++ [closing], by simp [itemLines]⟩
      | cons next lines =>
          rcases List.mem_cons.mp member with rfl | later
          · simp only [itemLines, List.append_assoc]
            exact (List.prefix_append _ _).isInfix
          · exact (ih later).trans (List.suffix_append _ _).isInfix

theorem HasLiteral.infix_prettyAt {json : Json} {s : String} (literal : json.HasLiteral s)
    (depth : Nat) : escaped s <:+: (prettyAt depth json).toList := by
  induction literal generalizing depth with
  | text s => exact ⟨['"'], ['"'], by simp [toList_text, escaped]⟩
  | @item items item s member _ ih =>
      cases items with
      | nil => contradiction
      | cons first items =>
          have line : (prettyAt (depth + 1) item).toList ∈
              itemTexts (depth + 1) (first :: items) := List.mem_map_of_mem member
          rw [toList_list]
          exact (ih (depth + 1)).trans ((infix_itemLines line).trans
            (List.suffix_append ('[' :: '\n' :: (indent (depth + 1)).toList) _).isInfix)
  | @name members member inside =>
      cases members with
      | nil => contradiction
      | cons first members =>
          have line : memberLine (depth + 1) member ∈
              (first :: members).map (memberLine (depth + 1)) := List.mem_map_of_mem inside
          rw [toList_object]
          have name : escaped member.1 <:+: memberLine (depth + 1) member :=
            ⟨['"'], '"' :: ':' :: ' ' :: (prettyAt (depth + 1) member.2).toList,
              by simp [memberLine, escaped]⟩
          exact name.trans ((infix_itemLines line).trans
            (List.suffix_append ('\x7b' :: '\n' :: (indent (depth + 1)).toList) _).isInfix)
  | @member members member s within _ ih =>
      cases members with
      | nil => contradiction
      | cons first members =>
          have line : memberLine (depth + 1) member ∈
              (first :: members).map (memberLine (depth + 1)) := List.mem_map_of_mem within
          rw [toList_object]
          have value : (prettyAt (depth + 1) member.2).toList <:+:
              memberLine (depth + 1) member :=
            ⟨'"' :: (escaped member.1 ++ ['"', ':', ' ']), [], by simp [memberLine, escaped]⟩
          exact ((ih (depth + 1)).trans value).trans ((infix_itemLines line).trans
            (List.suffix_append ('\x7b' :: '\n' :: (indent (depth + 1)).toList) _).isInfix)

variable {c : Char} {cs : List Char}

theorem infix_of_infix_append {front behind : List Char} (missing : c ∉ front)
    (stands : c :: cs <:+: front ++ behind) : c :: cs <:+: behind := by
  induction front with
  | nil => exact stands
  | cons d front ih =>
      rcases List.infix_cons_iff.mp stands with first | later
      · obtain ⟨more, same⟩ := first
        obtain ⟨rfl, _⟩ := List.cons.inj same
        exact absurd List.mem_cons_self missing
      · exact ih (fun member => missing (List.mem_cons_of_mem _ member)) later

theorem prefix_of_mark {mark : Char} {run front behind : List Char} (missing : mark ∉ run)
    (stands : run <+: front ++ mark :: behind) : run <+: front := by
  induction front generalizing run with
  | nil =>
      cases run with
      | nil => exact List.nil_prefix
      | cons c run =>
          obtain ⟨rfl, _⟩ := List.cons_prefix_cons.mp stands
          exact absurd List.mem_cons_self missing
  | cons d front ih =>
      cases run with
      | nil => exact List.nil_prefix
      | cons c run =>
          obtain ⟨rfl, tail⟩ := List.cons_prefix_cons.mp stands
          exact List.cons_prefix_cons.mpr
            ⟨rfl, ih (fun member => missing (List.mem_cons_of_mem _ member)) tail⟩

theorem infix_or_infix_of_mark {mark : Char} {run front behind : List Char}
    (missing : mark ∉ run) (stands : run <:+: front ++ mark :: behind) :
    run <:+: front ∨ run <:+: behind := by
  induction front with
  | nil =>
      rcases List.infix_cons_iff.mp stands with first | later
      · exact Or.inl (@prefix_of_mark mark run [] behind missing first).isInfix
      · exact Or.inr later
  | cons d front ih =>
      rcases List.infix_cons_iff.mp stands with first | later
      · exact Or.inl (@prefix_of_mark mark run (d :: front) behind missing first).isInfix
      · exact (ih later).imp_left List.infix_cons

/-- Whether what is printed of a value holds a run of characters only within its texts. What comes
    behind it may hold more of them. -/
def Confines (run : List Char) (json : Json) : Prop :=
  ∀ (depth : Nat) (rest : List Char), run <:+: (prettyAt depth json).toList ++ rest →
    (∃ s, json.HasLiteral s ∧ run <:+: escaped s) ∨ run <:+: rest

section Dollar

variable {cs : List Char}

theorem dollar_not_mem_indent (depth : Nat) : '$' ∉ (indent depth).toList := by
  simp [indent]

theorem confines_itemLines {P : Prop} {depth : Nat} {closing : Char} (closes : closing ≠ '$')
    {lines : List (List Char)}
    (each : ∀ line ∈ lines, ∀ rest, '$' :: cs <:+: line ++ rest → P ∨ '$' :: cs <:+: rest)
    {rest : List Char} (stands : '$' :: cs <:+: itemLines depth closing lines ++ rest) :
    P ∨ '$' :: cs <:+: rest := by
  have spaces := dollar_not_mem_indent
  induction lines with
  | nil => exact Or.inr (infix_of_infix_append (by simpa [itemLines] using closes.symm) stands)
  | cons line lines ih =>
      cases lines with
      | nil =>
          simp only [itemLines, List.append_assoc, List.cons_append] at stands
          refine (each line List.mem_cons_self _ stands).imp_right fun behind => ?_
          have gap : '$' ∉ '\n' :: ((indent depth).toList ++ [closing]) := by
            simp [spaces, closes.symm]
          exact infix_of_infix_append gap (by simpa using behind)
      | cons next lines =>
          simp only [itemLines, List.append_assoc, List.cons_append] at stands
          rcases each line List.mem_cons_self _ stands with found | behind
          · exact Or.inl found
          · have gap : '$' ∉ ',' :: '\n' :: (indent (depth + 1)).toList := by
              simp [spaces]
            exact ih (fun line member => each line (List.mem_cons_of_mem _ member))
              (infix_of_infix_append gap (by simpa using behind))

theorem infix_or_infix_of_quoted (unquoted : '"' ∉ '$' :: cs) {front behind : List Char}
    (stands : '$' :: cs <:+: '"' :: (front ++ '"' :: behind)) :
    '$' :: cs <:+: front ∨ '$' :: cs <:+: behind :=
  infix_or_infix_of_mark unquoted (@infix_of_infix_append '$' cs ['"'] _ (by simp) stands)

theorem confines_of_not_mem {json : Json} (missing : ∀ depth, '$' ∉ (prettyAt depth json).toList) :
    json.Confines ('$' :: cs) :=
  fun depth _ stands => Or.inr (infix_of_infix_append (missing depth) stands)

theorem dollar_mem_of_mem_escaped {s : String} (member : '$' ∈ escaped s) : '$' ∈ s.toList := by
  obtain ⟨c, inside, found⟩ := List.mem_flatMap.mp member
  have hex : ∀ n, '$' ≠ hexDigit n := fun n => by
    have table : ∀ d < 16, '$' ≠ Nat.digitChar d := by decide
    exact table (n % 16) (Nat.mod_lt n (by decide))
  unfold escapeChar at found
  split at found
  iterate 7 exact absurd found (by decide)
  split at found
  · simp [hex] at found
  · exact (List.mem_singleton.mp found).symm ▸ inside

theorem dollar_not_mem_toDigits (n : Nat) : '$' ∉ Nat.toDigits 10 n := fun member =>
  absurd (isDigit_of_mem member) (by decide)

/-- What is printed holds a run with a dollar sign and without quotes only within texts. -/
theorem IsPlain.confines {json : Json} (plain : json.IsPlain) (unquoted : '"' ∉ '$' :: cs) :
    json.Confines ('$' :: cs) := by
  induction plain with
  | null => exact confines_of_not_mem fun depth => by simp [toList_null]
  | bool value =>
      cases value with
      | false => exact confines_of_not_mem fun depth => by simp [toList_false]
      | true => exact confines_of_not_mem fun depth => by simp [toList_true]
  | whole value =>
      cases value with
      | ofNat n =>
          exact confines_of_not_mem fun depth => by
            rw [toList_ofNat]
            exact dollar_not_mem_toDigits n
      | negSucc n =>
          exact confines_of_not_mem fun depth => by
            simp [toList_negSucc, dollar_not_mem_toDigits]
  | text s =>
      intro depth rest stands
      rw [toList_text] at stands
      refine (infix_or_infix_of_quoted unquoted (by simpa using stands)).imp_left fun inside => ?_
      exact ⟨s, .text s, inside⟩
  | @list items plain ih =>
      intro depth rest stands
      cases items with
      | nil =>
          rw [toList_empty_list] at stands
          exact Or.inr (infix_of_infix_append (by simp) stands)
      | cons item items =>
          rw [toList_list] at stands
          have gap : '$' ∉ '[' :: '\n' :: (indent (depth + 1)).toList := by
            simp [dollar_not_mem_indent]
          have closes : ']' ≠ '$' := by decide
          refine confines_itemLines closes ?_ (infix_of_infix_append gap (by simpa using stands))
          intro line listed rest stands
          obtain ⟨one, member, rfl⟩ := List.mem_map.mp listed
          rcases ih one member (depth + 1) rest stands with ⟨s, literal, inside⟩ | behind
          · exact Or.inl ⟨s, .item member literal, inside⟩
          · exact Or.inr behind
  | @object members plain ih =>
      intro depth rest stands
      cases members with
      | nil =>
          rw [toList_empty_object] at stands
          exact Or.inr (infix_of_infix_append (by simp) stands)
      | cons member members =>
          rw [toList_object] at stands
          have gap : '$' ∉ '\x7b' :: '\n' :: (indent (depth + 1)).toList := by
            simp [dollar_not_mem_indent]
          have closes : '\x7d' ≠ '$' := by decide
          refine confines_itemLines closes ?_ (infix_of_infix_append gap (by simpa using stands))
          intro line listed rest stands
          rw [← List.map_cons] at listed
          obtain ⟨one, within, rfl⟩ := List.mem_map.mp listed
          simp only [memberLine, List.cons_append, List.append_assoc] at stands
          rcases infix_or_infix_of_quoted unquoted stands with inside | behind
          · exact Or.inl ⟨one.1, .name within, inside⟩
          · have value := @infix_of_infix_append '$' cs [':', ' '] _ (by simp) behind
            rcases ih one within (depth + 1) rest value with ⟨s, literal, inside⟩ | behind
            · exact Or.inl ⟨s, .member within literal, inside⟩
            · exact Or.inr behind

/-- A run with a dollar sign and without quotes stands in what is printed exactly if it stands in
    one of the texts. -/
theorem IsPlain.infix_pretty_iff {json : Json} (plain : json.IsPlain)
    (unquoted : '"' ∉ '$' :: cs) :
    '$' :: cs <:+: json.pretty.toList ↔ ∃ s, json.HasLiteral s ∧ '$' :: cs <:+: escaped s := by
  constructor
  · intro stands
    refine (plain.confines unquoted 0 [] (by simpa [pretty] using stands)).resolve_right ?_
    intro empty
    exact absurd (List.eq_nil_of_infix_nil empty) (by simp)
  · rintro ⟨s, literal, inside⟩
    exact inside.trans (literal.infix_prettyAt 0)

end Dollar

end ScriptBridge.Json
