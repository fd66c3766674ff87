import ScriptBridge.Text.Blank

/-! # Words

The words of a text are what stands between its blanks, the empty pieces left out. So a blank parts
what is before it from what is behind it, whatever other blanks are beside it, and texts with a blank
between them have the words of the first text, then those of the second, and so on.
-/

namespace ScriptBridge.Text

/-- Whether a text is one word: it is not empty, and has no blank. -/
def IsWord (s : String) : Prop :=
  s ≠ "" ∧ hasBlank s = false

instance (s : String) : Decidable (IsWord s) :=
  inferInstanceAs (Decidable (_ ∧ _))

/-- The pieces of a text between blanks that are not empty. -/
def pieces (s : String) : List String :=
  ((s.toList.splitOnP isBlank).filter fun piece => !piece.isEmpty).map String.ofList

/-- The word that a text starts in is its first piece, and the words behind it are the others. -/
theorem splitOnP_eq_leadingWord (cs : List Char) :
    ∃ others, cs.splitOnP isBlank = (leadingWord cs).1 :: others ∧
      (leadingWord cs).2 = others.filter fun piece => !piece.isEmpty := by
  induction cs with
  | nil => exact ⟨[], List.splitOnP_nil .., rfl⟩
  | cons c cs ih =>
      obtain ⟨others, pieces, words⟩ := ih
      rw [List.splitOnP_cons_eq_if_modifyHead]
      simp only [leadingWord]
      split
      · refine ⟨cs.splitOnP isBlank, rfl, ?_⟩
        rw [pieces, List.filter_cons, ← words, consWord]
        cases (leadingWord cs).1 <;> rfl
      · exact ⟨others, by rw [pieces]; rfl, words⟩

theorem wordsOf_eq_filter (cs : List Char) :
    wordsOf cs = (cs.splitOnP isBlank).filter fun piece => !piece.isEmpty := by
  obtain ⟨others, pieces, words⟩ := splitOnP_eq_leadingWord cs
  rw [pieces, List.filter_cons, ← words]
  simp only [wordsOf, consWord]
  cases (leadingWord cs).1 <;> rfl

theorem words_eq_pieces (s : String) : words s = pieces s := by
  rw [words, wordsOf_eq_filter, pieces]

theorem wordsOf_append_blank {c : Char} (blank : isBlank c = true) (as bs : List Char) :
    wordsOf (as ++ c :: bs) = wordsOf as ++ wordsOf bs := by
  simp only [wordsOf_eq_filter, List.splitOnP_append_cons as bs blank, List.filter_append]

theorem words_intercalate (texts : List String) :
    words (" ".intercalate texts) = texts.flatMap pieces := by
  induction texts with
  | nil => rfl
  | cons text texts ih =>
      cases texts with
      | nil => rw [String.intercalate_singleton, List.flatMap_singleton, words_eq_pieces]
      | cons next texts =>
          have whole : (" ".intercalate (text :: next :: texts)).toList =
              text.toList ++ ' ' :: (" ".intercalate (next :: texts)).toList := by
            simp
          have blank : isBlank ' ' = true := by decide
          rw [List.flatMap_cons, ← ih, ← words_eq_pieces]
          simp only [words, whole, wordsOf_append_blank blank, List.map_append]

theorem not_isBlank_of_mem_splitOnP {cs piece : List Char} (member : piece ∈ cs.splitOnP isBlank) :
    ∀ c ∈ piece, isBlank c = false := by
  induction cs generalizing piece with
  | nil =>
      obtain rfl : piece = [] := by simpa using member
      nofun
  | cons c cs ih =>
      obtain ⟨first, others, pieces⟩ := List.exists_cons_of_ne_nil (List.splitOnP_ne_nil isBlank cs)
      rw [List.splitOnP_cons_eq_if_modifyHead] at member
      split at member
      · rcases List.mem_cons.mp member with rfl | later
        · nofun
        · exact ih later
      · next stays =>
          rw [pieces, List.modifyHead_cons] at member
          rcases List.mem_cons.mp member with rfl | later
          · intro d inside
            rcases List.mem_cons.mp inside with rfl | inside
            · simpa using stays
            · exact ih (pieces ▸ List.mem_cons_self) d inside
          · exact ih (pieces ▸ List.mem_cons_of_mem first later)

theorem isWord_of_mem_words {s word : String} (member : word ∈ words s) : IsWord word := by
  rw [words, wordsOf_eq_filter] at member
  obtain ⟨piece, kept, rfl⟩ := List.mem_map.mp member
  obtain ⟨inside, filled⟩ := List.mem_filter.mp kept
  refine ⟨fun empty => ?_, ?_⟩
  · rw [String.ofList_eq_empty_iff.mp empty] at filled
    contradiction
  · rw [hasBlank, String.toList_ofList, List.any_eq_false]
    intro c held
    rw [not_isBlank_of_mem_splitOnP inside c held]
    exact Bool.false_ne_true

theorem pieces_of_isWord {s : String} (word : IsWord s) : pieces s = [s] := by
  obtain ⟨filled, free⟩ := word
  simp only [hasBlank, List.any_eq_false, Bool.not_eq_true] at free
  have some_chars : s.toList.isEmpty = false := by
    rw [List.isEmpty_eq_false_iff]
    exact fun empty => filled (String.toList_eq_nil_iff.mp empty)
  rw [pieces, List.splitOnP_eq_singleton free]
  simp [some_chars]

theorem flatMap_pieces_of_words {texts : List String} (words : ∀ text ∈ texts, IsWord text) :
    texts.flatMap pieces = texts := by
  induction texts with
  | nil => rfl
  | cons text texts ih =>
      rw [List.flatMap_cons, pieces_of_isWord (words text List.mem_cons_self),
        ih fun later member => words later (List.mem_cons_of_mem text member)]
      rfl

end ScriptBridge.Text
