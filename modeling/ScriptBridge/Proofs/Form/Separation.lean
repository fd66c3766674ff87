import Mathlib
import ScriptBridge.Proofs.Form

/-! # Fields do not interfere

A key goes to one field: to what stands in front of its brackets, if they count, and otherwise to the
whole key with whatever brackets are in it. What a form holds in a field is made of the pairs that go
there, in their order, and of nothing else. So pairs of different fields can change places, and a field
can be left out without a trace in the others.
-/

namespace ScriptBridge.Form

/-- The field that a key goes to. -/
def target (key : String) : String :=
  (Target.ofKey key).field

/-- The pairs that go to a field, in their order. -/
def pairsFor (field : String) (pairs : List (String × String)) : List (String × String) :=
  pairs.filter fun pair => target pair.1 = field

/-- What a field holds after pairs that all go to it. -/
def gather (old : Option Value) (pairs : List (String × String)) : Option Value :=
  pairs.foldl (fun old pair => some (update old (Target.ofKey pair.1) pair.2)) old

theorem target_of_splits {key : String} {field name : List Char}
    (splits : Target.splitBrackets key.toList = some (field, name)) :
    target key = String.ofList field := by
  cases name with
  | nil => simp only [target, Target.ofKey, splits, Target.field]
  | cons c name => simp only [target, Target.ofKey, splits, Target.field]

/-- A key whose brackets do not count goes to itself. -/
theorem target_of_whole {key : String} (whole : Target.splitBrackets key.toList = none) :
    target key = key := by
  simp only [target, Target.ofKey, whole, Target.field]

/-- A key whose brackets count goes to a field without a bracket that opens. -/
theorem not_mem_target {key : String} (splits : Target.splitBrackets key.toList ≠ none) :
    '[' ∉ (target key).toList := by
  obtain ⟨⟨field, name⟩, pieces⟩ := Option.ne_none_iff_exists'.mp splits
  obtain ⟨-, -, free, -, -⟩ := splitBrackets_eq_some_iff.mp pieces
  rw [target_of_splits pieces, String.toList_ofList]
  exact free

theorem target_eq_empty_iff {key : String} : target key = "" ↔ key = "" := by
  constructor
  · intro empty
    cases splits : Target.splitBrackets key.toList with
    | none => rw [← target_of_whole splits, empty]
    | some pieces =>
        obtain ⟨field, name⟩ := pieces
        obtain ⟨-, filled, -⟩ := splitBrackets_eq_some_iff.mp splits
        rw [target_of_splits splits] at empty
        exact absurd (String.ofList_eq_empty_iff.mp empty) filled
  · rintro rfl
    rfl

theorem get?_insert {pair : String × String} (keyed : pair.1 ≠ "") (fields : Table Value) :
    Table.get? (target pair.1) (insert fields pair) =
      gather (Table.get? (target pair.1) fields) [pair] :=
  get?_insert_self keyed rfl fields

theorem get?_foldl_insert {field : String} (named : field ≠ "") (pairs : List (String × String))
    (fields : Table Value) :
    Table.get? field (pairs.foldl insert fields) =
      gather (Table.get? field fields) (pairsFor field pairs) := by
  induction pairs generalizing fields with
  | nil => rfl
  | cons pair pairs ih =>
      rw [List.foldl_cons, ih]
      by_cases here : target pair.1 = field
      · have keyed : pair.1 ≠ "" := by
          intro empty
          exact named (here.symm.trans (target_eq_empty_iff.mpr empty))
        have taken : pairsFor field (pair :: pairs) = pair :: pairsFor field pairs := by
          simp [pairsFor, here]
        subst here
        rw [taken, get?_insert keyed]
        rfl
      · have left : pairsFor field (pair :: pairs) = pairsFor field pairs := by
          simp [pairsFor, here]
        rw [left, get?_insert_of_ne here]

theorem get?_empty_foldl_insert (pairs : List (String × String)) (fields : Table Value) :
    Table.get? "" (pairs.foldl insert fields) = Table.get? "" fields := by
  induction pairs generalizing fields with
  | nil => rfl
  | cons pair pairs ih =>
      rw [List.foldl_cons, ih]
      by_cases keyed : pair.1 = ""
      · rw [insert, if_pos (by simp [keyed])]
      · refine get?_insert_of_ne ?_
        intro here
        exact keyed (target_eq_empty_iff.mp here)

/-- What a form holds in a field. -/
theorem get?_ofPairs (field : String) (pairs : List (String × String)) :
    Table.get? field (ofPairs pairs) =
      if field = "" then none else gather none (pairsFor field pairs) := by
  split
  · next empty =>
      subst empty
      exact get?_empty_foldl_insert pairs .empty
  · next named => exact get?_foldl_insert named pairs .empty

theorem get?_decode (field : String) (data : Bytes) :
    (decode data).get? field = Table.get? field (ofPairs (UrlEncoded.pairs data)) := rfl

theorem ordered_foldl_insert {fields : Table Value} (ordered : fields.Ordered)
    (pairs : List (String × String)) : Table.Ordered (pairs.foldl insert fields) := by
  induction pairs generalizing fields with
  | nil => exact ordered
  | cons pair pairs ih =>
      refine ih ?_
      simp only [insert]
      split
      · exact ordered
      · exact ordered.insert _ _

theorem ordered_ofPairs (pairs : List (String × String)) : Table.Ordered (ofPairs pairs) :=
  ordered_foldl_insert List.Pairwise.nil pairs

theorem ofPairs_congr {pairs others : List (String × String)}
    (same : ∀ field, pairsFor field pairs = pairsFor field others) : ofPairs pairs = ofPairs others := by
  refine (ordered_ofPairs pairs).ext (ordered_ofPairs others) ?_
  intro field
  rw [get?_ofPairs, get?_ofPairs, same]

theorem pairsFor_swap {first second : String × String} (apart : target first.1 ≠ target second.1)
    (field : String) (front behind : List (String × String)) :
    pairsFor field (front ++ first :: second :: behind) =
      pairsFor field (front ++ second :: first :: behind) := by
  simp only [pairsFor, List.filter_append]
  congr 1
  by_cases here : target first.1 = field
  · have there : target second.1 ≠ field := fun same => apart (here.trans same.symm)
    simp [here, there]
  · simp [List.filter_cons, here]

theorem pairsFor_without (field name : String) (pairs : List (String × String)) :
    pairsFor name (pairs.filter fun pair => target pair.1 ≠ field) =
      if name = field then [] else pairsFor name pairs := by
  simp only [pairsFor, List.filter_filter]
  split
  · next same =>
      subst same
      simp
  · next other =>
      refine List.filter_congr ?_
      intro pair _
      by_cases here : target pair.1 = name
      · simp [here, other]
      · simp [here]

/-- Fields of a form do not interfere. What is held in a field depends on the pairs that go to it
    and on their order alone; neighbours of different fields can change places; a field can be left
    out, and the others hold what they held. A key whose brackets do not count goes to itself, and if
    it has one that opens, then no key goes there whose brackets count. -/
theorem fields_apart (data other : Bytes) :
    (∀ field, pairsFor field (UrlEncoded.pairs data) = pairsFor field (UrlEncoded.pairs other) →
      (decode data).get? field = (decode other).get? field) ∧
    (∀ front first second behind, target first.1 ≠ target second.1 →
      UrlEncoded.pairs data = front ++ first :: second :: behind →
      UrlEncoded.pairs other = front ++ second :: first :: behind → decode data = decode other) ∧
    (∀ field, UrlEncoded.pairs other =
        ((UrlEncoded.pairs data).filter fun pair => target pair.1 ≠ field) →
      (decode other).get? field = none ∧
        ∀ name, name ≠ field → (decode other).get? name = (decode data).get? name) ∧
    (∀ key, Target.splitBrackets key.toList = none → target key = key ∧
      ('[' ∈ key.toList →
        ∀ split, Target.splitBrackets split.toList ≠ none → target split ≠ key)) := by
  refine ⟨?depends, ?swap, ?without, ?whole⟩
  case depends =>
    intro field same
    rw [get?_decode, get?_decode, get?_ofPairs, get?_ofPairs, same]
  case swap =>
    intro front first second behind apart before after
    have same : ofPairs (UrlEncoded.pairs data) = ofPairs (UrlEncoded.pairs other) := by
      rw [before, after]
      exact ofPairs_congr fun field => pairsFor_swap apart field front behind
    rw [decode, decode, same]
  case without =>
    intro field rest
    have held : ∀ name, (decode other).get? name = if name = "" then none else
        gather none (if name = field then [] else pairsFor name (UrlEncoded.pairs data)) := by
      intro name
      rw [get?_decode, get?_ofPairs, rest, pairsFor_without]
    constructor
    · rw [held, if_pos rfl]
      exact ite_self none
    · intro name differs
      rw [held, if_neg differs, get?_decode, get?_ofPairs]
  case whole =>
    intro key whole
    refine ⟨target_of_whole whole, ?_⟩
    intro bracket split splits same
    exact not_mem_target splits (same ▸ bracket)

/-- Keys of all shapes around the field `a`: what looks like an entry of it goes elsewhere, and so it
    is there whether `a` is or not. -/
theorem fields_apart_of_malformed_keys :
    let data := utf8 "a[b][c]=1&a[k]=2&[x]=3&a[=4&a]b[c]=5&a[]=6"
    let swapped := utf8 "a[k]=2&a[b][c]=1&[x]=3&a[=4&a]b[c]=5&a[]=6"
    let rest := utf8 "a[b][c]=1&[x]=3&a[=4&a]b[c]=5"
    let behind := [("[x]", "3"), ("a[", "4"), ("a]b[c]", "5"), ("a[]", "6")]
    target "a[b][c]" ≠ target "a[k]" ∧
      UrlEncoded.pairs data = ("a[b][c]", "1") :: ("a[k]", "2") :: behind ∧
      UrlEncoded.pairs swapped = ("a[k]", "2") :: ("a[b][c]", "1") :: behind ∧
      UrlEncoded.pairs rest =
        ((UrlEncoded.pairs data).filter fun pair => target pair.1 ≠ "a") ∧
      pairsFor "a" (UrlEncoded.pairs data) = pairsFor "a" (UrlEncoded.pairs swapped) ∧
      Target.splitBrackets "a[b][c]".toList = none ∧ '[' ∈ "a[b][c]".toList ∧
      Target.splitBrackets "a[k]".toList ≠ none ∧
      (decode data).get? "a" = (decode swapped).get? "a" ∧ decode data = decode swapped ∧
      (decode rest).get? "a" = none ∧
      (decode rest).get? "a]b" = (decode data).get? "a]b" ∧
      target "a[b][c]" = "a[b][c]" ∧ target "a[k]" ≠ "a[b][c]" := by
  intro data swapped rest behind
  have apart : target "a[b][c]" ≠ target "a[k]" := by decide +kernel
  have before : UrlEncoded.pairs data = ("a[b][c]", "1") :: ("a[k]", "2") :: behind := by
    decide +kernel
  have after : UrlEncoded.pairs swapped = ("a[k]", "2") :: ("a[b][c]", "1") :: behind := by
    decide +kernel
  have without : UrlEncoded.pairs rest =
      ((UrlEncoded.pairs data).filter fun pair => target pair.1 ≠ "a") := by
    decide +kernel
  have same : pairsFor "a" (UrlEncoded.pairs data) = pairsFor "a" (UrlEncoded.pairs swapped) := by
    decide +kernel
  have whole : Target.splitBrackets "a[b][c]".toList = none := by decide +kernel
  have splits : Target.splitBrackets "a[k]".toList ≠ none := by decide +kernel
  have bracket : '[' ∈ "a[b][c]".toList := by decide +kernel
  obtain ⟨depends, swap, -, -⟩ := fields_apart data swapped
  obtain ⟨-, -, leave, goes⟩ := fields_apart data rest
  obtain ⟨gone, kept⟩ := leave "a" without
  obtain ⟨itself, alone⟩ := goes "a[b][c]" whole
  exact ⟨apart, before, after, without, same, whole, bracket, splits, depends "a" same,
    swap [] _ _ behind apart before after, gone, kept "a]b" (by decide), itself,
    alone bracket "a[k]" splits⟩

end ScriptBridge.Form
