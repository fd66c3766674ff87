import ScriptBridge.Table

/-! # Tables in order

The entries of a table stand in the order of their keys, whatever was put in and taken out. The
table of its own entries is the table again.
-/

namespace ScriptBridge

namespace Table

variable {α : Type} {key : String} {a : α} {table : Table α}

/-- Whether each key stands in front of all that follow. -/
def Ordered (table : Table α) : Prop :=
  table.Pairwise fun entry later => entry.1 < later.1

theorem mem_of_mem_insert {entry : String × α} (member : entry ∈ insert key a table) :
    entry = (key, a) ∨ entry ∈ table := by
  induction table with
  | nil => simpa [insert] using member
  | cons first rest ih =>
      simp only [insert] at member
      split at member
      · rcases List.mem_cons.mp member with eq | later
        · exact Or.inl eq
        · exact Or.inr (List.mem_cons_of_mem _ later)
      · split at member
        · exact List.mem_cons.mp member
        · rcases List.mem_cons.mp member with rfl | later
          · exact Or.inr List.mem_cons_self
          · exact (ih later).imp_right (List.mem_cons_of_mem _)

theorem erase_sublist (key : String) (table : Table α) : (erase key table).Sublist table := by
  induction table with
  | nil => exact List.Sublist.refl _
  | cons first rest ih =>
      simp only [erase]
      split
      · exact ih.cons _
      · exact ih.cons_cons _

theorem Ordered.erase (ordered : Ordered table) (key : String) : Ordered (erase key table) :=
  List.Pairwise.sublist (erase_sublist key table) ordered

theorem Ordered.insert (ordered : Ordered table) (key : String) (a : α) :
    Ordered (insert key a table) := by
  induction table with
  | nil => exact List.pairwise_singleton _ _
  | cons first rest ih =>
      obtain ⟨least, tail⟩ := List.pairwise_cons.mp ordered
      simp only [Table.insert]
      split
      · next same =>
          subst same
          exact List.pairwise_cons.mpr ⟨least, tail⟩
      · next other =>
          split
          · next before =>
              refine List.pairwise_cons.mpr ⟨fun entry member => ?_, ordered⟩
              rcases List.mem_cons.mp member with rfl | later
              · exact before
              · exact String.lt_trans before (least entry later)
          · next notBefore =>
              have behind : first.1 < key :=
                Std.lt_of_le_of_ne (String.not_lt.mp notBefore) (Ne.symm other)
              refine List.pairwise_cons.mpr ⟨fun entry member => ?_, ih tail⟩
              rcases mem_of_mem_insert member with rfl | later
              · exact behind
              · exact least entry later

theorem insert_of_behind (behind : ∀ entry ∈ table, entry.1 < key) :
    insert key a table = table ++ [(key, a)] := by
  induction table with
  | nil => rfl
  | cons first rest ih =>
      have before : first.1 < key := behind first List.mem_cons_self
      have other : key ≠ first.1 := fun same => String.lt_irrefl key (same ▸ before)
      rw [insert, if_neg other, if_neg (String.lt_asymm before),
        ih fun entry member => behind entry (List.mem_cons_of_mem _ member)]
      rfl

theorem insertAll_of_ordered {pairs : List (String × α)} (ordered : Ordered (table ++ pairs)) :
    insertAll table pairs = table ++ pairs := by
  induction pairs generalizing table with
  | nil => exact (List.append_nil table).symm
  | cons pair pairs ih =>
      have behind : ∀ entry ∈ table, entry.1 < pair.1 := fun entry member =>
        (List.pairwise_append.mp ordered).2.2 entry member pair List.mem_cons_self
      have inserted : insert pair.1 pair.2 table = table ++ [pair] := insert_of_behind behind
      have split : table ++ pair :: pairs = (table ++ [pair]) ++ pairs := by simp
      calc insertAll (insert pair.1 pair.2 table) pairs
        _ = insertAll (table ++ [pair]) pairs := by rw [inserted]
        _ = (table ++ [pair]) ++ pairs := ih (split ▸ ordered)
        _ = table ++ pair :: pairs := split.symm

theorem Ordered.insertAll (ordered : Ordered table) (pairs : List (String × α)) :
    Ordered (insertAll table pairs) := by
  induction pairs generalizing table with
  | nil => exact ordered
  | cons pair pairs ih => exact ih (ordered.insert pair.1 pair.2)

theorem ordered_ofPairs (pairs : List (String × α)) : Ordered (ofPairs pairs) :=
  Ordered.insertAll List.Pairwise.nil pairs

theorem ofPairs_of_ordered (ordered : Ordered table) : ofPairs table = table :=
  insertAll_of_ordered ordered

theorem insertAll_cons (table : Table α) (pair : String × α) (pairs : List (String × α)) :
    insertAll table (pair :: pairs) = insertAll (insert pair.1 pair.2 table) pairs := rfl

theorem insertAll_append (table : Table α) (pairs more : List (String × α)) :
    insertAll table (pairs ++ more) = insertAll (insertAll table pairs) more := by
  rw [insertAll, List.foldl_append]
  rfl

theorem mem_of_mem_insertAll {entry : String × α} {pairs : List (String × α)}
    (member : entry ∈ insertAll table pairs) : entry ∈ table ∨ entry ∈ pairs := by
  induction pairs generalizing table with
  | nil => exact .inl member
  | cons pair pairs ih =>
      rcases ih member with inserted | later
      · rcases mem_of_mem_insert inserted with rfl | there
        · exact .inr List.mem_cons_self
        · exact .inl there
      · exact .inr (List.mem_cons_of_mem _ later)

theorem get?_insertAll (key : String) (table : Table α) (pairs : List (String × α)) :
    get? key (insertAll table pairs) =
      ((pairs.reverse.find? (·.1 == key)).map (·.2)).or (get? key table) := by
  induction pairs generalizing table with
  | nil => rfl
  | cons pair pairs ih =>
      rw [insertAll_cons, ih, get?_insert, List.reverse_cons, List.find?_append]
      cases later : pairs.reverse.find? (·.1 == key) with
      | some found => rfl
      | none =>
          by_cases same : pair.1 = key
          · simp [same]
          · simp [same]

theorem get?_insertAll_of_not_mem {pairs : List (String × α)} (absent : key ∉ pairs.map (·.1))
    (table : Table α) : get? key (insertAll table pairs) = get? key table := by
  have none : pairs.reverse.find? (·.1 == key) = none := by
    rw [List.find?_eq_none]
    intro pair member same
    have there := List.mem_map_of_mem (f := (·.1)) (List.mem_reverse.mp member)
    exact absent (eq_of_beq same ▸ there)
  rw [get?_insertAll, none]
  rfl

theorem length_le_length_insert (key : String) (a : α) (table : Table α) :
    table.length ≤ (insert key a table).length := by
  induction table with
  | nil => simp
  | cons first rest ih =>
      simp only [insert]
      split
      · exact Nat.le_refl _
      · split
        · exact Nat.le_succ _
        · exact Nat.succ_le_succ ih

theorem length_insert_of_fresh (fresh : get? key table = none) (a : α) :
    (insert key a table).length = table.length + 1 := by
  induction table with
  | nil => rfl
  | cons first rest ih =>
      simp only [get?] at fresh
      split at fresh
      · simp at fresh
      · next other =>
          simp only [insert, if_neg (Ne.symm other)]
          split
          · rfl
          · simp [ih fresh]

theorem length_insertAll_of_fresh {pairs : List (String × α)}
    (distinct : (pairs.map (·.1)).Nodup) (fresh : ∀ pair ∈ pairs, get? pair.1 table = none) :
    (insertAll table pairs).length = table.length + pairs.length := by
  induction pairs generalizing table with
  | nil => rfl
  | cons pair pairs ih =>
      obtain ⟨absent, distinct⟩ := List.nodup_cons.mp distinct
      have still : ∀ later ∈ pairs, get? later.1 (insert pair.1 pair.2 table) = none := by
        intro later member
        have other : pair.1 ≠ later.1 := fun same =>
          absent (List.mem_map.mpr ⟨later, member, same.symm⟩)
        rw [get?_insert, if_neg other]
        exact fresh later (List.mem_cons_of_mem _ member)
      calc (insertAll (insert pair.1 pair.2 table) pairs).length
        _ = (insert pair.1 pair.2 table).length + pairs.length := ih distinct still
        _ = table.length + 1 + pairs.length := by
          rw [length_insert_of_fresh (fresh pair List.mem_cons_self)]
        _ = table.length + (pairs.length + 1) := by omega

theorem get?_of_before (before : ∀ entry ∈ table, key < entry.1) : get? key table = none := by
  induction table with
  | nil => rfl
  | cons first rest ih =>
      have other : first.1 ≠ key := fun same =>
        String.lt_irrefl key (same ▸ before first List.mem_cons_self)
      rw [get?, if_neg other]
      exact ih fun entry member => before entry (List.mem_cons_of_mem _ member)

theorem mem_of_get? (holds : get? key table = some a) : (key, a) ∈ table := by
  induction table with
  | nil => contradiction
  | cons first rest ih =>
      rw [get?] at holds
      split at holds
      · next same =>
          obtain rfl := Option.some.inj holds
          rw [← same]
          exact List.mem_cons_self
      · exact List.mem_cons_of_mem _ (ih holds)

theorem Ordered.head_le {first : String × α} {rest : Table α} (ordered : Ordered (first :: rest))
    {held : α} (holds : get? key (first :: rest) = some held) : first.1 ≤ key := by
  refine String.not_lt.mp fun before => ?_
  obtain ⟨least, -⟩ := List.pairwise_cons.mp ordered
  have none : get? key (first :: rest) = none := get?_of_before fun entry member => by
    rcases List.mem_cons.mp member with rfl | later
    · exact before
    · exact String.lt_trans before (least entry later)
  simp [none] at holds

/-- Tables in order are told apart by what they hold. -/
theorem Ordered.ext {other : Table α} (ordered : Ordered table) (ordered' : Ordered other)
    (same : ∀ key, get? key table = get? key other) : table = other := by
  induction table generalizing other with
  | nil =>
      cases other with
      | nil => rfl
      | cons first rest => simpa [get?] using same first.1
  | cons first rest ih =>
      cases other with
      | nil => simpa [get?] using same first.1
      | cons first' rest' =>
          have left : get? first.1 (first :: rest) = some first.2 := by simp [get?]
          have right : get? first'.1 (first' :: rest') = some first'.2 := by simp [get?]
          have key : first.1 = first'.1 :=
            String.le_antisymm (ordered.head_le ((same first'.1).trans right))
              (ordered'.head_le ((same first.1).symm.trans left))
          have entry : first.2 = first'.2 := by
            rw [← key, ← same, left] at right
            exact Option.some.inj right
          obtain rfl : first = first' := Prod.ext key entry
          obtain ⟨least, tail⟩ := List.pairwise_cons.mp ordered
          obtain ⟨least', tail'⟩ := List.pairwise_cons.mp ordered'
          refine congrArg _ (ih tail tail' fun key => ?_)
          by_cases first_key : first.1 = key
          · subst first_key
            rw [get?_of_before least, get?_of_before least']
          · simpa [get?, first_key] using same key

/-- Tables that differ at most in what they hold under a name, at the place where an insertion under
    this name replaces it. -/
inductive DiffersAt (name : String) : Table α → Table α → Prop
  | here (a b : α) (rest : Table α) : DiffersAt name ((name, a) :: rest) ((name, b) :: rest)
  | there {entry : String × α} {table other : Table α} (before : entry.1 < name) :
      DiffersAt name table other → DiffersAt name (entry :: table) (entry :: other)

variable {name : String} {other : Table α}

theorem DiffersAt.insert (differs : DiffersAt name table other) (key : String) (a : α) :
    DiffersAt name (insert key a table) (insert key a other) := by
  induction differs with
  | here b c rest =>
      simp only [Table.insert]
      split
      · next same =>
          subst same
          exact .here a a rest
      · split
        · next before => exact .there before (.here b c rest)
        · exact .here b c _
  | there before differs ih =>
      simp only [Table.insert]
      split
      · next same => exact .there (same ▸ before) differs
      · split
        · next earlier => exact .there (String.lt_trans earlier before) (.there before differs)
        · exact .there before ih

theorem DiffersAt.insertAll (differs : DiffersAt name table other) (pairs : List (String × α)) :
    DiffersAt name (insertAll table pairs) (insertAll other pairs) := by
  induction pairs generalizing table other with
  | nil => exact differs
  | cons pair pairs ih => exact ih (differs.insert pair.1 pair.2)

theorem DiffersAt.erase (differs : DiffersAt name table other) (otherwise : key ≠ name) :
    DiffersAt name (erase key table) (erase key other) := by
  induction differs with
  | here b c rest =>
      simp only [Table.erase]
      split
      · next same => exact absurd same.symm otherwise
      · exact .here b c _
  | there before differs ih =>
      simp only [Table.erase]
      split
      · exact ih
      · exact .there before ih

end Table

end ScriptBridge
