import ScriptBridge.Environment

/-! # What variables hold

Setting pairs one after the other leaves under each name what the last pair of that name says, and
what was there before where no pair speaks of it.
-/

namespace ScriptBridge

attribute [ext] Environment

namespace Environment

/-- What pairs that are set one after the other leave under a name: the last one counts. -/
def lastValue? (name : String) (pairs : List (String × String)) : Option String :=
  pairs.reverse.lookup name

theorem lastValue?_append (name : String) (pairs further : List (String × String)) :
    lastValue? name (pairs ++ further) = (lastValue? name further).or (lastValue? name pairs) := by
  simp [lastValue?, List.lookup_append]

theorem lastValue?_nil (name : String) : lastValue? name [] = none := rfl

theorem lastValue?_cons (name : String) (pair : String × String)
    (pairs : List (String × String)) :
    lastValue? name (pair :: pairs) =
      (lastValue? name pairs).or (if pair.1 = name then some pair.2 else none) := by
  obtain ⟨key, value⟩ := pair
  rw [← List.singleton_append, lastValue?_append]
  congr 1
  by_cases same : key = name
  · simp [lastValue?, same]
  · have other : (name == key) = false := by simpa using Ne.symm same
    simp [lastValue?, List.lookup_cons, same, other]

theorem lastValue?_eq_none_iff {name : String} {pairs : List (String × String)} :
    lastValue? name pairs = none ↔ name ∉ pairs.map (·.1) := by
  simp only [lastValue?, List.lookup_eq_none_iff, List.mem_reverse, bne_iff_ne, List.mem_map,
    not_exists, not_and]
  exact ⟨fun absent pair member same => absent pair member same.symm,
    fun absent pair member same => absent pair member same.symm⟩

variable (env : Environment)

theorem get?_set (name value other : String) :
    (env.set name value).get? other = if name = other then some value else env.get? other :=
  Table.get?_insert name other value env.vars

theorem get?_unset (name other : String) :
    (env.unset name).get? other = if name = other then none else env.get? other :=
  Table.get?_erase name other env.vars

variable {env} in
theorem directory_changeDir_congr {env' : Environment} (same : env.directory = env'.directory)
    (files : FileTree) (path : String) :
    (env.changeDir files path).directory = (env'.changeDir files path).directory := by
  simp only [changeDir, ← same]
  split
  · rfl
  · split
    · exact same
    · split
      · rfl
      · exact same

theorem get?_setAll (pairs : List (String × String)) (name : String) :
    (env.setAll pairs).get? name = (lastValue? name pairs).or (env.get? name) := by
  induction pairs generalizing env with
  | nil => rfl
  | cons pair pairs ih =>
      calc ((env.set pair.1 pair.2).setAll pairs).get? name
        _ = (lastValue? name pairs).or ((env.set pair.1 pair.2).get? name) := ih _
        _ = (lastValue? name (pair :: pairs)).or (env.get? name) := by
            rw [get?_set, lastValue?_cons, Option.or_assoc]
            split <;> rfl

theorem get?_foldl_unset (names : List String) (name : String) :
    (names.foldl unset env).get? name = if name ∈ names then none else env.get? name := by
  induction names generalizing env with
  | nil => simp
  | cons first names ih =>
      simp only [List.foldl_cons, ih, get?_unset, List.mem_cons]
      by_cases later : name ∈ names
      · simp [later]
      · by_cases same : first = name
        · simp [same]
        · simp [later, same, Ne.symm same]

end Environment

end ScriptBridge
