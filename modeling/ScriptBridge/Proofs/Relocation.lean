import ScriptBridge.Proofs.Resolution

/-! # Paths that are read from elsewhere

A path that is not absolute takes some names off the directory that it is read from and puts its own
behind the rest. Where it leads anywhere, it leads to the same place from another directory exactly
if the rest is the same. A path behind another one is read from the place that the other one leads
to, so that paths to the same directory are alike in front of any path.
-/

namespace ScriptBridge

namespace Path

/-- One more name of a path: how many names are taken off at first, and which are put behind. -/
def turn (route : Nat × List String) (name : String) : Nat × List String :=
  if name = ".." then
    if route.2 = [] then (route.1 + 1, []) else (route.1, route.2.dropLast)
  else if name = "." || name.isEmpty then route
  else (route.1, route.2 ++ [name])

theorem endsWith_slash_iff {path : String} :
    path.endsWith "/" = true ↔ ∃ front, path.toList = front ++ ['/'] := by
  rw [← String.endsWith_toSlice, String.Slice.endsWith_string_iff, String.copy_toSlice]
  exact ⟨fun ⟨front, eq⟩ => ⟨front, eq.symm⟩, fun ⟨front, eq⟩ => ⟨front, eq.symm⟩⟩

theorem isAbsolute_join {left right : String} (filled : left.toList ≠ []) :
    isAbsolute (join left right) = (isAbsolute right || isAbsolute left) := by
  have nonempty : left.isEmpty = false := by simpa using filled
  have front : ∀ behind, isAbsolute (left ++ behind) = isAbsolute left := by
    intro behind
    obtain ⟨c, cs, eq⟩ := List.exists_cons_of_ne_nil filled
    simp [isAbsolute, Text.startsWith, eq, List.isPrefixOf]
  cases absolute : isAbsolute right with
  | true => simp only [join, absolute, if_true, Bool.true_or]
  | false =>
      simp only [join, absolute, Bool.false_eq_true, if_false, nonempty, Bool.false_or]
      split
      · exact front _
      · rw [String.append_assoc, front]

/-- How many names a path takes off the directory that it is read from, and the names that it puts
    behind the rest. -/
def route (path : String) : Nat × List String :=
  (Text.cutAll '/' path).foldl turn (0, [])

end Path

/-- A place without its last names. -/
def above (place : Location) (count : Nat) : Location :=
  place.take (place.length - count)

theorem dropLast_above (place : Location) (count : Nat) :
    (above place count).dropLast = above place (count + 1) := by
  rw [above, above, List.dropLast_eq_take, List.take_take, List.length_take]
  congr 1
  omega

namespace FileTree

theorem lexical_foldl (place : Location) (names : List String) (route : Nat × List String) :
    lexical (above place route.1 ++ route.2) names =
      above place (names.foldl Path.turn route).1 ++ (names.foldl Path.turn route).2 := by
  induction names generalizing route with
  | nil => rfl
  | cons name names ih =>
      rw [List.foldl_cons, ← ih]
      obtain ⟨count, own⟩ := route
      simp only [lexical, Path.turn]
      by_cases up : name = ".."
      · simp only [up, if_true]
        by_cases left : own = []
        · simp only [left, if_true, List.append_nil, dropLast_above]
        · simp only [left, if_false, List.dropLast_append_of_ne_nil left]
      · rw [if_neg up, if_neg up]
        by_cases stay : (name = "." || name.isEmpty) = true
        · rw [if_pos stay, if_pos stay]
        · rw [if_neg stay, if_neg stay, List.append_assoc]

theorem lexical_route (place : Location) (path : String) :
    lexical place (Text.cutAll '/' path) = above place (Path.route path).1 ++ (Path.route path).2 := by
  have start : above place 0 ++ [] = place := by simp [above]
  have turned := lexical_foldl place (Text.cutAll '/' path) (0, [])
  rw [start] at turned
  exact turned

section

variable {tree : FileTree} {home next place : Location} {path : String}

theorem resolve_of_absolute (absolute : Path.isAbsolute path = true) (tree : FileTree)
    (home next : Location) : tree.resolve home path = tree.resolve next path := by
  have starts : Text.startsWith "/" path = true := absolute
  simp only [resolve, starts, if_true]

theorem eq_of_resolve (relative : Path.isAbsolute path = false)
    (leads : tree.resolve home path = .ok place) :
    place = above home (Path.route path).1 ++ (Path.route path).2 := by
  have starts : Text.startsWith "/" path = false := relative
  simp only [resolve, starts, Bool.false_eq_true, if_false] at leads
  split at leads
  · contradiction
  · split at leads
    · contradiction
    · split at leads
      · contradiction
      · rw [walk_eq_lexical leads, lexical_route]

/-- A path that leads to a place leads there from another directory too exactly if it is absolute,
    or leads anywhere from there and takes both directories back to the same one. -/
theorem resolve_elsewhere_iff (leads : tree.resolve home path = .ok place) :
    tree.resolve next path = .ok place ↔ Path.isAbsolute path = true ∨
      (∃ other, tree.resolve next path = .ok other) ∧
        above home (Path.route path).1 = above next (Path.route path).1 := by
  cases absolute : Path.isAbsolute path with
  | true => simp [← leads, resolve_of_absolute absolute tree next home]
  | false =>
      have found := eq_of_resolve absolute leads
      simp only [Bool.false_eq_true, false_or]
      constructor
      · intro leads'
        have found' := eq_of_resolve absolute leads'
        exact ⟨⟨place, leads'⟩, List.append_cancel_right (found.symm.trans found')⟩
      · rintro ⟨⟨other, leads'⟩, same⟩
        have found' := eq_of_resolve absolute leads'
        rw [leads', found, found', same]

theorem walk_append (tree : FileTree) (place : Location) (names further : List String) :
    tree.walk place (names ++ further) = (do
      let next ← tree.walk place names
      tree.walk next further) := by
  induction names generalizing place with
  | nil => rfl
  | cons name names ih =>
      simp only [List.cons_append, walk]
      cases tree.step place name with
      | error fault => rfl
      | ok next => exact ih next

/-- Whoever stays at a place stands in a directory. -/
theorem eq_of_step_empty (stays : tree.step home "" = .ok place) : place = home := by
  simp only [step] at stays
  split at stays
  · simpa using stays.symm
  · contradiction
  · contradiction

variable {right : String}

theorem start_join (filled : path.toList ≠ []) (relative : Path.isAbsolute right = false) :
    start home (Path.join path right) = start home path := by
  rw [start, start, Path.isAbsolute_join filled, relative, Bool.false_or]

/-- The text of a path behind another one, in two parts: the first leads where the other one
    leads. -/
theorem join_cases (leads : tree.resolve home path = .ok place)
    (relative : Path.isAbsolute right = false) :
    ∃ front, (Path.join path right).toList = front ++ '/' :: right.toList ∧ '\x00' ∉ front ∧
      tree.walk (start home path) ((cutAll '/' front).map String.ofList) = .ok place := by
  obtain ⟨filled, clean, -, walks⟩ := resolve_eq_ok_iff.mp leads
  have nonempty : path.isEmpty = false := by simpa using filled
  simp only [Path.join, relative, Bool.false_eq_true, if_false, nonempty]
  split
  · next closed =>
      obtain ⟨front, eq⟩ := Path.endsWith_slash_iff.mp closed
      rw [eq] at clean
      refine ⟨front, by simp [eq], fun held => clean (List.mem_append_left _ held), ?_⟩
      have parts : Text.cutAll '/' path = (cutAll '/' front).map String.ofList ++ [""] := by
        rw [Text.cutAll, eq, cutAll_append, List.map_append]
        rfl
      rw [parts, walk_append] at walks
      cases leads : tree.walk (start home path) ((cutAll '/' front).map String.ofList) with
      | error fault => simp [leads, bind, Except.bind] at walks
      | ok next =>
          simp only [leads, bind, Except.bind, walk] at walks
          split at walks
          · next stays =>
              rw [eq_of_step_empty stays] at walks
              exact walks
          · contradiction
  · exact ⟨path.toList, by simp, clean, walks⟩

theorem resolve_join (leads : tree.resolve home path = .ok place)
    (relative : Path.isAbsolute right = false)
    (fits : (Path.join path right).utf8ByteSize ≤ maxPathSize) :
    tree.resolve home (Path.join path right) =
      if '\x00' ∈ right.toList then .error .nulInPath
      else tree.walk place (Text.cutAll '/' right) := by
  obtain ⟨front, eq, clean, walks⟩ := join_cases leads relative
  obtain ⟨filled, -⟩ := resolve_eq_ok_iff.mp leads
  have nonempty : (Path.join path right).isEmpty = false := by
    rw [← Bool.not_eq_true, String.isEmpty_iff, ← String.toList_eq_nil_iff, eq]
    simp
  have held : (Path.join path right).toList.contains '\x00' = true ↔ '\x00' ∈ right.toList := by
    simp [eq, clean]
  have begins : (if Text.startsWith "/" (Path.join path right) then [] else home) =
      start home path := start_join filled relative
  have along : tree.walk (start home path) (Text.cutAll '/' (Path.join path right)) =
      tree.walk place (Text.cutAll '/' right) := by
    rw [Text.cutAll, eq, cutAll_append, List.map_append, walk_append, walks]
    rfl
  simp only [resolve, nonempty, Bool.false_eq_true, if_false, held, Nat.not_lt.mpr fits, begins,
    along]

theorem resolve_join_congr {path' : String} (leads : tree.resolve home path = .ok place)
    (leads' : tree.resolve home path' = .ok place)
    (fits : (Path.join path right).utf8ByteSize ≤ maxPathSize)
    (fits' : (Path.join path' right).utf8ByteSize ≤ maxPathSize) :
    tree.resolve home (Path.join path right) = tree.resolve home (Path.join path' right) := by
  cases absolute : Path.isAbsolute right with
  | true => simp only [Path.join, absolute, if_true]
  | false => rw [resolve_join leads absolute fits, resolve_join leads' absolute fits']

end

end FileTree

end ScriptBridge
