import ScriptBridge.Interpreter
import ScriptBridge.Path
import ScriptBridge.Proofs.Text.Cutting

/-! # Where paths lead

If a path leads anywhere at all, its names alone tell where. Paths with the same components lead to
the same place therefore, in whichever trees they lead anywhere, and a file that is found there with
the same time of its last change is the same file if changes always show in that time.
-/

namespace ScriptBridge

namespace Path

theorem slash_not_mem_names (path : String) : "/" ∉ names path := by
  intro member
  simp only [names, List.mem_filter, Text.cutAll, List.mem_map] at member
  obtain ⟨⟨part, isPart, eq⟩, -⟩ := member
  have free := cutAll_free '/' path.toList part isPart
  have same : part = ['/'] := by
    have := congrArg String.toList eq
    simpa using this
  exact free (by simp [same])

theorem dot_not_mem_names (path : String) : "." ∉ names path := by
  simp [names]

theorem names_eq_of_components {path path' : String} (same : components path = components path') :
    isAbsolute path = isAbsolute path' ∧ names path = names path' := by
  have slash := slash_not_mem_names path
  have slash' := slash_not_mem_names path'
  have dot := dot_not_mem_names path
  have dot' := dot_not_mem_names path'
  simp only [components] at same
  cases absolute : isAbsolute path <;> cases absolute' : isAbsolute path' <;>
    simp only [absolute, absolute', if_true, Bool.false_eq_true, if_false] at same
  · refine ⟨rfl, ?_⟩
    split at same <;> split at same
    · exact List.tail_eq_of_cons_eq same
    · exact absurd (same ▸ List.mem_cons_self) dot'
    · exact absurd (same ▸ List.mem_cons_self) dot
    · exact same
  · split at same
    · simp at same
    · exact absurd (same ▸ List.mem_cons_self) slash
  · split at same
    · simp at same
    · exact absurd (same ▸ List.mem_cons_self) slash'
  · exact ⟨rfl, List.tail_eq_of_cons_eq same⟩

end Path

namespace FileTree

/-- The place that names lead to if they lead anywhere. -/
def lexical (place : Location) : List String → Location
  | [] => place
  | name :: rest =>
    if name = ".." then lexical place.dropLast rest
    else if name = "." || name.isEmpty then lexical place rest
    else lexical (place ++ [name]) rest

theorem lexical_of_step {tree : FileTree} {place next : Location} {name : String}
    (steps : tree.step place name = .ok next) (rest : List String) :
    lexical place (name :: rest) = lexical next rest := by
  simp only [step] at steps
  split at steps
  · split at steps
    · next up => simp [lexical, up, ← Except.ok.inj steps]
    · next down =>
        split at steps
        · next stay => simp [lexical, down, stay, ← Except.ok.inj steps]
        · next move =>
            split at steps
            · simp at steps
            · split at steps
              · simp [lexical, down, move, ← Except.ok.inj steps]
              · simp at steps
  · simp at steps
  · simp at steps

theorem walk_eq_lexical {tree : FileTree} {place found : Location} {names : List String}
    (walks : tree.walk place names = .ok found) : found = lexical place names := by
  induction names generalizing place with
  | nil => exact (Except.ok.inj walks).symm
  | cons name rest ih =>
      cases steps : tree.step place name with
      | error fault => simp [walk, steps] at walks
      | ok next =>
          simp only [walk, steps] at walks
          rw [lexical_of_step steps, ih walks]

theorem lexical_filter (place : Location) (names : List String) :
    lexical place (names.filter fun name => !name.isEmpty && name != ".") =
      lexical place names := by
  induction names generalizing place with
  | nil => rfl
  | cons name rest ih =>
      by_cases stays : name = "." ∨ name.isEmpty = true
      · have up : name ≠ ".." := by
          rintro rfl
          simp at stays
        rcases stays with stay | stay
        · simp [lexical, stay, ih]
        · simp [lexical, up, stay, ih]
      · obtain ⟨dot, empty⟩ := not_or.mp stays
        simp [lexical, dot, empty, ih]

/-- The place that the names of a path are followed from. -/
def start (home : Location) (path : String) : Location :=
  if Path.isAbsolute path then [] else home

theorem resolve_eq_ok_iff {tree : FileTree} {home place : Location} {path : String} :
    tree.resolve home path = .ok place ↔
      path.toList ≠ [] ∧ '\x00' ∉ path.toList ∧ path.utf8ByteSize ≤ maxPathSize ∧
        tree.walk (start home path) (Text.cutAll '/' path) = .ok place := by
  have empty : path.isEmpty = true ↔ path.toList = [] := by simp
  have held : path.toList.contains '\x00' = true ↔ '\x00' ∈ path.toList := by simp
  simp only [resolve, empty, held]
  split
  · next empty => simp [empty]
  · next filled =>
      split
      · next held => simp [held]
      · next clean =>
          split
          · next long => simp [Nat.not_le.mpr long]
          · next fits =>
              simp only [ne_eq, filled, not_false_eq_true, clean, Nat.not_lt.mp fits, true_and]
              rfl

theorem resolve_eq {tree tree' : FileTree} {workingDir found found' : Location}
    {path path' : String} (same : Path.components path = Path.components path')
    (resolves : tree.resolve workingDir path = .ok found)
    (resolves' : tree'.resolve workingDir path' = .ok found') : found = found' := by
  obtain ⟨absolute, names⟩ := Path.names_eq_of_components same
  have leads : ∀ {tree : FileTree} {path : String} {found : Location},
      tree.resolve workingDir path = .ok found →
        found = lexical (start workingDir path) (Path.names path) := by
    intro tree path found resolves
    obtain ⟨-, -, -, walks⟩ := resolve_eq_ok_iff.mp resolves
    rw [walk_eq_lexical walks, Path.names, lexical_filter]
  rw [leads resolves, leads resolves', start, start, absolute, names]

/-- A file that a path leads to. -/
def LeadsTo (tree : FileTree) (workingDir : Location) (path : String) (place : Location)
    (file : File) : Prop :=
  tree.resolve workingDir path = .ok place ∧ tree.at? place = some (.file file)

theorem leadsTo_of_find {tree : FileTree} {workingDir : Location} {path : String} {file : File}
    (finds : tree.find workingDir path = .ok (.file file)) :
    ∃ place, tree.LeadsTo workingDir path place file := by
  simp only [find, bind, Except.bind] at finds
  split at finds
  · simp at finds
  · next place resolves =>
      split at finds
      · next entry found =>
          obtain rfl := Except.ok.inj finds
          exact ⟨place, resolves, found⟩
      · simp at finds

/-- Whether a part of a path is a name, and not one that stays where it is. -/
def isName (part : String) : Bool :=
  !part.isEmpty && part != "."

theorem directory_of_step {tree : FileTree} {place next : Location} {part : String}
    (steps : tree.step place part = .ok next) : tree.at? place = some .directory := by
  simp only [step] at steps
  split at steps
  · next found => exact found
  · contradiction
  · contradiction

theorem step_of_not_isName {tree : FileTree} {place : Location} {part : String}
    (other : isName part = false) (directory : tree.at? place = some .directory) :
    tree.step place part = .ok place := by
  have stays : part = "." || part.isEmpty := by
    cases empty : part.isEmpty <;> simp_all [isName]
  have up : part ≠ ".." := by
    rintro rfl
    simp at stays
  simp only [step, directory, if_neg up, if_pos stays]

theorem walk_filter {tree : FileTree} {place found : Location} {parts : List String}
    (walks : tree.walk place parts = .ok found) :
    tree.walk place (parts.filter isName) = .ok found := by
  induction parts generalizing place with
  | nil => exact walks
  | cons part parts ih =>
      cases steps : tree.step place part with
      | error fault => simp [walk, steps] at walks
      | ok next =>
          simp only [walk, steps] at walks
          cases name : isName part with
          | true =>
              simp only [List.filter_cons, name, if_true, walk, steps]
              exact ih walks
          | false =>
              have stays := step_of_not_isName name (directory_of_step steps)
              obtain rfl : next = place := Except.ok.inj (steps.symm.trans stays)
              rw [List.filter_cons_of_neg (by simp [name])]
              exact ih walks

/-- Parts that are no names can be put into a walk, but not at its end. -/
theorem walk_of_filter {tree : FileTree} {place found : Location} {parts : List String}
    (ends : ∀ part ∈ parts.getLast?, isName part = true)
    (walks : tree.walk place (parts.filter isName) = .ok found) :
    tree.walk place parts = .ok found := by
  induction parts generalizing place with
  | nil => exact walks
  | cons part parts ih =>
      have ends' : ∀ later ∈ parts.getLast?, isName later = true := by
        intro later isLast
        refine ends later ?_
        cases parts with
        | nil => simp at isLast
        | cons => simpa using isLast
      cases name : isName part with
      | true =>
          rw [List.filter_cons_of_pos name] at walks
          cases steps : tree.step place part with
          | error fault => simp [walk, steps] at walks
          | ok next =>
              simp only [walk, steps] at walks ⊢
              exact ih ends' walks
      | false =>
          rw [List.filter_cons_of_neg (by simp [name])] at walks
          -- A name follows, and the walk goes on with it from a directory.
          obtain ⟨first, names, eq⟩ : ∃ first names, parts.filter isName = first :: names := by
            refine List.exists_cons_of_ne_nil fun none => ?_
            cases isLast : parts.getLast? with
            | none =>
                obtain rfl := List.getLast?_eq_none_iff.mp isLast
                simp [name] at ends
            | some later =>
                have member := List.mem_of_getLast? isLast
                exact List.filter_eq_nil_iff.mp none later member (ends' later isLast)
          have directory : tree.at? place = some .directory := by
            rw [eq] at walks
            cases steps : tree.step place first with
            | error fault => simp [walk, steps] at walks
            | ok next => exact directory_of_step steps
          simp only [walk, step_of_not_isName name directory]
          exact ih ends' walks

theorem isName_of_walk {tree : FileTree} {place found : Location} {parts : List String} {file : File}
    (walks : tree.walk place parts = .ok found) (holds : tree.at? found = some (.file file)) :
    ∀ part ∈ parts.getLast?, isName part = true := by
  induction parts generalizing place with
  | nil => simp
  | cons part parts ih =>
      cases steps : tree.step place part with
      | error fault => simp [walk, steps] at walks
      | ok next =>
          simp only [walk, steps] at walks
          cases parts with
          | cons second parts => simpa using ih walks
          | nil =>
              obtain rfl : next = found := Except.ok.inj walks
              simp only [List.getLast?_singleton, Option.mem_def, Option.some.injEq, forall_eq']
              cases name : isName part with
              | true => rfl
              | false =>
                  have directory := directory_of_step steps
                  have stays := step_of_not_isName name directory
                  obtain rfl : next = place := Except.ok.inj (steps.symm.trans stays)
                  simp [directory] at holds

/-- A path that leads to a file somewhere leads to each file that another spelling of it leads to. -/
theorem resolve_of_spelling {tree tree' : FileTree} {workingDir workingDir' place place' : Location}
    {path path' : String} {file file' : File}
    (same : Path.components path = Path.components path')
    (leads : tree.LeadsTo workingDir path place file)
    (leads' : tree'.LeadsTo workingDir' path' place' file') :
    tree'.resolve workingDir' path = .ok place' := by
  obtain ⟨absolute, names⟩ := Path.names_eq_of_components same
  have parts : (Text.cutAll '/' path).filter isName = (Text.cutAll '/' path').filter isName := names
  obtain ⟨filled, clean, short, walks⟩ := resolve_eq_ok_iff.mp leads.1
  obtain ⟨-, -, -, walks'⟩ := resolve_eq_ok_iff.mp leads'.1
  refine resolve_eq_ok_iff.mpr ⟨filled, clean, short, ?_⟩
  refine walk_of_filter (isName_of_walk walks leads.2) ?_
  rw [parts, start, absolute]
  exact walk_filter walks'

end FileTree

/-- Surroundings with the same working directory, between which a file only changed if the time of
    its last change tells. -/
structure Surroundings.Agree (host host' : Surroundings) : Prop where
  workingDir : host.workingDir = host'.workingDir
  unchanged {place : Location} {file file' : File} :
    host.files.at? place = some (.file file) → host'.files.at? place = some (.file file') →
      file.modified = file'.modified → file.content = file'.content

namespace FileTree

section

variable {tree tree' : FileTree} {workingDir workingDir' : Location} {path path' : String}

theorem find_congr (same : tree.resolve workingDir path = tree.resolve workingDir' path') :
    tree.find workingDir path = tree.find workingDir' path' := by
  simp only [find, same]

theorem modified_congr (same : tree.find workingDir path = tree'.find workingDir' path') :
    tree.modified workingDir path = tree'.modified workingDir' path' := by
  simp only [modified, same]

theorem readText_congr (same : tree.find workingDir path = tree'.find workingDir' path') :
    tree.readText workingDir path = tree'.readText workingDir' path' := by
  simp only [readText, same]

theorem modified_eq_ok_iff {modified : Option Int} :
    tree.modified workingDir path = .ok modified ↔
      ∃ entry, tree.find workingDir path = .ok entry ∧ match entry with
        | .file file => modified = some file.modified
        | .directory => modified = none := by
  simp only [FileTree.modified, bind, Except.bind]
  cases tree.find workingDir path with
  | error fault => simp
  | ok entry => cases entry <;> simp [eq_comm]

theorem exists_leadsTo_of_readText {text : String}
    (reads : tree.readText workingDir path = .ok text) :
    ∃ place file, tree.LeadsTo workingDir path place file := by
  simp only [readText, bind, Except.bind] at reads
  split at reads
  · contradiction
  · next entry found =>
      cases entry with
      | directory => contradiction
      | file file =>
          obtain ⟨place, leads⟩ := leadsTo_of_find found
          exact ⟨place, file, leads⟩

theorem readText_of_modified_error {fault : FileFault}
    (fails : tree.modified workingDir path = .error fault) :
    tree.readText workingDir path = .error fault := by
  simp only [modified, readText, bind, Except.bind] at fails ⊢
  cases found : tree.find workingDir path with
  | error other => simpa [found] using fails
  | ok entry => cases entry <;> simp [found] at fails

theorem LeadsTo.find {place : Location} {file : File}
    (leads : tree.LeadsTo workingDir path place file) :
    tree.find workingDir path = .ok (.file file) := by
  simp only [FileTree.find, leads.1, bind, Except.bind, leads.2]

end

end FileTree

/-- What is read at the end of a path is told by the time of its last change, between one time and
    another. -/
def Surroundings.Dates (earlier later : Surroundings) : Prop :=
  ∀ path modified, earlier.files.modified earlier.workingDir path = .ok modified →
    later.files.modified later.workingDir path = .ok modified →
      earlier.files.readText earlier.workingDir path = later.files.readText later.workingDir path

namespace Surroundings

theorem Dates.readText {earlier later : Surroundings} (dates : earlier.Dates later)
    {path path' text : String} {modified : Option Int}
    (same : Path.components path = Path.components path')
    (before : earlier.files.modified earlier.workingDir path = .ok modified)
    (after : later.files.modified later.workingDir path' = .ok modified)
    (reads : earlier.files.readText earlier.workingDir path = .ok text) :
    later.files.readText later.workingDir path' = .ok text := by
  obtain ⟨place, file, leads⟩ := FileTree.exists_leadsTo_of_readText reads
  obtain ⟨entry, found, time⟩ := FileTree.modified_eq_ok_iff.mp before
  obtain rfl : entry = .file file := Except.ok.inj (found.symm.trans leads.find)
  obtain ⟨entry', found', time'⟩ := FileTree.modified_eq_ok_iff.mp after
  cases entry' with
  | directory =>
      simp only [time] at time'
      contradiction
  | file file' =>
      obtain ⟨place', leads'⟩ := FileTree.leadsTo_of_find found'
      have spelled : later.files.LeadsTo later.workingDir path place' file' :=
        ⟨FileTree.resolve_of_spelling same leads leads', leads'.2⟩
      have finds := spelled.find.trans leads'.find.symm
      rw [← FileTree.readText_congr finds, ← reads]
      exact (dates path modified before (by rw [FileTree.modified_congr finds, after])).symm

/-- Changes that show in the times of the files do so at the end of every path. -/
theorem Agree.dates {host host' : Surroundings} (agree : host.Agree host') : host.Dates host' := by
  intro path modified before after
  obtain ⟨entry, found, time⟩ := FileTree.modified_eq_ok_iff.mp before
  obtain ⟨entry', found', time'⟩ := FileTree.modified_eq_ok_iff.mp after
  cases entry with
  | directory =>
      cases entry' with
      | directory => exact FileTree.readText_congr (found.trans found'.symm)
      | file file' =>
          simp only [time] at time'
          contradiction
  | file file =>
      cases entry' with
      | directory =>
          simp only [time] at time'
          contradiction
      | file file' =>
          obtain ⟨place, resolves, holds⟩ := FileTree.leadsTo_of_find found
          obtain ⟨place', resolves', holds'⟩ := FileTree.leadsTo_of_find found'
          rw [← agree.workingDir] at resolves'
          obtain rfl := FileTree.resolve_eq rfl resolves resolves'
          have content := agree.unchanged holds holds' (Option.some.inj (time.symm.trans time'))
          simp only [FileTree.readText, found, found', bind, Except.bind, content]

theorem Agree.readText {host host' : Surroundings} (agree : host.Agree host')
    {workingDir : Location} {path path' text : String} {modified : Option Int}
    (same : Path.components path = Path.components path')
    (before : host.files.modified workingDir path = .ok modified)
    (after : host'.files.modified workingDir path' = .ok modified)
    (reads : host.files.readText workingDir path = .ok text) :
    host'.files.readText workingDir path' = .ok text := by
  have moved : Agree { host with workingDir } { host' with workingDir } := ⟨rfl, agree.unchanged⟩
  exact moved.dates.readText same before after reads

end Surroundings

end ScriptBridge
