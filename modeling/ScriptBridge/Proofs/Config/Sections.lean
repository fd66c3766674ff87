import ScriptBridge.Config.Section
import ScriptBridge.Proofs.Duration
import ScriptBridge.Proofs.Json.Reading
import ScriptBridge.Proofs.SocketAddress
import ScriptBridge.Proofs.Table

/-! # Sections that are written are read back

What a setting writes is read as the same value. A section of which some members are left out gives
each field that it still has what was written there, and leaves the others as they were. What every
field keeps, a section keeps in whatever form it is given.
-/

namespace ScriptBridge

theorem Document.ofJsonMembers_eq_map (members : List (String × Json)) :
    Document.ofJsonMembers members =
      members.map fun member => (member.1, Document.ofJson member.2) := by
  induction members with
  | nil => rfl
  | cons member members ih => rw [Document.ofJsonMembers, ih]; rfl

namespace Setting

variable {α : Type}

/-- Whether what a setting writes of a value is read as the value. -/
def Restores (setting : Setting α) (a : α) : Prop :=
  ∀ lists, setting.read lists (Document.ofJson (setting.write a)) = some a

theorem restores_text (s : String) : text.Restores s := fun _ => rfl

theorem restores_bool (b : Bool) : bool.Restores b := fun _ => rfl

theorem nat?_whole {n limit : Nat} (small : n ≤ limit) :
    (Document.whole n).nat? limit = some n := by
  simp [Document.nat?, small]

theorem restores_word (n : UInt64) : word.Restores n := fun _ => by
  have small : n.toNat ≤ Numeral.maxWord := Nat.le_of_lt_succ n.toNat_lt
  simp [word, scalar, Document.ofJson, nat?_whole small]

theorem restores_port (n : UInt16) : port.Restores n := fun _ => by
  have small : n.toNat ≤ 65535 := Nat.le_of_lt_succ n.toNat_lt
  simp [port, scalar, Document.ofJson, nat?_whole small]

theorem restores_duration (span : Duration) : duration.Restores span := fun _ => by
  simp [duration, scalar, Document.ofJson, Document.text?, Duration.parse?_render]

theorem restores_address (place : SocketAddress) : address.Restores place := fun _ => by
  simp [address, scalar, Document.ofJson, Document.text?, SocketAddress.parse?_render]

theorem mapM_text (pairs : List (String × String)) :
    (pairs.map fun entry => (entry.1, Document.text entry.2)).mapM
      (fun member => member.2.text?.map fun value => (member.1, value)) = some pairs := by
  induction pairs with
  | nil => rfl
  | cons entry pairs ih =>
      rw [List.map_cons, List.mapM_cons, ih]
      rfl

/-- Texts under names are read back in the order of the names, so they have to be in it. -/
theorem restores_texts {table : Table String} (ordered : Table.Ordered table) :
    texts.Restores table := fun _ => by
  have members : Document.ofJson (texts.write table) =
      .table (table.map fun entry => (entry.1, Document.text entry.2)) := by
    simp [texts, scalar, Document.ofJson, Document.ofJsonMembers_eq_map, Function.comp_def]
  have pairs := mapM_text table
  rw [members]
  simp only [texts, scalar, Document.members?, Option.bind_eq_bind, Option.bind_some]
  rw [pairs, Option.bind_some, Table.ofPairs_of_ordered ordered]

@[simp]
theorem isPlain_text (s : String) : (text.write s).IsPlain := .text s

@[simp]
theorem isPlain_bool (b : Bool) : (bool.write b).IsPlain := .bool b

@[simp]
theorem isPlain_word (n : UInt64) : (word.write n).IsPlain := .whole n.toNat

@[simp]
theorem isPlain_port (n : UInt16) : (port.write n).IsPlain := .whole n.toNat

@[simp]
theorem isPlain_duration (span : Duration) : (duration.write span).IsPlain := .text span.render

@[simp]
theorem isPlain_address (place : SocketAddress) : (address.write place).IsPlain :=
  .text place.render

@[simp]
theorem isPlain_texts (table : Table String) : (texts.write table).IsPlain := by
  refine .object fun member listed => ?_
  obtain ⟨entry, _, rfl⟩ := List.mem_map.mp listed
  exact .text entry.2

end Setting

namespace Json

/-- The members of an object that some names keep. -/
def keepMembers (keep : String → Bool) : Json → Json
  | .object members => .object (members.filter fun member => keep member.1)
  | json => json

theorem IsPlain.keepMembers {json : Json} (plain : json.IsPlain) (keep : String → Bool) :
    (json.keepMembers keep).IsPlain := by
  cases plain with
  | object plain => exact .object fun member kept => plain member (List.mem_filter.mp kept).1
  | list plain => exact .list plain
  | _ => constructor

end Json

namespace Field

variable {σ : Type}

/-- What a section comes to whose fields are given their documents one after the other, those apart
    that are not kept. -/
inductive Gives (lists : ListSections) (keep : String → Bool) (given : Field σ → Document) :
    List (Field σ) → σ → σ → Prop where
  | nil (s : σ) : Gives lists keep given [] s s
  | kept {field : Field σ} {fields : List (Field σ)} {s next t : σ}
    (wanted : keep field.name = true) (read : field.read lists (given field) s = some next)
    (rest : Gives lists keep given fields next t) : Gives lists keep given (field :: fields) s t
  | left {field : Field σ} {fields : List (Field σ)} {s t : σ} (unwanted : keep field.name = false)
    (rest : Gives lists keep given fields s t) : Gives lists keep given (field :: fields) s t

variable {lists : ListSections} {keep : String → Bool} {given : Field σ → Document}

theorem Gives.of {α : Type} {name : String} {setting : Setting α} {get : σ → α}
    {set : α → σ → σ} {a : α} {fields : List (Field σ)} {s t : σ}
    (read : setting.read lists (given (.of name setting get set)) = some a)
    (same : set (get s) s = s)
    (rest : Gives lists keep given fields (set (if keep name then a else get s) s) t) :
    Gives lists keep given (.of name setting get set :: fields) s t := by
  cases wanted : keep name with
  | true =>
      rw [wanted, if_pos rfl] at rest
      exact .kept wanted (congrArg (Option.map fun value => set value s) read) rest
  | false =>
      rw [wanted, if_neg Bool.false_ne_true, same] at rest
      exact .left wanted rest

theorem find?_of_mem {fields : List (Field σ)} {field : Field σ}
    (distinct : (fields.map (·.name)).Nodup) (member : field ∈ fields) :
    fields.find? (·.name == field.name) = some field := by
  induction fields with
  | nil => contradiction
  | cons first fields ih =>
      obtain ⟨other, distinct⟩ := List.nodup_cons.mp distinct
      rcases List.mem_cons.mp member with rfl | later
      · simp
      · have different : first.name ≠ field.name := fun same =>
          other (List.mem_map.mpr ⟨field, later, same.symm⟩)
        rw [List.find?_cons_of_neg (by simpa using different), ih distinct later]

theorem readMembers_of_gives {all fields : List (Field σ)} {s t : σ}
    (gives : Gives lists keep given fields s t) (distinct : (all.map (·.name)).Nodup)
    (among : fields.Sublist all) {seen : List String} (fresh : ∀ field ∈ fields, field.name ∉ seen) :
    readMembers all lists seen s
      ((fields.filter fun field => keep field.name).map fun field => (field.name, given field)) =
        some t := by
  induction gives generalizing seen with
  | nil s => rfl
  | @kept field fields s next t wanted read _ ih =>
      have known := find?_of_mem distinct (among.subset List.mem_cons_self)
      have unseen := fresh field List.mem_cons_self
      have unlike := (List.nodup_cons.mp ((among.map (·.name)).nodup distinct)).1
      have rest := @ih (List.Sublist.trans (List.sublist_cons_self _ _) among) (field.name :: seen)
        (fun other member same => by
          rcases List.mem_cons.mp same with equal | before
          · exact unlike (List.mem_map.mpr ⟨other, member, equal⟩)
          · exact fresh other (List.mem_cons_of_mem _ member) before)
      have picked : (field :: fields).filter (fun field => keep field.name) =
          field :: fields.filter (fun field => keep field.name) := List.filter_cons_of_pos wanted
      rw [picked, List.map_cons, readMembers, known]
      simp [unseen, read, rest]
  | @left field fields s t unwanted _ ih =>
      have picked : (field :: fields).filter (fun field => keep field.name) =
          fields.filter (fun field => keep field.name) :=
        List.filter_cons_of_neg (by simp [unwanted])
      rw [picked]
      exact ih (List.Sublist.trans (List.sublist_cons_self _ _) among)
        fun other member => fresh other (List.mem_cons_of_mem _ member)

/-- A section of which some members are left is read as what it then comes to. -/
theorem readSection_of_gives {fields : List (Field σ)} {s t : σ}
    (gives : Gives lists keep given fields s t) (distinct : (fields.map (·.name)).Nodup) :
    readSection fields s lists (.table
      ((fields.filter fun field => keep field.name).map fun field => (field.name, given field))) =
        some t :=
  readMembers_of_gives gives distinct (List.Sublist.refl _) (by simp)

theorem keepMembers_writeSection (fields : List (Field σ)) (s : σ) (keep : String → Bool) :
    (writeSection fields s).keepMembers keep =
      .object ((fields.filter fun field => keep field.name).map
        fun field => (field.name, field.write s)) := by
  rw [writeSection, Json.keepMembers, List.filter_map]
  rfl

theorem read_keepMembers {fields : List (Field σ)} {start s t : σ}
    (gives : Gives lists keep (fun field => .ofJson (field.write s)) fields start t)
    (distinct : (fields.map (·.name)).Nodup) :
    (setting fields start).read lists
      (.ofJson (((setting fields start).write s).keepMembers keep)) = some t := by
  have read := readSection_of_gives gives distinct
  have document : Document.ofJson ((writeSection fields s).keepMembers keep) =
      .table ((fields.filter fun field => keep field.name).map
        fun field => (field.name, .ofJson (field.write s))) := by
    rw [keepMembers_writeSection, Document.ofJson, Document.ofJsonMembers_eq_map, List.map_map]
    rfl
  rw [← document] at read
  exact read

theorem isPlain_write {fields : List (Field σ)}
    (plain : ∀ field ∈ fields, ∀ s, (field.write s).IsPlain) (start s : σ) :
    ((setting fields start).write s).IsPlain := by
  refine .object fun member listed => ?_
  obtain ⟨field, among, rfl⟩ := List.mem_map.mp listed
  exact plain field among s

/-- Whether a field leaves a property of its section as it is, whatever it is given. -/
def Keeps (P : σ → Prop) (field : Field σ) : Prop :=
  ∀ lists doc s next, P s → field.read lists doc s = some next → P next

variable {P : σ → Prop}

theorem Keeps.of {α : Type} {Q : α → Prop} {name : String} {setting : Setting α} {get : σ → α}
    {set : α → σ → σ} (yields : ∀ lists doc a, setting.read lists doc = some a → Q a)
    (keeps : ∀ a s, Q a → P s → P (set a s)) : Keeps P (.of name setting get set) := by
  intro lists doc s next before read
  obtain ⟨a, value, rfl⟩ := Option.map_eq_some_iff.mp read
  exact keeps a s (yields lists doc a value) before

theorem Keeps.of_apart {α : Type} {name : String} {setting : Setting α} {get : σ → α}
    {set : α → σ → σ} (keeps : ∀ a s, P s → P (set a s)) : Keeps P (.of name setting get set) :=
  @Keeps.of σ P α (fun _ => True) name setting get set (fun _ _ _ _ => trivial)
    fun a s _ before => keeps a s before

theorem readMembers_keeps {fields : List (Field σ)} (keeps : ∀ field ∈ fields, field.Keeps P)
    {seen : List String} {s t : σ} {members : List (String × Document)} (before : P s)
    (read : readMembers fields lists seen s members = some t) : P t := by
  induction members generalizing seen s with
  | nil =>
      obtain rfl := Option.some.inj read
      exact before
  | cons member members ih =>
      simp only [readMembers] at read
      split at read
      · exact ih before read
      · next field found =>
          split at read
          · contradiction
          · obtain ⟨next, first, rest⟩ := Option.bind_eq_some_iff.mp read
            exact ih (keeps field (List.mem_of_find?_eq_some found) _ _ _ _ before first) rest

theorem readItems_keeps {fields : List (Field σ)} (keeps : ∀ field ∈ fields, field.Keeps P)
    {s t : σ} {items : List Document} (before : P s)
    (read : readItems lists s fields items = some t) : P t := by
  induction items generalizing fields s with
  | nil =>
      cases fields <;>
      · obtain rfl := Option.some.inj read
        exact before
  | cons item items ih =>
      cases fields with
      | nil =>
          simp only [readItems] at read
          split at read
          · obtain rfl := Option.some.inj read
            exact before
          · contradiction
      | cons field fields =>
          obtain ⟨next, first, rest⟩ := Option.bind_eq_some_iff.mp read
          exact ih (fun other member => keeps other (List.mem_cons_of_mem _ member))
            (keeps field List.mem_cons_self _ _ _ _ before first) rest

theorem readSection_keeps {fields : List (Field σ)} (keeps : ∀ field ∈ fields, field.Keeps P)
    {start t : σ} {doc : Document} (before : P start)
    (read : readSection fields start lists doc = some t) : P t := by
  unfold readSection at read
  split at read
  · exact readMembers_keeps keeps before read
  · obtain rfl := Option.some.inj read
    exact before
  · split at read
    · contradiction
    · exact readItems_keeps keeps before read
  · contradiction

end Field

end ScriptBridge
