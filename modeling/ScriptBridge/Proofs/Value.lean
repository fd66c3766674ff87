import Mathlib.Algebra.Ring.Int.Defs
import ScriptBridge.Proofs.Table
import ScriptBridge.Value

/-! # Values in JSON

What is written of a value does not say which kind it is. A reader tries the kinds one after the
other, at every node, and none of them takes what was written of a later one: a value whose maps are
in order is read back from its JSON. Other JSON is read unless something in it is no value of any
kind; one such leaf is enough, however deep it lies and even if another member takes its place.
-/

namespace ScriptBridge

section Results

variable {α β : Type} {f g : α → Option β} {as : List α}

theorem mapM_congr (same : ∀ a ∈ as, f a = g a) : as.mapM f = as.mapM g := by
  induction as with
  | nil => rfl
  | cons a as ih =>
      rw [List.mapM_cons, List.mapM_cons, same a List.mem_cons_self,
        ih fun b member => same b (List.mem_cons_of_mem a member)]

theorem mapM_eq_some_iff {bs : List β} : as.mapM f = some bs ↔ as.map f = bs.map some := by
  induction as generalizing bs with
  | nil => cases bs <;> simp
  | cons a as ih =>
      rw [List.mapM_cons]
      cases bs with
      | nil => cases f a <;> cases as.mapM f <;> simp
      | cons b bs =>
          rw [List.map_cons, List.map_cons, List.cons.injEq, ← ih]
          cases f a <;> cases as.mapM f <;> simp

theorem isSome_mapM_iff : (as.mapM f).isSome = true ↔ ∀ a ∈ as, (f a).isSome = true := by
  induction as with
  | nil => simp
  | cons a as ih =>
      rw [List.mapM_cons, List.forall_mem_cons, ← ih]
      cases f a <;> cases as.mapM f <;> simp

end Results

namespace Json

/-- A list comes after its items, and an object after its members. -/
theorem induct {motive : Json → Prop} (null : motive .null) (bool : ∀ value, motive (.bool value))
    (whole : ∀ n, motive (.whole n)) (fractional : ∀ written, motive (.fractional written))
    (text : ∀ value, motive (.text value)) (unpaired : ∀ written, motive (.unpaired written))
    (list : ∀ items, (∀ item ∈ items, motive item) → motive (.list items))
    (object : ∀ members, (∀ member ∈ members, motive member.2) → motive (.object members)) :
    ∀ json, motive json
  | .null => null
  | .bool value => bool value
  | .whole n => whole n
  | .fractional written => fractional written
  | .text value => text value
  | .unpaired written => unpaired written
  | .list items => list items fun item _ =>
      induct null bool whole fractional text unpaired list object item
  | .object members => object members fun member _ =>
      induct null bool whole fractional text unpaired list object member.2
termination_by json => sizeOf json
decreasing_by
  · have := List.sizeOf_lt_of_mem ‹item ∈ items›
    simp only [Json.list.sizeOf_spec]
    omega
  · obtain ⟨name, json⟩ := member
    have := List.sizeOf_lt_of_mem ‹(name, json) ∈ members›
    simp only [Json.object.sizeOf_spec, Prod.mk.sizeOf_spec] at this ⊢
    omega

/-- Something occurs in JSON: it is all of it, or occurs in an item or a member. -/
inductive Occurs (part : Json) : Json → Prop
  | here : Occurs part part
  | item {item : Json} {items : List Json} (member : item ∈ items) :
      Occurs part item → Occurs part (.list items)
  | member {entry : String × Json} {members : List (String × Json)} (member : entry ∈ members) :
      Occurs part entry.2 → Occurs part (.object members)

/-- Whether a node is no null, no fraction, no integer beyond 64 bits and no text with half of a
    surrogate pair. -/
def IsReadable : Json → Prop
  | .null | .fractional _ | .unpaired _ => False
  | .whole n => -2 ^ 63 ≤ n ∧ n < 2 ^ 63
  | .bool _ | .text _ | .list _ | .object _ => True

variable {part : Json}

theorem occurs_list_iff {items : List Json} :
    Occurs part (.list items) ↔ part = .list items ∨ ∃ item ∈ items, Occurs part item := by
  constructor
  · intro occurs
    cases occurs with
    | here => exact .inl rfl
    | item member inside => exact .inr ⟨_, member, inside⟩
  · rintro (rfl | ⟨item, member, inside⟩)
    · exact .here
    · exact .item member inside

theorem occurs_object_iff {members : List (String × Json)} :
    Occurs part (.object members) ↔
      part = .object members ∨ ∃ entry ∈ members, Occurs part entry.2 := by
  constructor
  · intro occurs
    cases occurs with
    | here => exact .inl rfl
    | member member inside => exact .inr ⟨_, member, inside⟩
  · rintro (rfl | ⟨entry, member, inside⟩)
    · exact .here
    · exact .member member inside

end Json

namespace Value

/-- A list comes after its items, and a map after its entries. -/
theorem induct {motive : Value → Prop} (bool : ∀ value, motive (.bool value))
    (int : ∀ value, motive (.int value)) (str : ∀ value, motive (.str value))
    (list : ∀ items, (∀ item ∈ items, motive item) → motive (.list items))
    (map : ∀ entries, (∀ entry ∈ entries, motive entry.2) → motive (.map entries)) :
    ∀ value, motive value
  | .bool value => bool value
  | .int value => int value
  | .str value => str value
  | .list items => list items fun item _ => induct bool int str list map item
  | .map entries => map entries fun entry _ => induct bool int str list map entry.2
termination_by value => sizeOf value
decreasing_by
  · have := List.sizeOf_lt_of_mem ‹item ∈ items›
    simp only [Value.list.sizeOf_spec]
    omega
  · obtain ⟨key, value⟩ := entry
    have := List.sizeOf_lt_of_mem ‹(key, value) ∈ entries›
    simp only [Value.map.sizeOf_spec, Prod.mk.sizeOf_spec] at this ⊢
    omega

/-- All maps within a value have their entries in the order of the keys, one for each key. -/
inductive Ordered : Value → Prop
  | bool (value : Bool) : Ordered (.bool value)
  | int (value : Int64) : Ordered (.int value)
  | str (value : String) : Ordered (.str value)
  | list {items : List Value} (inner : ∀ item ∈ items, Ordered item) : Ordered (.list items)
  | map {entries : Table Value} (keys : Table.Ordered entries)
      (inner : ∀ entry ∈ entries, Ordered entry.2) : Ordered (.map entries)

/-- The integer of 64 bits that there is of an integer. -/
def ofInt? (n : Int) : Option Value :=
  if fitsInt64 n then some (.int (Int64.ofInt n)) else none

/-- A reader for each kind of value, in the order in which they are tried. What is inside of a list or
    a map is read by `read?`. -/
def readers (read? : Json → Option Value) : List (Json → Option Value) :=
  [fun json => json.asBool?.map .bool,
    fun json => json.asWhole?.bind ofInt?,
    fun json => json.asText?.map .str,
    fun json => json.asList?.bind fun items => (items.mapM read?).map .list,
    fun json => json.asMembers?.bind fun members =>
      (members.mapM fun member => (read? member.2).map (member.1, ·)).map fun pairs =>
        .map (Table.ofPairs pairs)]

/-- What the first reader gives that gives anything. -/
def tryReaders (read? : Json → Option Value) (json : Json) : Option Value :=
  (readers read?).findSome? fun reader => reader json

theorem listOfJson?_eq_mapM (items : List Json) : listOfJson? items = items.mapM ofJson? := by
  induction items with
  | nil => rfl
  | cons item items ih =>
      rw [listOfJson?, ih, List.mapM_cons]
      rfl

theorem pairsOfJson?_eq_mapM (members : List (String × Json)) :
    pairsOfJson? members =
      members.mapM fun member => (ofJson? member.2).map (member.1, ·) := by
  induction members with
  | nil => rfl
  | cons member members ih =>
      rw [pairsOfJson?, ih, List.mapM_cons]
      cases ofJson? member.2 <;> rfl

theorem listToJson_eq_map (items : List Value) : listToJson items = items.map toJson := by
  induction items with
  | nil => rfl
  | cons item items ih => rw [listToJson, ih, List.map_cons]

theorem pairsToJson_eq_map (entries : List (String × Value)) :
    pairsToJson entries = entries.map fun entry => (entry.1, entry.2.toJson) := by
  induction entries with
  | nil => rfl
  | cons entry entries ih => rw [pairsToJson, ih, List.map_cons]

theorem tryReaders_whole (read? : Json → Option Value) (n : Int) :
    tryReaders read? (.whole n) = ofInt? n := by
  simp only [tryReaders, readers, List.findSome?, Json.asBool?, Json.asWhole?, Json.asText?,
    Json.asList?, Json.asMembers?, Option.map_none, Option.bind_some, Option.bind_none]
  cases ofInt? n <;> rfl

theorem tryReaders_list (read? : Json → Option Value) (items : List Json) :
    tryReaders read? (.list items) = (items.mapM read?).map .list := by
  simp only [tryReaders, readers, List.findSome?, Json.asBool?, Json.asWhole?, Json.asText?,
    Json.asList?, Json.asMembers?, Option.map_none, Option.bind_some, Option.bind_none]
  cases items.mapM read? <;> rfl

theorem tryReaders_object (read? : Json → Option Value) (members : List (String × Json)) :
    tryReaders read? (.object members) =
      (members.mapM fun member => (read? member.2).map (member.1, ·)).map fun pairs =>
        .map (Table.ofPairs pairs) := by
  simp only [tryReaders, readers, List.findSome?, Json.asBool?, Json.asWhole?, Json.asText?,
    Json.asList?, Json.asMembers?, Option.map_none, Option.bind_some, Option.bind_none]
  cases members.mapM fun member => (read? member.2).map (member.1, ·) <;> rfl

theorem ofJson?_eq_tryReaders (json : Json) : ofJson? json = tryReaders ofJson? json := by
  cases json with
  | null | bool | fractional | text | unpaired => rfl
  | whole n => rw [tryReaders_whole, ofJson?, ofInt?]
  | list items => rw [tryReaders_list, ofJson?, listOfJson?_eq_mapM]
  | object members => rw [tryReaders_object, ofJson?, pairsOfJson?_eq_mapM]

/-- Whoever tries the kinds in order, at every node, reads what `ofJson?` does. -/
theorem eq_ofJson?_of_tries {read? : Json → Option Value}
    (tries : ∀ json, read? json = tryReaders read? json) (json : Json) :
    read? json = ofJson? json := by
  rw [tries, ofJson?_eq_tryReaders]
  induction json using Json.induct with
  | null | bool | whole | fractional | text | unpaired => rfl
  | list items ih =>
      rw [tryReaders_list, tryReaders_list]
      refine congrArg _ (mapM_congr fun item member => ?_)
      rw [tries, ofJson?_eq_tryReaders, ih item member]
  | object members ih =>
      rw [tryReaders_object, tryReaders_object]
      refine congrArg _ (mapM_congr fun member inside => ?_)
      rw [tries, ofJson?_eq_tryReaders, ih member inside]

theorem ofJson?_toJson {value : Value} (ordered : value.Ordered) :
    ofJson? value.toJson = some value := by
  induction ordered with
  | bool | str => rfl
  | int value =>
      have within : fitsInt64 value.toInt = true := by
        simp only [fitsInt64, Bool.and_eq_true, decide_eq_true_eq]
        exact ⟨value.le_toInt, value.toInt_lt⟩
      rw [toJson, ofJson?, if_pos within, Int64.ofInt_toInt]
  | @list items inner ih =>
      have back : (items.map toJson).map ofJson? = items.map some := by
        rw [List.map_map]
        exact List.map_congr_left ih
      rw [toJson, listToJson_eq_map, ofJson?, listOfJson?_eq_mapM, mapM_eq_some_iff.mpr back]
      rfl
  | @map entries keys inner ih =>
      have back : (entries.map fun entry => (entry.1, entry.2.toJson)).map
          (fun member => (ofJson? member.2).map (member.1, ·)) = entries.map some := by
        rw [List.map_map]
        refine List.map_congr_left fun entry member => ?_
        rw [Function.comp_apply, ih entry member]
        rfl
      rw [toJson, pairsToJson_eq_map, ofJson?, pairsOfJson?_eq_mapM, mapM_eq_some_iff.mpr back,
        Option.map_some, Table.ofPairs_of_ordered keys]

/-- JSON is read unless something in it is not, and a null in a corner is enough. -/
theorem isSome_ofJson?_iff (json : Json) :
    (ofJson? json).isSome = true ↔ ∀ part, Json.Occurs part json → part.IsReadable := by
  induction json using Json.induct with
  | null => exact ⟨nofun, fun all => (all .null .here).elim⟩
  | fractional written => exact ⟨nofun, fun all => (all (.fractional written) .here).elim⟩
  | unpaired written => exact ⟨nofun, fun all => (all (.unpaired written) .here).elim⟩
  | bool value => exact ⟨fun _ _ occurs => by cases occurs; trivial, fun _ => rfl⟩
  | text value => exact ⟨fun _ _ occurs => by cases occurs; trivial, fun _ => rfl⟩
  | whole n =>
      have within : (ofJson? (.whole n)).isSome = true ↔ (Json.whole n).IsReadable := by
        rw [ofJson?, Option.isSome_ite, fitsInt64, Bool.and_eq_true, decide_eq_true_eq,
          decide_eq_true_eq]
        rfl
      rw [within]
      exact ⟨fun readable _ occurs => by cases occurs; exact readable, fun all => all _ .here⟩
  | list items ih =>
      rw [ofJson?, Option.isSome_map, listOfJson?_eq_mapM, isSome_mapM_iff]
      constructor
      · intro read part occurs
        rcases Json.occurs_list_iff.mp occurs with rfl | ⟨item, member, inside⟩
        · trivial
        · exact (ih item member).mp (read item member) part inside
      · intro all item member
        exact (ih item member).mpr fun part inside => all part (.item member inside)
  | object members ih =>
      rw [ofJson?, Option.isSome_map, pairsOfJson?_eq_mapM, isSome_mapM_iff]
      simp only [Option.isSome_map]
      constructor
      · intro read part occurs
        rcases Json.occurs_object_iff.mp occurs with rfl | ⟨entry, member, inside⟩
        · trivial
        · exact (ih entry member).mp (read entry member) part inside
      · intro all entry member
        exact (ih entry member).mpr fun part inside => all part (.member member inside)

theorem pairsOfJson?_eq_some_iff {members : List (String × Json)} {pairs : List (String × Value)} :
    pairsOfJson? members = some pairs ↔
      members.map (fun member => (ofJson? member.2).map (member.1, ·)) = pairs.map some := by
  rw [pairsOfJson?_eq_mapM, mapM_eq_some_iff]

theorem find?_of_map_eq {members : List (String × Json)} {pairs : List (String × Value)}
    (read : members.map (fun member => (ofJson? member.2).map (member.1, ·)) = pairs.map some)
    (key : String) :
    (pairs.find? (·.1 == key)).map (·.2) =
      ((members.find? (·.1 == key)).map (·.2)).bind ofJson? := by
  induction members generalizing pairs with
  | nil =>
      obtain rfl : pairs = [] := by simpa using read
      rfl
  | cons member members ih =>
      cases pairs with
      | nil => simp at read
      | cons pair pairs =>
          simp only [List.map_cons, List.cons.injEq, Option.map_eq_some_iff] at read
          obtain ⟨⟨value, given, rfl⟩, rest⟩ := read
          by_cases same : member.1 = key
          · simp [same, given]
          · rw [List.find?_cons_of_neg (by simpa using same),
              List.find?_cons_of_neg (by simpa using same), ih rest]

theorem ofJson?_object_eq_some {members : List (String × Json)} {value : Value}
    (read : ofJson? (.object members) = some value) :
    ∃ pairs, pairsOfJson? members = some pairs ∧ value = .map (Table.ofPairs pairs) := by
  obtain ⟨pairs, given, rfl⟩ := Option.map_eq_some_iff.mp read
  exact ⟨pairs, given, rfl⟩

theorem get?_of_object {members : List (String × Json)} {entries : Table Value}
    (read : ofJson? (.object members) = some (.map entries)) (key : String) :
    Table.get? key entries = ((Json.object members).get? key).bind ofJson? := by
  obtain ⟨pairs, given, eq⟩ := ofJson?_object_eq_some read
  obtain rfl := Value.map.inj eq
  have back := congrArg List.reverse (pairsOfJson?_eq_some_iff.mp given)
  rw [← List.map_reverse, ← List.map_reverse] at back
  rw [Table.ofPairs, Table.get?_insertAll, find?_of_map_eq back, Table.get?_empty, Option.or_none]
  rfl

theorem ordered_of_ofJson? {json : Json} {value : Value} (read : ofJson? json = some value) :
    value.Ordered := by
  induction json using Json.induct generalizing value with
  | null | fractional | unpaired => cases read
  | bool b =>
      obtain rfl := Option.some.inj read
      exact .bool b
  | text s =>
      obtain rfl := Option.some.inj read
      exact .str s
  | whole n =>
      rw [ofJson?, Option.ite_none_right_eq_some] at read
      obtain rfl := Option.some.inj read.2
      exact .int _
  | list items ih =>
      obtain ⟨values, given, rfl⟩ := Option.map_eq_some_iff.mp read
      rw [listOfJson?_eq_mapM, mapM_eq_some_iff] at given
      refine .list fun value member => ?_
      obtain ⟨item, inside, same⟩ := List.mem_map.mp (given ▸ List.mem_map_of_mem member)
      exact ih item inside same
  | object members ih =>
      obtain ⟨pairs, given, rfl⟩ := ofJson?_object_eq_some read
      rw [pairsOfJson?_eq_some_iff] at given
      refine .map (Table.ordered_ofPairs pairs) fun entry member => ?_
      have kept : entry ∈ pairs :=
        (Table.mem_of_mem_insertAll member).resolve_left List.not_mem_nil
      obtain ⟨source, inside, same⟩ := List.mem_map.mp (given ▸ List.mem_map_of_mem kept)
      obtain ⟨value, held, rfl⟩ := Option.map_eq_some_iff.mp same
      exact ih source inside held

/-- Kinds that are not written are told apart all the same. To read JSON is to try the kinds in order
    at every node; what was written of a value, however deep, is read back as that value; other JSON
    is read just if nowhere in it there is a null, a number that is no integer of 64 bits, or a text
    that is none; and of an object, the last of several members of one name is what counts. -/
theorem untagged_exact :
    (∀ read? : Json → Option Value,
      (∀ json, read? json = tryReaders read? json) ↔ read? = ofJson?) ∧
    (∀ value : Value, value.Ordered → ofJson? value.toJson = some value) ∧
    (∀ json : Json, (ofJson? json).isSome = true ↔
      ∀ part, Json.Occurs part json → part.IsReadable) ∧
    ∀ (members : List (String × Json)) (value : Value),
      ofJson? (.object members) = some value →
        value.Ordered ∧ ∃ entries, value = .map entries ∧
          ∀ key, Table.get? key entries = ((Json.object members).get? key).bind ofJson? := by
  refine ⟨fun read? => ?_, fun _ => ofJson?_toJson, isSome_ofJson?_iff, ?_⟩
  · constructor
    · intro tries
      exact funext (eq_ofJson?_of_tries tries)
    · rintro rfl
      exact ofJson?_eq_tryReaders
  · intro members value read
    obtain ⟨pairs, -, rfl⟩ := ofJson?_object_eq_some read
    exact ⟨ordered_of_ofJson? read, _, rfl, get?_of_object read⟩

/-- A map in a list in a map, and an object with a member of which another takes the place. -/
theorem untagged_exact_of_nested :
    let inner : Value := .map [("a", .bool true), ("b", .int (-1))]
    let value : Value := .map [("list", .list [inner, .str "1"]), ("n", .int 1)]
    let members : List (String × Json) :=
      [("k", .whole 1), ("l", .list [.object [("k", .text "x")]]), ("k", .bool true)]
    value.Ordered ∧ ofJson? value.toJson = some value ∧
      (∀ part, Json.Occurs part (.object members) → part.IsReadable) ∧
      ∃ entries, ofJson? (.object members) = some (.map entries) ∧
        Table.get? "k" entries = some (.bool true) := by
  intro inner value members
  obtain ⟨-, back, reads, objects⟩ := untagged_exact
  have inner_ordered : inner.Ordered := by
    refine .map (List.pairwise_pair.mpr (by decide)) fun entry member => ?_
    simp only [List.mem_cons, List.not_mem_nil, or_false] at member
    rcases member with rfl | rfl
    · exact .bool true
    · exact .int (-1)
  have ordered : value.Ordered := by
    refine .map (List.pairwise_pair.mpr (by decide)) fun entry member => ?_
    simp only [List.mem_cons, List.not_mem_nil, or_false] at member
    rcases member with rfl | rfl
    · refine .list fun item member => ?_
      simp only [List.mem_cons, List.not_mem_nil, or_false] at member
      rcases member with rfl | rfl
      · exact inner_ordered
      · exact .str "1"
    · exact .int 1
  have given : (ofJson? (.object members)).isSome = true := by decide +kernel
  obtain ⟨read, eq⟩ := Option.isSome_iff_exists.mp given
  obtain ⟨-, entries, rfl, holds⟩ := objects members read eq
  exact ⟨ordered, back value ordered, (reads (.object members)).mp given, entries, eq, holds "k"⟩

end Value

end ScriptBridge
