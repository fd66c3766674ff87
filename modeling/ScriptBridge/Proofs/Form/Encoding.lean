import Mathlib
import ScriptBridge.Proofs.Form.Separation
import ScriptBridge.Proofs.Text.Escaping

/-! # Forms come back

What a form can hold in its fields is written as pairs: a text under the field itself, each item of a
list under `field[]`, and each entry of a map under `field[name]`. As the pairs of one field make up
its value whatever stands between them, the form that is read is the one that was written, whichever
way the octets are written and wherever the pairs of the other fields stand.
-/

namespace ScriptBridge.Form

/-- What fields and their entries are named: something without brackets. -/
structure IsName (name : String) : Prop where
  filled : name ≠ ""
  opening : '[' ∉ name.toList
  closing : ']' ∉ name.toList

instance (name : String) : Decidable (IsName name) :=
  decidable_of_iff (name ≠ "" ∧ '[' ∉ name.toList ∧ ']' ∉ name.toList)
    ⟨fun ⟨filled, opening, closing⟩ => ⟨filled, opening, closing⟩,
      fun ⟨filled, opening, closing⟩ => ⟨filled, opening, closing⟩⟩

/-- What a form can hold in a field: a text, a list of texts, or a map with texts in the order of their
    names. A list and a map are not empty, as no pair would tell of them. -/
inductive IsField : Value → Prop
  | text (text : String) : IsField (.str text)
  | list {texts : List String} (filled : texts ≠ []) : IsField (.list (texts.map .str))
  | map {texts : Table String} (filled : texts ≠ []) (ordered : texts.Ordered)
      (named : ∀ entry ∈ texts, IsName entry.1) : IsField (.ofTexts texts)

/-- The pairs that write what a field holds. -/
def pairsOf (field : String) : Value → List (String × String)
  | .str text => [(field, text)]
  | .list items => items.filterMap fun item => item.asStr?.map fun text => (field ++ "[]", text)
  | .map entries => entries.filterMap fun (name, entry) =>
      entry.asStr?.map fun text => (field ++ "[" ++ name ++ "]", text)
  | .bool _ | .int _ => []

/-- The pairs that write fields one after the other. -/
def allPairs (fields : Table Value) : List (String × String) :=
  fields.flatMap fun (field, value) => pairsOf field value

/-- Fields as text, every octet of a key and of a value as `%` and two digits. -/
def encode (fields : Table Value) : Bytes :=
  UrlEncoded.escapePairs (allPairs fields)

/-- Whether a text writes fields, each octet in any way and the pairs in any order that keeps those of
    one field as they are. -/
def Writes (data : Bytes) (fields : Table Value) : Prop :=
  ∃ pairs, UrlEncoded.SpellsPairs data pairs ∧
    ∀ field, pairsFor field pairs = pairsFor field (allPairs fields)

variable {field name : String} {value : Value}

theorem pairsOf_list (field : String) (texts : List String) :
    pairsOf field (.list (texts.map .str)) = texts.map fun text => (field ++ "[]", text) := by
  simp [pairsOf, List.filterMap_map, Value.asStr?]

theorem pairsOf_map (field : String) (texts : Table String) :
    pairsOf field (.ofTexts texts) =
      texts.map fun (name, text) => (field ++ "[" ++ name ++ "]", text) := by
  simp [pairsOf, Value.ofTexts, List.filterMap_map, Value.asStr?]

theorem ofKey_name (isName : IsName name) : Target.ofKey name = .whole name := by
  have whole : Target.splitBrackets name.toList = none := by
    cases splits : Target.splitBrackets name.toList with
    | none => rfl
    | some pieces =>
        obtain ⟨front, inner⟩ := pieces
        obtain ⟨same, -⟩ := splitBrackets_eq_some_iff.mp splits
        refine absurd ?_ isName.opening
        simp [same]
  simp only [Target.ofKey, whole]

theorem ofKey_entry (isField : IsName field) (isName : IsName name) :
    Target.ofKey (field ++ "[" ++ name ++ "]") = .entry field name := by
  have filled : field.toList ≠ [] := by
    intro empty
    exact isField.filled (String.toList_eq_nil_iff.mp empty)
  have splits : Target.splitBrackets (field ++ "[" ++ name ++ "]").toList =
      some (field.toList, name.toList) := by
    refine splitBrackets_eq_some_iff.mpr ⟨?_, filled, isField.opening, isName.opening, isName.closing⟩
    simp
  cases chars : name.toList with
  | nil => exact absurd (String.toList_eq_nil_iff.mp chars) isName.filled
  | cons c rest =>
      simp only [Target.ofKey, splits, chars, String.ofList_toList]
      rw [← chars, String.ofList_toList]

theorem ofKey_element (isField : IsName field) : Target.ofKey (field ++ "[]") = .element field :=
  ofKey_append_brackets isField.filled isField.opening

theorem target_of_mem_pairsOf (isField : IsName field) (holds : IsField value)
    {pair : String × String} (member : pair ∈ pairsOf field value) : target pair.1 = field := by
  cases holds with
  | text text =>
      obtain rfl := List.mem_singleton.mp member
      rw [target, ofKey_name isField]
      rfl
  | list filled =>
      rw [pairsOf_list] at member
      obtain ⟨text, -, rfl⟩ := List.mem_map.mp member
      rw [target, ofKey_element isField]
      rfl
  | map filled ordered named =>
      rw [pairsOf_map] at member
      obtain ⟨⟨name, text⟩, among, rfl⟩ := List.mem_map.mp member
      rw [target, ofKey_entry isField (named _ among)]
      rfl

theorem gather_cons (old : Option Value) (pair : String × String) (pairs : List (String × String)) :
    gather old (pair :: pairs) = gather (some (update old (Target.ofKey pair.1) pair.2)) pairs := rfl

theorem gather_items (isField : IsName field) (items : List Value) (texts : List String) :
    gather (some (.list items)) (texts.map fun text => (field ++ "[]", text)) =
      some (.list (items ++ texts.map .str)) := by
  induction texts generalizing items with
  | nil => simp [gather]
  | cons text texts ih =>
      rw [List.map_cons, gather_cons, ofKey_element isField]
      simp only [update, appendTo]
      rw [ih]
      simp

theorem gather_entries (isField : IsName field) (entries : Table Value) {texts : Table String}
    (named : ∀ entry ∈ texts, IsName entry.1) :
    gather (some (.map entries))
        (texts.map fun (name, text) => (field ++ "[" ++ name ++ "]", text)) =
      some (.map (Table.insertAll entries (texts.map fun (name, text) => (name, .str text)))) := by
  induction texts generalizing entries with
  | nil => rfl
  | cons entry texts ih =>
      obtain ⟨first, others⟩ := List.forall_mem_cons.mp named
      rw [List.map_cons, gather_cons, ofKey_entry isField first]
      simp only [update, putInto]
      rw [ih _ others]
      rfl

theorem ordered_texts {texts : Table String} (ordered : texts.Ordered) :
    Table.Ordered (texts.map fun (name, text) => (name, Value.str text)) :=
  List.pairwise_map.mpr ordered

/-- The pairs of a field make up what it holds. -/
theorem gather_pairsOf (isField : IsName field) (holds : IsField value) :
    gather none (pairsOf field value) = some value := by
  cases holds with
  | text text =>
      rw [pairsOf, gather_cons, ofKey_name isField]
      rfl
  | @list texts filled =>
      obtain ⟨first, others, rfl⟩ := List.exists_cons_of_ne_nil filled
      rw [pairsOf_list, List.map_cons, gather_cons, ofKey_element isField]
      exact gather_items isField [.str first] others
  | @map texts filled ordered named =>
      obtain ⟨⟨name, text⟩, others, rfl⟩ := List.exists_cons_of_ne_nil filled
      obtain ⟨first, rest⟩ := List.forall_mem_cons.mp named
      have again := Table.ofPairs_of_ordered (ordered_texts ordered)
      rw [pairsOf_map, List.map_cons, gather_cons, ofKey_entry isField first]
      calc gather (some (.map [(name, .str text)]))
            (others.map fun (name, text) => (field ++ "[" ++ name ++ "]", text))
        _ = some (.map (Table.ofPairs
              (((name, text) :: others).map fun (name, text) => (name, .str text)))) :=
          gather_entries isField _ rest
        _ = some (.ofTexts ((name, text) :: others)) := by rw [again]; rfl

theorem pairsFor_allPairs {fields : Table Value} (ordered : fields.Ordered)
    (writable : ∀ entry ∈ fields, IsName entry.1 ∧ IsField entry.2) (field : String) :
    pairsFor field (allPairs fields) =
      match Table.get? field fields with
      | some value => pairsOf field value
      | none => [] := by
  induction fields with
  | nil => rfl
  | cons entry fields ih =>
      obtain ⟨name, value⟩ := entry
      obtain ⟨least, tail⟩ := List.pairwise_cons.mp ordered
      obtain ⟨⟨isName, holds⟩, others⟩ := List.forall_mem_cons.mp writable
      have goes : ∀ pair ∈ pairsOf name value, target pair.1 = name := fun pair =>
        target_of_mem_pairsOf isName holds
      have parts : pairsFor field (allPairs ((name, value) :: fields)) =
          pairsFor field (pairsOf name value) ++ pairsFor field (allPairs fields) := by
        simp [pairsFor, allPairs]
      rw [parts, ih tail others, Table.get?]
      by_cases same : name = field
      · subst same
        have absent : Table.get? name fields = none := Table.get?_of_before least
        have all : pairsFor name (pairsOf name value) = pairsOf name value := by
          refine List.filter_eq_self.mpr ?_
          intro pair member
          exact decide_eq_true (goes pair member)
        rw [absent, all, if_pos rfl, List.append_nil]
      · have nothing : pairsFor field (pairsOf name value) = [] := by
          refine List.filter_eq_nil_iff.mpr ?_
          intro pair member here
          exact same ((goes pair member).symm.trans (of_decide_eq_true here))
        rw [nothing, if_neg same, List.nil_append]

theorem ofPairs_allPairs {fields : Table Value} (ordered : fields.Ordered)
    (writable : ∀ entry ∈ fields, IsName entry.1 ∧ IsField entry.2) :
    ofPairs (allPairs fields) = fields := by
  refine (ordered_ofPairs _).ext ordered ?_
  intro field
  rw [get?_ofPairs, pairsFor_allPairs ordered writable]
  cases held : Table.get? field fields with
  | none => exact ite_self none
  | some value =>
      obtain ⟨isField, holds⟩ := writable _ (Table.mem_of_get? held)
      rw [if_neg isField.filled]
      exact gather_pairsOf isField holds

/-- Reading takes back writing: a form with texts, lists and maps in its fields is read from what
    `encode` writes, and from every other way to write it. -/
theorem decode_encode {fields : Table Value} (ordered : fields.Ordered)
    (writable : ∀ entry ∈ fields, IsName entry.1 ∧ IsField entry.2) :
    decode (encode fields) = .map fields ∧ ∀ data, Writes data fields → decode data = .map fields := by
  have read : ∀ data, Writes data fields → decode data = .map fields := by
    rintro data ⟨pairs, spells, same⟩
    rw [decode, spells.pairs, ofPairs_congr same, ofPairs_allPairs ordered writable]
  refine ⟨read _ ?_, read⟩
  exact ⟨allPairs fields, UrlEncoded.spellsPairs_escapePairs _, fun _ => rfl⟩

/-- Fields of all three kinds, with marks, a NUL and a letter of two octets in their names and texts.
    The other text writes `t%5B%5d` and `t[]` for the same key, with another field between. -/
theorem decode_encode_of_marks :
    let fields : Table Value :=
      [("&=+%;\x00", .ofTexts [("0", "é"), ("k", "[]")]), ("t", .list [.str "a b", .str "+"]),
        ("x", .str "")]
    let few : Table Value := [("t", .list [.str "a b", .str "+"]), ("x", .str "")]
    let data := utf8 "t%5B%5d=a+b&x=&t[]=%2b"
    fields.Ordered ∧ (∀ entry ∈ fields, IsName entry.1 ∧ IsField entry.2) ∧
      decode (encode fields) = .map fields ∧
      few.Ordered ∧ (∀ entry ∈ few, IsName entry.1 ∧ IsField entry.2) ∧ Writes data few ∧
      decode data = .map few := by
  intro fields few data
  have named : ∀ name ∈ ["&=+%;\x00", "0", "k", "t", "x"], IsName name := by decide +kernel
  have inner : Table.Ordered [("0", "é"), ("k", "[]")] := by
    simp only [Table.Ordered]
    decide +kernel
  have isMap : IsField (.ofTexts [("0", "é"), ("k", "[]")]) := by
    refine .map (by decide) inner ?_
    intro entry member
    rcases List.mem_pair.mp member with rfl | rfl
    · exact named "0" (by decide)
    · exact named "k" (by decide)
  have isList : IsField (.list [.str "a b", .str "+"]) :=
    @IsField.list ["a b", "+"] (by decide)
  have fewWritable : ∀ entry ∈ few, IsName entry.1 ∧ IsField entry.2 := by
    intro entry member
    rcases List.mem_pair.mp member with rfl | rfl
    · exact ⟨named "t" (by decide), isList⟩
    · exact ⟨named "x" (by decide), .text ""⟩
  have writable : ∀ entry ∈ fields, IsName entry.1 ∧ IsField entry.2 :=
    List.forall_mem_cons.mpr ⟨⟨named _ (by decide), isMap⟩, fewWritable⟩
  have keys : ["&=+%;\x00", "t", "x"].Pairwise (· < ·) := by decide +kernel
  have ordered : fields.Ordered := List.pairwise_map.mp keys
  have fewOrdered : few.Ordered := (List.pairwise_cons.mp ordered).2
  have writes : Writes data few := by
    have octets : utf8 "t[]" = [116, 91, 93] ∧ utf8 "a b" = [97, 32, 98] ∧ utf8 "x" = [120] ∧
        utf8 "" = [] ∧ utf8 "+" = [43] := by
      decide +kernel
    obtain ⟨tags, spaced, x, empty, plus⟩ := octets
    refine ⟨[("t[]", "a b"), ("x", ""), ("t[]", "+")],
      ⟨[[116, 37, 53, 66, 37, 53, 100, 61, 97, 43, 98], [120, 61], [116, 91, 93, 61, 37, 50, 98]],
        by decide +kernel, .cons ?_ (.cons ?_ (.cons ?_ .nil))⟩, ?_⟩
    · refine ⟨[116, 37, 53, 66, 37, 53, 100], [97, 43, 98], rfl, ?_, ?_⟩
      · rw [tags]
        exact .literal rfl (.escaped rfl (.escaped rfl .nil))
      · rw [spaced]
        exact .literal rfl (.space (.literal rfl .nil))
    · refine ⟨[120], [], rfl, ?_, ?_⟩
      · rw [x]
        exact .literal rfl .nil
      · rw [empty]
        exact .nil
    · refine ⟨[116, 91, 93], [37, 50, 98], rfl, ?_, ?_⟩
      · rw [tags]
        exact .literal rfl (.literal rfl (.literal rfl .nil))
      · rw [plus]
        exact .escaped rfl .nil
    · intro field
      have apart : target ("x", "").1 ≠ target ("t[]", "+").1 := by decide +kernel
      exact pairsFor_swap apart field [("t[]", "a b")] []
  exact ⟨ordered, writable, (decode_encode ordered writable).1, fewOrdered, fewWritable, writes,
    (decode_encode fewOrdered fewWritable).2 data writes⟩

end ScriptBridge.Form
