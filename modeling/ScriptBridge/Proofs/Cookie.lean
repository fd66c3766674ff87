import Mathlib.Data.List.Induction
import ScriptBridge.Cookie.Jar
import ScriptBridge.Environment
import ScriptBridge.Proofs.Table
import ScriptBridge.Proofs.Text.Cutting

/-! # Cookies come back

The header that a jar sends is read as the cookies of the jar: what a `Set-Cookie` text can put into
a jar has nothing in it that a header is cut apart at.
-/

namespace ScriptBridge

namespace Cookie

/-- A cookie that a header carries: its name is there, begins with no space and ends at the first
    `=`, and the cookie ends at the first semicolon. -/
structure Carried (cookie : String × String) : Prop where
  begins : ∃ c rest, cookie.1.toList = c :: rest ∧ c ≠ ' '
  name : '=' ∉ cookie.1.toList
  whole : ';' ∉ cookie.1.toList ++ cookie.2.toList

def piece (cookie : String × String) : String :=
  cookie.1 ++ "=" ++ cookie.2

/-- The cookie in a piece of a header. -/
def read? (piece : String) : Option (String × String) :=
  Text.cutFirst? '=' (Text.trimLeadingSpaces piece)

theorem parse_eq (header : String) :
    parse header = Table.ofPairs ((Text.cutAll ';' header).filterMap read?) := rfl

theorem render_cons (cookie next : String × String) (cookies : Table String) :
    render (cookie :: next :: cookies) = piece cookie ++ "; " ++ render (next :: cookies) := by
  simp [render, piece, String.intercalate_cons_cons]

theorem render_singleton (cookie : String × String) : render [cookie] = piece cookie := by
  simp [render, piece]

theorem Carried.piece_free {cookie : String × String} (carried : Carried cookie) :
    ';' ∉ (piece cookie).toList := by
  have whole := carried.whole
  simp only [List.mem_append, not_or] at whole
  simp [piece, whole]

theorem Carried.read {cookie : String × String} (carried : Carried cookie) :
    read? (piece cookie) = some cookie ∧ read? (" " ++ piece cookie) = some cookie := by
  have cut : Text.cutFirst? '=' (piece cookie) = some cookie := by
    have chars : (piece cookie).toList = cookie.1.toList ++ '=' :: cookie.2.toList := by
      simp [piece]
    rw [Text.cutFirst?, chars, cutFirst?_append_mark carried.name]
    simp
  have trimmed := Text.trimLeadingSpaces_append ("=" ++ cookie.2) carried.begins
  simp only [← String.append_assoc] at trimmed
  constructor
  · rw [read?, piece, trimmed.2]
    exact cut
  · rw [read?, piece, ← String.append_assoc, ← String.append_assoc, trimmed.1]
    exact cut

theorem cutAll_render {cookie : String × String} {cookies : Table String}
    (carried : ∀ other ∈ cookie :: cookies, Carried other) {front : List Char}
    (free : ';' ∉ front) :
    cutAll ';' (front ++ (render (cookie :: cookies)).toList) =
      (front ++ (piece cookie).toList) :: cookies.map fun other => ' ' :: (piece other).toList := by
  have first : ';' ∉ front ++ (piece cookie).toList := by
    simp [free, (carried cookie List.mem_cons_self).piece_free]
  induction cookies generalizing cookie front with
  | nil =>
      rw [render_singleton]
      exact cutAll_of_free first
  | cons next cookies ih =>
      have carried' : ∀ other ∈ next :: cookies, Carried other := fun other member =>
        carried other (List.mem_cons_of_mem _ member)
      have split : front ++ (render (cookie :: next :: cookies)).toList =
          (front ++ (piece cookie).toList) ++
            ';' :: ([' '] ++ (render (next :: cookies)).toList) := by
        rw [render_cons]
        simp
      have second : ';' ∉ [' '] ++ (piece next).toList := by
        simp [(carried' next List.mem_cons_self).piece_free]
      rw [split, cutAll_append_mark first, ih carried' (by simp) second]
      rfl

theorem parse_render {cookies : Table String} (ordered : Table.Ordered cookies)
    (carried : ∀ cookie ∈ cookies, Carried cookie) : parse (render cookies) = cookies := by
  cases cookies with
  | nil => decide +kernel
  | cons cookie cookies =>
      have segments : Text.cutAll ';' (render (cookie :: cookies)) =
          piece cookie :: cookies.map fun other => " " ++ piece other := by
        have free : ';' ∉ ([] : List Char) := List.not_mem_nil
        have pieces := cutAll_render carried free
        rw [Text.cutAll, ← List.nil_append (render (cookie :: cookies)).toList, pieces]
        simp only [List.map_cons, List.nil_append, String.ofList_toList, List.map_map]
        congr 1
        exact List.map_congr_left fun other _ => String.toList_inj.mp (by simp)
      have others : (cookies.map fun other => " " ++ piece other).filterMap read? = cookies := by
        clear ordered segments
        induction cookies with
        | nil => rfl
        | cons next cookies ih =>
            simp only [List.forall_mem_cons] at carried ih
            rw [List.map_cons, List.filterMap_cons_some carried.2.1.read.2]
            exact congrArg _ (ih ⟨carried.1, carried.2.2⟩)
      rw [parse_eq, segments, List.filterMap_cons_some (carried cookie List.mem_cons_self).read.1,
        others, Table.ofPairs_of_ordered ordered]

theorem mem_render_iff {c : Char} (plain : c ≠ '=' ∧ c ≠ ';' ∧ c ≠ ' ') (cookies : Table String) :
    c ∈ (render cookies).toList ↔
      ∃ cookie ∈ cookies, c ∈ cookie.1.toList ++ cookie.2.toList := by
  obtain ⟨notEqual, notSemicolon, notSpace⟩ := plain
  induction cookies with
  | nil => simp [render]
  | cons cookie cookies ih =>
      cases cookies with
      | nil => simp [render_singleton, piece, notEqual]
      | cons next cookies =>
          rw [render_cons]
          simp [ih, piece, notEqual, notSemicolon, notSpace, or_assoc]

end Cookie

namespace SetCookie

/-- Whether a text says of a name that it has a value, with attributes: name and value stand on the two
    sides of the first `=`, with blanks around them, and each attribute behind a semicolon. -/
def Sets (text name value : String) (attributes : List String) : Prop :=
  ∃ front back : String,
    text.toList = (front.toList ++ '=' :: back.toList) ++
      attributes.flatMap (fun part => ';' :: part.toList) ∧
    '=' ∉ front.toList ∧ (∀ part ∈ front :: back :: attributes, ';' ∉ part.toList) ∧
    Text.trim front = name ∧ Text.trim back = value ∧ name ≠ ""

theorem parse_of_sets {text name value : String} {attributes : List String}
    (sets : Sets text name value attributes) :
    parse text = some ⟨name, value, attributes.any expires⟩ := by
  obtain ⟨front, back, whole, free, closed, rfl, rfl, named⟩ := sets
  simp only [List.forall_mem_cons] at closed
  obtain ⟨first, second, others⟩ := closed
  have parts : cutAll ';' text.toList =
      (front.toList ++ '=' :: back.toList) :: attributes.map String.toList := by
    have joined : attributes.flatMap (fun part => ';' :: part.toList) =
        (attributes.map String.toList).flatMap (';' :: ·) := by
      rw [List.flatMap_map]
    rw [whole, joined]
    refine cutAll_joined ?_
    intro piece member
    rcases List.mem_cons.mp member with rfl | member
    · simp [first, second]
    · obtain ⟨part, among, rfl⟩ := List.mem_map.mp member
      exact others part among
  have texts : Text.cutAll ';' text = (front ++ "=" ++ back) :: attributes := by
    rw [Text.cutAll, parts, List.map_cons, List.map_map]
    congr 1
    · exact String.toList_inj.mp (by simp)
    · rw [show String.ofList ∘ String.toList = id from funext fun s => String.ofList_toList,
        List.map_id]
  have halves : Text.cutFirst? '=' (front ++ "=" ++ back) = some (front, back) :=
    Text.cutFirst?_eq_some_iff.mpr ⟨by simp, free⟩
  simp [parse, texts, halves, named]

/-- What is read from a text is what it sets. -/
theorem sets_of_parse {text : String} {set : SetCookie} (read : parse text = some set) :
    ∃ attributes, Sets text set.name set.value attributes := by
  have joined := cutParts_joined ';' text.toList
  have closed := cutAll_free ';' text.toList
  simp only [parse, Text.cutAll, cutAll, List.map_cons] at read closed
  obtain ⟨⟨front, back⟩, halves, read⟩ := Option.bind_eq_some_iff.mp read
  obtain ⟨whole, free⟩ := Text.cutFirst?_eq_some_iff.mp halves
  rw [String.toList_ofList] at whole
  dsimp only at read
  split at read
  · cases read
  · next named =>
      obtain rfl := Option.some.inj read
      obtain ⟨first, others⟩ := List.forall_mem_cons.mp closed
      refine ⟨(cutParts ';' text.toList).2.map String.ofList, front, back, ?_, free, ?_, rfl, rfl,
        by simpa using named⟩
      · rw [← whole, List.flatMap_map]
        simp [joined]
      · rw [whole] at first
        simp only [List.mem_append, List.mem_cons, not_or] at first
        simp only [List.forall_mem_cons, List.forall_mem_map, String.toList_ofList]
        exact ⟨first.1, first.2.2, others⟩

theorem Sets.carried {text name value : String} {attributes : List String}
    (sets : Sets text name value attributes) : Cookie.Carried (name, value) := by
  obtain ⟨front, back, -, free, closed, rfl, rfl, named⟩ := sets
  simp only [List.forall_mem_cons] at closed
  obtain ⟨first, second, -⟩ := closed
  constructor
  · cases chars : (Text.trim front).toList with
    | nil => exact absurd (String.toList_eq_nil_iff.mp chars) named
    | cons c rest =>
        refine ⟨c, rest, rfl, ?_⟩
        rintro rfl
        exact absurd (Text.not_isBlank_of_trim chars) (by decide)
  · intro member
    exact free (Text.mem_of_mem_trim member)
  · intro member
    rcases List.mem_append.mp member with inName | inValue
    · exact first (Text.mem_of_mem_trim inName)
    · exact second (Text.mem_of_mem_trim inValue)

end SetCookie

namespace CookieJar

/-- A jar that is in order and holds what a header carries. -/
structure Sound (jar : CookieJar) : Prop where
  ordered : jar.cookies.Ordered
  carried : ∀ cookie ∈ jar.cookies, Cookie.Carried cookie

theorem sound_empty : CookieJar.empty.Sound :=
  ⟨List.Pairwise.nil, fun _ member => absurd member List.not_mem_nil⟩

theorem Sound.store {jar : CookieJar} (sound : jar.Sound) (text : String) :
    (jar.store text).Sound := by
  simp only [CookieJar.store]
  cases read : SetCookie.parse text with
  | none => exact sound
  | some set =>
      simp only
      split
      · refine ⟨sound.ordered.erase set.name, fun cookie member => ?_⟩
        exact sound.carried cookie ((Table.erase_sublist _ _).mem member)
      · refine ⟨sound.ordered.insert set.name set.value, fun cookie member => ?_⟩
        rcases Table.mem_of_mem_insert member with rfl | member
        · obtain ⟨attributes, sets⟩ := SetCookie.sets_of_parse read
          exact sets.carried
        · exact sound.carried cookie member

theorem Sound.storeAll {jar : CookieJar} (sound : jar.Sound) (texts : List String) :
    (jar.storeAll texts).Sound := by
  induction texts generalizing jar with
  | nil => exact sound
  | cons text texts ih => exact ih (sound.store text)

theorem Sound.parse_header {jar : CookieJar} (sound : jar.Sound) {header : String}
    (sent : jar.header? = some header) : Cookie.parse header = jar.cookies := by
  simp only [header?] at sent
  split at sent
  · simp at sent
  · obtain rfl := Option.some.inj sent
    exact Cookie.parse_render sound.ordered sound.carried

/-- What a text asks for in the cookie of a name, if it speaks of it: a value, or that there be
    none. -/
def asks? (name text : String) : Option (Option String) :=
  (SetCookie.parse text).bind fun set =>
    if set.name = name then some (if set.expired then none else some set.value) else none

/-- What texts that are stored one after the other ask for: the last one that speaks of the name. -/
def lastAsked? (name : String) (texts : List String) : Option (Option String) :=
  texts.reverse.findSome? (asks? name)

theorem get?_store (jar : CookieJar) (name text : String) :
    (jar.store text).get? name = (asks? name text).getD (jar.get? name) := by
  simp only [CookieJar.store, asks?]
  cases SetCookie.parse text with
  | none => rfl
  | some set =>
      by_cases same : set.name = name
      · by_cases gone : set.expired = true
        · simp [gone, same, get?, Table.get?_erase]
        · simp [gone, same, get?, Table.get?_insert]
      · by_cases gone : set.expired = true
        · simp [gone, same, get?, Table.get?_erase]
        · simp [gone, same, get?, Table.get?_insert]

/-- Whether a text says something of the cookie of a name. -/
def speaks (name text : String) : Bool :=
  (asks? name text).isSome

theorem lastAsked?_concat (name : String) (texts : List String) (text : String) :
    lastAsked? name (texts ++ [text]) = (asks? name text).or (lastAsked? name texts) := by
  cases asked : asks? name text <;> simp [lastAsked?, asked]

/-- Of all texts only the last one counts that speaks of the name. -/
theorem lastAsked?_eq_getLast? (name : String) (texts : List String) :
    lastAsked? name texts = (texts.filter (speaks name)).getLast?.bind (asks? name) := by
  induction texts using List.reverseRecOn with
  | nil => rfl
  | append_singleton texts text ih =>
      rw [lastAsked?_concat]
      cases asked : asks? name text with
      | none => simp [List.filter_append, speaks, asked, ih]
      | some value => simp [List.filter_append, speaks, asked]

theorem storeAll_concat (jar : CookieJar) (texts : List String) (text : String) :
    jar.storeAll (texts ++ [text]) = (jar.storeAll texts).store text := by
  simp [storeAll]

theorem get?_storeAll (jar : CookieJar) (name : String) (texts : List String) :
    (jar.storeAll texts).get? name = (lastAsked? name texts).getD (jar.get? name) := by
  induction texts using List.reverseRecOn with
  | nil => rfl
  | append_singleton texts text ih =>
      rw [storeAll_concat, get?_store, lastAsked?_concat, ih]
      cases asks? name text <;> rfl

/-- Whether no name and no value of a jar holds a NUL, so that a variable can hold its header. -/
def Storable (jar : CookieJar) : Prop :=
  ∀ cookie ∈ jar.cookies, '\x00' ∉ cookie.1.toList ++ cookie.2.toList

theorem isValue_header_iff {jar : CookieJar} {header : String} (sent : jar.header? = some header) :
    Environment.isValue header = true ↔ jar.Storable := by
  simp only [header?] at sent
  split at sent
  · simp at sent
  · obtain rfl := Option.some.inj sent
    have nul := Cookie.mem_render_iff (c := '\x00') (by decide) jar.cookies
    simp only [Environment.isValue, Bool.not_eq_true', List.contains_eq_mem,
      decide_eq_false_iff_not, nul, Storable]
    grind

end CookieJar

end ScriptBridge
