import Mathlib
import ScriptBridge.Proofs.Cookie

/-! # A jar over time

Texts are stored in a jar, one or several at a time, and now and then it is cleared. Whatever was
stored, what the jar sends is read as the cookies that it holds. The cookie of a name is what the last
text since the last clearing says that speaks of the name: its value without the blanks around it, or
none if one of its attributes gives an age of zero or less.
-/

namespace ScriptBridge

namespace SetCookie

/-- Whether a text says anything of a name. -/
def Names (text name : String) : Prop :=
  ∃ value attributes, Sets text name value attributes

/-- Whether an attribute gives an age: its key is `Max-Age` in any case, and its value a number of 64
    bits. -/
def GivesAge (part : String) (age : Int) : Prop :=
  ∃ key value : String, (Text.trim part).toList = key.toList ++ '=' :: value.toList ∧
    '=' ∉ key.toList ∧ Text.eqIgnoreAsciiCase (Text.trim key) "max-age" = true ∧
    Numeral.readInt64 (Text.trim value) = .ok age

/-- Whether some attribute gives an age of zero or less. -/
def IsOver (attributes : List String) : Prop :=
  ∃ part ∈ attributes, ∃ age, age ≤ 0 ∧ GivesAge part age

theorem maxAge?_eq_some_iff {part : String} {age : Int} :
    maxAge? part = some age ↔ GivesAge part age := by
  constructor
  · intro given
    rw [maxAge?, Option.bind_eq_bind, Option.bind_eq_some_iff] at given
    obtain ⟨⟨key, value⟩, halves, given⟩ := given
    obtain ⟨whole, free⟩ := Text.cutFirst?_eq_some_iff.mp halves
    dsimp only at given
    split at given
    · next isKey =>
        refine ⟨key, value, whole, free, isKey, ?_⟩
        cases read : Numeral.readInt64 (Text.trim value) with
        | error fault => simp [read, Except.toOption] at given
        | ok number =>
            rw [read] at given
            exact congrArg Except.ok (Option.some.inj given)
    · cases given
  · rintro ⟨key, value, whole, free, isKey, read⟩
    have halves : Text.cutFirst? '=' (Text.trim part) = some (key, value) :=
      Text.cutFirst?_eq_some_iff.mpr ⟨whole, free⟩
    simp [maxAge?, halves, isKey, read, Except.toOption]

theorem any_expires_iff {attributes : List String} :
    attributes.any expires = true ↔ IsOver attributes := by
  have each : ∀ part, expires part = true ↔
      ∃ age, age ≤ 0 ∧ GivesAge part age := by
    intro part
    simp only [← maxAge?_eq_some_iff, expires]
    cases maxAge? part with
    | none => simp
    | some age => simp
  simp only [List.any_eq_true, each, IsOver]

instance (attributes : List String) : Decidable (IsOver attributes) :=
  decidable_of_iff _ any_expires_iff

theorem names_iff {text name : String} :
    Names text name ↔ (CookieJar.asks? name text).isSome = true := by
  constructor
  · rintro ⟨value, attributes, sets⟩
    simp [CookieJar.asks?, parse_of_sets sets]
  · intro asks
    simp only [CookieJar.asks?] at asks
    cases read : parse text with
    | none => simp [read] at asks
    | some set =>
        obtain ⟨attributes, sets⟩ := sets_of_parse read
        by_cases same : set.name = name
        · exact ⟨set.value, attributes, same ▸ sets⟩
        · simp [read, same] at asks

instance (text name : String) : Decidable (Names text name) :=
  decidable_of_iff _ names_iff.symm

theorem asks?_of_sets {text name value : String} {attributes : List String}
    (sets : Sets text name value attributes) :
    CookieJar.asks? name text = some (if attributes.any expires then none else some value) := by
  simp [CookieJar.asks?, parse_of_sets sets]

end SetCookie

namespace CookieJar

open SetCookie

inductive Operation where
  | store (text : String)
  | storeAll (texts : List String)
  | clear
  deriving Repr, DecidableEq

def perform (jar : CookieJar) : Operation → CookieJar
  | .store text => jar.store text
  | .storeAll texts => jar.storeAll texts
  | .clear => .empty

/-- Performs operations in order, on a jar that is empty at first. -/
def performAll (history : List Operation) : CookieJar :=
  history.foldl perform .empty

/-- The texts that were stored since a jar was last cleared, with one more operation. -/
def Operation.offer (stored : List String) : Operation → List String
  | .store text => stored ++ [text]
  | .storeAll texts => stored ++ texts
  | .clear => []

/-- The texts that a history stores since it last clears the jar. -/
def stored (history : List Operation) : List String :=
  history.foldl Operation.offer []

theorem storeAll_append (jar : CookieJar) (texts more : List String) :
    jar.storeAll (texts ++ more) = (jar.storeAll texts).storeAll more :=
  List.foldl_append

theorem perform_storeAll (texts : List String) (operation : Operation) :
    (empty.storeAll texts).perform operation = empty.storeAll (operation.offer texts) := by
  cases operation with
  | store text => exact (storeAll_concat empty texts text).symm
  | storeAll more => exact (storeAll_append empty texts more).symm
  | clear => rfl

/-- What a history leaves in a jar is what the texts put there that it stores since the last
    clearing. -/
theorem performAll_eq (history : List Operation) :
    performAll history = empty.storeAll (stored history) := by
  induction history using List.reverseRecOn with
  | nil => rfl
  | append_singleton history operation ih =>
      have step : performAll (history ++ [operation]) = (performAll history).perform operation := by
        simp [performAll]
      have offered : stored (history ++ [operation]) = operation.offer (stored history) := by
        simp [stored]
      rw [step, offered, ih, perform_storeAll]

theorem sound_performAll (history : List Operation) : (performAll history).Sound := by
  rw [performAll_eq]
  exact sound_empty.storeAll (stored history)

theorem get?_performAll (history : List Operation) (name : String) :
    (performAll history).get? name = (lastAsked? name (stored history)).getD none := by
  rw [performAll_eq, get?_storeAll]
  rfl

theorem lastAsked?_of_silent {name : String} {texts : List String}
    (silent : ∀ text ∈ texts, ¬Names text name) : lastAsked? name texts = none := by
  refine List.findSome?_eq_none_iff.mpr ?_
  intro text member
  have unsaid := silent text (List.mem_reverse.mp member)
  rw [names_iff] at unsaid
  simpa using unsaid

theorem lastAsked?_append_of_silent {name : String} {behind : List String}
    (silent : ∀ text ∈ behind, ¬Names text name) (front : List String) :
    lastAsked? name (front ++ behind) = lastAsked? name front := by
  have none := lastAsked?_of_silent silent
  rw [lastAsked?] at none ⊢
  rw [List.reverse_append, List.findSome?_append, none]
  rfl

/-- A jar and the reader of the header that it sends agree. Whatever was stored, the header is read as
    the cookies of the jar, each name once and as many as it has, and there is no header just if there
    are none. The cookie of a name is what the last text that speaks of the name says since the last
    clearing: its value, unless the text gives an age of zero or less, and then none. -/
theorem agrees_after_history (history : List Operation) :
    let jar := performAll history
    let read := Cookie.parse (jar.header?.getD "")
    read = jar.cookies ∧ read.keys.Nodup ∧ read.length = jar.size ∧
      (jar.header? = none ↔ jar.cookies = []) ∧
      (∀ name, (∀ text ∈ stored history, ¬Names text name) → jar.get? name = none) ∧
      ∀ front text behind name value attributes,
        stored history = front ++ text :: behind → Sets text name value attributes →
        (∀ later ∈ behind, ¬Names later name) →
        (IsOver attributes → jar.get? name = none) ∧
          (¬IsOver attributes → jar.get? name = some value) := by
  intro jar read
  have sound : jar.Sound := sound_performAll history
  have agrees : read = jar.cookies := by
    cases sent : jar.header? with
    | some header => simpa [read, sent] using sound.parse_header sent
    | none =>
        have empty : jar.cookies = [] := by
          by_contra filled
          simp [header?, filled] at sent
        simp only [read, sent, Option.getD_none, empty]
        rfl
  refine ⟨agrees, ?_, congrArg List.length agrees, ?_, ?silent, ?last⟩
  · rw [agrees]
    exact List.pairwise_map.mpr (sound.ordered.imp fun before => String.ne_of_lt before)
  · simp [header?]
  case silent =>
    intro name silent
    rw [get?_performAll, lastAsked?_of_silent silent]
    rfl
  case last =>
    intro front text behind name value attributes split sets silent
    have said : jar.get? name = if attributes.any expires then none else some value := by
      rw [get?_performAll, split, List.append_cons, lastAsked?_append_of_silent silent,
        lastAsked?_concat, asks?_of_sets sets]
      rfl
    constructor
    · intro ended
      rw [said, if_pos (any_expires_iff.mpr ended)]
    · intro lasting
      rw [said, if_neg fun expired => lasting (any_expires_iff.mp expired)]

/-- Blanks that are no spaces around a name with a space in it, a value with an `=`, a cookie that ends
    with a later text, and one from before the jar was cleared. -/
theorem agrees_after_history_of_clearing :
    let spaced := "\u2003a b\u00a0= x=y ; Path=/"
    let ending := "sid=2;MAX-age = -1 "
    let history := [.store "old=1", .clear, .storeAll [spaced, "sid=1"], .store ending]
    let jar := performAll history
    stored history = [] ++ spaced :: ["sid=1", ending] ∧
      stored history = [spaced, "sid=1"] ++ ending :: [] ∧
      Sets spaced "a b" "x=y" [" Path=/"] ∧ ¬IsOver [" Path=/"] ∧
      (∀ later ∈ ["sid=1", ending], ¬Names later "a b") ∧
      Sets ending "sid" "2" ["MAX-age = -1 "] ∧ IsOver ["MAX-age = -1 "] ∧
      (∀ text ∈ stored history, ¬Names text "old") ∧
      Cookie.parse (jar.header?.getD "") = jar.cookies ∧ jar.get? "a b" = some "x=y" ∧
      jar.get? "sid" = none ∧ jar.get? "old" = none := by
  intro spaced ending history jar
  have first : stored history = [] ++ spaced :: ["sid=1", ending] := by rfl
  have last : stored history = [spaced, "sid=1"] ++ ending :: [] := by rfl
  have sets : Sets spaced "a b" "x=y" [" Path=/"] :=
    ⟨"\u2003a b\u00a0", " x=y ", by decide +kernel⟩
  have lasting : ¬IsOver [" Path=/"] := by decide +kernel
  have silent : ∀ later ∈ ["sid=1", ending], ¬Names later "a b" := by decide +kernel
  have ends : Sets ending "sid" "2" ["MAX-age = -1 "] := ⟨"sid", "2", by decide +kernel⟩
  have ended : IsOver ["MAX-age = -1 "] := by decide +kernel
  have cleared : ∀ text ∈ stored history, ¬Names text "old" := by decide +kernel
  have nothing : ∀ later ∈ ([] : List String), ¬Names later "sid" := by
    intro later member
    exact absurd member List.not_mem_nil
  obtain ⟨agrees, -, -, -, unsaid, said⟩ := agrees_after_history history
  exact ⟨first, last, sets, lasting, silent, ends, ended, cleared, agrees,
    (said _ _ _ _ _ _ first sets silent).2 lasting, (said _ _ _ _ _ _ last ends nothing).1 ended,
    unsaid "old" cleared⟩

end CookieJar

end ScriptBridge
