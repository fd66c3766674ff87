import ScriptBridge.Http.Response
import ScriptBridge.Proofs.Text.Cutting
import ScriptBridge.Proofs.Text.Numeral

/-! # Header lines as fields

A header line is read twice: by whoever looks a name up in a message, in any case and whatever the
value, and by the response that the message becomes, which takes valid fields only. Both find the
same name and the same value in a line, so that the response has under each name what the message has
there, as far as it is valid, in the same order, and nothing else.
-/

namespace ScriptBridge

namespace Text

theorem eqIgnoreAsciiCase_iff {s t : String} :
    eqIgnoreAsciiCase s t = true ↔ lowerAscii s = lowerAscii t := by
  simp [eqIgnoreAsciiCase]

end Text

namespace Message

/-- A header line is parted by its first colon into a name and a value, without the blanks around
    them. -/
def Parts (line name value : String) : Prop :=
  ∃ front back : String, line.toList = front.toList ++ ':' :: back.toList ∧
    ':' ∉ front.toList ∧ Text.trim front = name ∧ Text.trim back = value

theorem splitField_eq_some_iff {line name value : String} :
    splitField line = some (name, value) ↔ Parts line name value := by
  simp only [splitField, Option.map_eq_some_iff, Prod.exists, Text.cutFirst?_eq_some_iff,
    Prod.mk.injEq, and_assoc, Parts]

theorem splitField_eq_none_iff {line : String} :
    splitField line = none ↔ ':' ∉ line.toList := by
  simp only [splitField, Text.cutFirst?, Option.map_eq_none_iff, cutFirst?_eq_none]

end Message

namespace Response

theorem isNameChar_toLower (c : Char) : isNameChar c.toLower = isNameChar c := by
  by_cases upper : c.val ≥ 'A'.val ∧ c.val ≤ 'Z'.val
  · have letters : ∀ n < 128, isNameChar (Char.ofNat n).toLower = isNameChar (Char.ofNat n) := by
      decide +kernel
    have small : c.toNat < 128 :=
      Nat.lt_of_le_of_lt (UInt32.le_iff_toNat_le.mp upper.2) (by decide)
    have letter := letters c.toNat small
    rwa [Char.ofNat_toNat] at letter
  · have same : c.toLower = c := dif_neg upper
    rw [same]

theorem isName_lowerAscii (name : String) : isName (Text.lowerAscii name) = isName name := by
  have empty : (Text.lowerAscii name).isEmpty = name.isEmpty := by
    rw [Bool.eq_iff_iff]
    simp [Text.lowerAscii, ← String.toList_eq_nil_iff]
  have chars : (Text.lowerAscii name).toList.all isNameChar = name.toList.all isNameChar := by
    simp [Text.lowerAscii, Function.comp_def, isNameChar_toLower]
  have length : (Text.lowerAscii name).length = name.length := by
    rw [Text.lowerAscii, String.length_ofList, List.length_map, String.length_toList]
  rw [isName, empty, chars, length, isName]

theorem isName_congr {name other : String}
    (same : Text.eqIgnoreAsciiCase name other = true) : isName name = isName other := by
  rw [← isName_lowerAscii name, Text.eqIgnoreAsciiCase_iff.mp same, isName_lowerAscii]

/-- A line holds a field: it parts into a valid name, which the field has in lower case, and a valid
    value. -/
def Holds (line : String) (field : String × String) : Prop :=
  ∃ name, Message.Parts line name field.2 ∧ isName name = true ∧ isValue field.2 = true ∧
    Text.lowerAscii name = field.1

/-- Why a line holds no field. -/
inductive Skipped (line : String) : Prop where
  | noColon : ':' ∉ line.toList → Skipped line
  | badName {name value : String} : Message.Parts line name value → isName name = false →
      Skipped line
  | badValue {name value : String} : Message.Parts line name value → isValue value = false →
      Skipped line

theorem fieldOf?_eq_some_iff {line : String} {field : String × String} :
    fieldOf? line = some field ↔ Holds line field := by
  obtain ⟨name, value⟩ := field
  simp only [fieldOf?, Option.bind_eq_bind, Option.bind_eq_some_iff, Prod.exists,
    Message.splitField_eq_some_iff, Holds]
  constructor
  · rintro ⟨key, found, parts, read⟩
    split at read
    · next valid =>
        obtain ⟨validName, validValue⟩ := Bool.and_eq_true_iff.mp valid
        obtain ⟨rfl, rfl⟩ := Prod.mk.inj (Option.some.inj read)
        exact ⟨key, parts, validName, validValue, rfl⟩
    · cases read
  · rintro ⟨key, parts, validName, validValue, rfl⟩
    exact ⟨key, value, parts, by simp [validName, validValue]⟩

theorem fieldOf?_eq_none_of_skipped {line : String} (skipped : Skipped line) :
    fieldOf? line = none := by
  cases skipped with
  | noColon colonless => simp [fieldOf?, Message.splitField_eq_none_iff.mpr colonless]
  | badName parts bad => simp [fieldOf?, Message.splitField_eq_some_iff.mpr parts, bad]
  | badValue parts bad => simp [fieldOf?, Message.splitField_eq_some_iff.mpr parts, bad]

/-- Looking a name up and reading fields agree on each line. -/
theorem value_of_line {name : String} (valid : isName name = true) (line : String) :
    ((fieldOf? line).filter (·.1 == Text.lowerAscii name)).map (·.2) =
      ((Message.splitField line).bind fun (key, value) =>
        if Text.eqIgnoreAsciiCase key name then some value else none).filter isValue := by
  cases split : Message.splitField line with
  | none => simp [fieldOf?, split]
  | some field =>
      obtain ⟨key, value⟩ := field
      by_cases same : Text.eqIgnoreAsciiCase key name = true
      · have validKey : isName key = true := (isName_congr same).trans valid
        have lower := Text.eqIgnoreAsciiCase_iff.mp same
        by_cases validValue : isValue value = true
        · simp [fieldOf?, split, same, validKey, validValue, lower, Option.filter_some]
        · simp [fieldOf?, split, same, validKey, validValue, Option.filter_some]
      · have other : ¬Text.lowerAscii key = Text.lowerAscii name :=
          fun lower => same (Text.eqIgnoreAsciiCase_iff.mpr lower)
        simp [fieldOf?, split, same, other]

theorem values_of_headers {message : Message} {response : Response}
    (headers : response.headers = message.headers.filterMap fieldOf?) {name : String}
    (valid : isName name = true) :
    response.values name = (message.headerValues name).filter isValue := by
  rw [values, headers, Message.headerValues, List.filter_filterMap, List.map_filterMap,
    List.filter_filterMap]
  exact List.filterMap_congr fun line _ => value_of_line valid line

end Response

namespace Message

theorem statusCode_of_writes {message : Message} {word : String} {code : Nat}
    (second : (Text.words message.statusLine)[1]? = some word)
    (number : Numeral.Writes word.toList code) (low : 100 ≤ code) (high : code ≤ 999) :
    message.statusCode = some code := by
  obtain ⟨first, rest, words⟩ : ∃ first rest,
      Text.words message.statusLine = first :: word :: rest := by
    match split : Text.words message.statusLine with
    | [] => simp [split] at second
    | [_] => simp [split] at second
    | first :: next :: rest =>
        rw [split] at second
        obtain rfl := Option.some.inj second
        exact ⟨first, rest, rfl⟩
  have read := @Numeral.readNat_of_writes 65535 code word number (by omega) (by omega)
  simp [statusCode, words, read, low, high]

/-- A message becomes a response if the second word of its status line is an integer from 100 to 999.
    The response has its status and its body, and under each valid name the valid ones of the values
    that are looked up in the message, in order. It has only fields that lines of the message hold; a
    line without a colon, or with a name or a value that is not valid, makes no difference to it. -/
theorem toResponse_agrees {message : Message} {word : String} {code : Nat}
    (second : (Text.words message.statusLine)[1]? = some word)
    (number : Numeral.Writes word.toList code) (low : 100 ≤ code) (high : code ≤ 999) :
    ∃ response, message.toResponse = .ok response ∧ response.status = code ∧
      response.body = message.body ∧
      (∀ name, Response.isName name = true →
        response.values name = (message.headerValues name).filter Response.isValue) ∧
      (∀ field ∈ response.headers, ∃ line ∈ message.headers, Response.Holds line field) ∧
      ∀ front line behind, message.headers = front ++ line :: behind → Response.Skipped line →
        { message with headers := front ++ behind }.toResponse = .ok response := by
  have coded := statusCode_of_writes second number low high
  have becomes : ∀ headers : List String, { message with headers := headers }.toResponse =
      .ok ⟨code, headers.filterMap Response.fieldOf?, message.body⟩ := by
    intro headers
    have same : { message with headers := headers }.statusCode = message.statusCode := rfl
    rw [toResponse, same, coded]
  refine ⟨_, becomes message.headers, rfl, rfl, ?values, ?fields, ?skipped⟩
  case values => exact fun name valid => Response.values_of_headers rfl valid
  case fields =>
    intro field member
    obtain ⟨line, among, read⟩ := List.mem_filterMap.mp member
    exact ⟨line, among, Response.fieldOf?_eq_some_iff.mp read⟩
  case skipped =>
    intro front line behind lines skipped
    rw [becomes, lines, List.filterMap_append, List.filterMap_append,
      List.filterMap_cons_none (Response.fieldOf?_eq_none_of_skipped skipped)]

/-- A status with a sign and a zero in front, a name in three spellings, blanks that are no spaces, a
    value with a colon, and lines with no colon, no name and no value. -/
theorem toResponse_agrees_of_odd_lines :
    let front := ["X-A: 1", "x-a\u00a0:\u2003two:2 ", "X-A", ": nameless", "X A: 2"]
    let message : Message :=
      ⟨"HTTP/1.1\t+0404 Gone", front ++ "x-A: \x01" :: ["\u00a0X-a:"], utf8 "body"⟩
    (Text.words message.statusLine)[1]? = some "+0404" ∧ Numeral.Writes "+0404".toList 404 ∧
      Response.Skipped "x-A: \x01" ∧
      ∃ response, message.toResponse = .ok response ∧ response.status = 404 ∧
        response.body = utf8 "body" ∧ response.values "X-a" = ["1", "two:2", ""] ∧
        { message with headers := front ++ ["\u00a0X-a:"] }.toResponse = .ok response := by
  intro front message
  have second : (Text.words message.statusLine)[1]? = some "+0404" := by decide +kernel
  have digits : Numeral.IsMagnitude "0404".toList 404 := by
    constructor <;> simp [Nat.ofDigitChars_cons]
  have number : Numeral.Writes "+0404".toList 404 := .positive digits
  have parts : Parts "x-A: \x01" "x-A" "\x01" := ⟨"x-A", " \x01", by decide +kernel⟩
  have skipped : Response.Skipped "x-A: \x01" := .badValue parts (by decide)
  obtain ⟨response, becomes, status, body, values, -, skips⟩ :=
    toResponse_agrees second number (by decide) (by decide)
  refine ⟨second, number, skipped, response, becomes, status, body, ?_, ?_⟩
  · exact (values "X-a" (by decide +kernel)).trans (by decide +kernel)
  · exact skips front "x-A: \x01" ["\u00a0X-a:"] rfl skipped

end Message

end ScriptBridge
