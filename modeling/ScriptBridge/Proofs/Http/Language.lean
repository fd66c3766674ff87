import ScriptBridge.Proofs.Http.Framing

/-! # Which bytes are a response

Whatever starts with `HTTP/` and has a blank line is read as a response, and nothing else is. The
first blank line divides its head from its body; the body is any bytes, and the head comes back as
it was just if it is text.
-/

namespace ScriptBridge

/-- Two line ends, one right behind the other. -/
def blankLine : Bytes := lineEnd ++ lineEnd

/-- Bytes before and behind the first place where a mark stands. -/
structure IsFirstCut (mark bytes before behind : Bytes) : Prop where
  eq : bytes = before ++ mark ++ behind
  first {before' behind' : Bytes} :
    bytes = before' ++ mark ++ behind' → before.length ≤ before'.length

/-- A status line and header lines as they stand in a head, with line ends between them. -/
def joinLines (status : Bytes) : List Bytes → Bytes
  | [] => status
  | line :: lines => status ++ lineEnd ++ joinLines line lines

/-- A status line and header lines that can stand in a head. -/
structure IsHead (status : Bytes) (lines : List Bytes) : Prop where
  http : utf8 "HTTP/" <+: status
  unbroken : Unbroken status
  lines : ∀ line ∈ lines, line ≠ [] ∧ Unbroken line

theorem joinLines_append_lineEnd (status : Bytes) (lines : List Bytes) :
    joinLines status lines ++ lineEnd = status ++ lineEnd ++ lines.flatMap (· ++ lineEnd) := by
  induction lines generalizing status with
  | nil => simp [joinLines]
  | cons line lines ih =>
      simp only [joinLines, List.append_assoc, ih, List.flatMap_cons]

theorem joinLines_blankLine (status : Bytes) (lines : List Bytes) (body : Bytes) :
    joinLines status lines ++ blankLine ++ body =
      status ++ lineEnd ++ (lines.flatMap (· ++ lineEnd) ++ lineEnd ++ body) := by
  rw [blankLine, ← List.append_assoc, joinLines_append_lineEnd]
  simp only [List.append_assoc]

theorem blankLine_infix_iff {bytes : Bytes} :
    blankLine <:+: bytes ↔ ∃ before behind, bytes = before ++ lineEnd ++ (lineEnd ++ behind) := by
  constructor
  · rintro ⟨before, behind, rfl⟩
    exact ⟨before, behind, by simp [blankLine]⟩
  · rintro ⟨before, behind, rfl⟩
    exact ⟨before, behind, by simp [blankLine]⟩

theorem unbroken_nil : Unbroken [] :=
  unbroken_of_not_mem List.not_mem_nil

theorem Unbroken.blankLine_infix {front rest : Bytes} (unbroken : Unbroken front)
    (blank : blankLine <:+: front ++ lineEnd ++ rest) : blankLine <:+: lineEnd ++ rest := by
  obtain ⟨before, behind, marks⟩ := blankLine_infix_iff.mp blank
  rcases unbroken.cases marks with ⟨rfl, rfl⟩ | ⟨gap, rfl, rfl⟩
  · exact ⟨[], behind, rfl⟩
  · exact blankLine_infix_iff.mpr ⟨lineEnd ++ gap, behind, by simp⟩

/-- A line that is not empty stands between two line ends without making them a blank line. -/
theorem Unbroken.blankLine_infix_of_ne_nil {front rest : Bytes} (unbroken : Unbroken front)
    (filled : front ≠ []) (blank : blankLine <:+: lineEnd ++ (front ++ lineEnd ++ rest)) :
    blankLine <:+: lineEnd ++ rest := by
  obtain ⟨before, behind, marks⟩ := blankLine_infix_iff.mp blank
  rcases unbroken_nil.cases marks with ⟨-, starts⟩ | ⟨gap, -, further⟩
  · cases front with
    | nil => exact absurd rfl filled
    | cons b front => exact absurd starts.symm (unbroken.ne_lineEnd rest behind)
  · exact unbroken.blankLine_infix (blankLine_infix_iff.mpr ⟨gap, behind, further⟩)

theorem length_joinLines_le {status : Bytes} {lines : List Bytes} (unbroken : Unbroken status)
    (fine : ∀ line ∈ lines, line ≠ [] ∧ Unbroken line) {body before behind : Bytes}
    (eq : joinLines status lines ++ blankLine ++ body = before ++ blankLine ++ behind) :
    (joinLines status lines).length ≤ before.length := by
  -- each line of the head takes the next line end, so that no blank line is left but the last
  induction lines generalizing status before with
  | nil =>
      have marks : status ++ lineEnd ++ (lineEnd ++ body) =
          before ++ lineEnd ++ (lineEnd ++ behind) := by
        simpa only [joinLines, blankLine, List.append_assoc] using eq
      rcases unbroken.cases marks with ⟨rfl, -⟩ | ⟨gap, rfl, -⟩
      · exact Nat.le_refl _
      · simp only [joinLines, List.length_append]
        omega
  | cons line lines ih =>
      obtain ⟨⟨filled, whole⟩, others⟩ := List.forall_mem_cons.mp fine
      have marks : status ++ lineEnd ++ (joinLines line lines ++ blankLine ++ body) =
          before ++ lineEnd ++ (lineEnd ++ behind) := by
        simpa only [joinLines, blankLine, List.append_assoc] using eq
      rcases unbroken.cases marks with ⟨rfl, starts⟩ | ⟨gap, rfl, further⟩
      · -- the blank line would have to be where the next header line starts
        rw [joinLines_blankLine] at starts
        cases line with
        | nil => exact absurd rfl filled
        | cons b line => exact absurd starts.symm (whole.ne_lineEnd _ behind)
      · have shorter := ih whole others (by simpa [blankLine] using further)
        simp only [joinLines, List.length_append]
        omega

namespace Message

theorem readLines_lines {lines : List Bytes}
    (fine : ∀ line ∈ lines, line ≠ [] ∧ Unbroken line) (body : Bytes) :
    readLines [] (lines.flatMap (· ++ lineEnd) ++ lineEnd ++ body) = some (lines, body) := by
  induction lines with
  | nil => rfl
  | cons line lines ih =>
      obtain ⟨⟨filled, unbroken⟩, others⟩ := List.forall_mem_cons.mp fine
      have isEmpty : line.isEmpty = false := by simp [filled]
      simp only [List.flatMap_cons, List.append_assoc] at ih ⊢
      rw [← List.append_assoc, readLines_line unbroken]
      simp only [List.reverse_nil, List.nil_append, isEmpty, ih others, Option.map_some,
        Bool.false_eq_true, if_false]

theorem readLines_cases (bytes : Bytes) :
    (∃ (lines : List Bytes) (body : Bytes), (∀ line ∈ lines, line ≠ [] ∧ Unbroken line) ∧
      bytes = lines.flatMap (· ++ lineEnd) ++ lineEnd ++ body) ∨
    (¬ blankLine <:+: lineEnd ++ bytes ∧ readLines [] bytes = none) := by
  by_cases unbroken : Unbroken bytes
  · refine Or.inr ⟨?_, readLines_of_unbroken unbroken []⟩
    intro blank
    obtain ⟨before, behind, marks⟩ := blankLine_infix_iff.mp blank
    rcases unbroken_nil.cases marks with ⟨-, rfl⟩ | ⟨gap, -, rfl⟩
    · exact unbroken ⟨[], behind, rfl⟩
    · exact unbroken ⟨gap, lineEnd ++ behind, rfl⟩
  · obtain ⟨front, rest, whole, eq⟩ := exists_first_lineEnd unbroken
    have shorter : rest.length < bytes.length := by
      simp only [eq, List.length_append, lineEnd, List.length_cons, List.length_nil]
      omega
    -- what is behind the first line decides, unless that line is the empty one
    have behind := readLines_cases rest
    subst eq
    by_cases empty : front = []
    · subst empty
      exact Or.inl ⟨[], rest, fun _ member => absurd member List.not_mem_nil, rfl⟩
    · rcases behind with ⟨lines, body, fine, rfl⟩ | ⟨blank, fails⟩
      · refine Or.inl ⟨front :: lines, body, List.forall_mem_cons.mpr ⟨⟨empty, whole⟩, fine⟩, ?_⟩
        simp only [List.flatMap_cons, List.append_assoc]
      · refine Or.inr ⟨fun found => blank (whole.blankLine_infix_of_ne_nil empty found), ?_⟩
        rw [readLines_line whole, fails]
        simp [empty]
termination_by bytes.length

theorem parse_joinLines {status : Bytes} {lines : List Bytes} (head : IsHead status lines)
    (body : Bytes) :
    parse (joinLines status lines ++ blankLine ++ body) =
      .ok ⟨Utf8.decodeLossy status, lines.map Utf8.decodeLossy, body⟩ := by
  have front : (utf8 "HTTP/").isPrefixOf status = true := List.isPrefixOf_iff_prefix.mpr head.http
  rw [joinLines_blankLine, parse, cutAt?_lineEnd head.unbroken]
  simp only [front, if_true, readLines_lines head.lines]

/-- What bytes start with is in their first line, as long as it has no line end. -/
theorem http_within_first_line {front rest : Bytes} (http : utf8 "HTTP/" <+: front ++ lineEnd ++ rest) :
    utf8 "HTTP/" <+: front := by
  rw [List.append_assoc] at http
  rcases List.prefix_or_prefix_of_prefix http (List.prefix_append front _) with
    inside | ⟨more, eq⟩
  · exact inside
  · rw [← eq, List.prefix_append_right_inj] at http
    cases more with
    | nil => exact ⟨[], by simpa using eq.symm⟩
    | cons b more =>
        obtain rfl : b = 13 := by
          obtain ⟨_, starts⟩ := http
          exact (List.cons.inj starts).1
        have member : (13 : UInt8) ∈ utf8 "HTTP/" := by simp [← eq]
        exact absurd member (by decide)

theorem exists_head {bytes : Bytes} (http : utf8 "HTTP/" <+: bytes)
    (blank : blankLine <:+: bytes) :
    ∃ status lines body, IsHead status lines ∧
      bytes = joinLines status lines ++ blankLine ++ body := by
  have broken : ¬ Unbroken bytes := fun unbroken =>
    unbroken ((List.prefix_append lineEnd lineEnd).isInfix.trans blank)
  obtain ⟨status, rest, unbroken, rfl⟩ := exists_first_lineEnd broken
  rcases readLines_cases rest with ⟨lines, body, fine, rfl⟩ | ⟨missing, -⟩
  · exact ⟨status, lines, body, ⟨http_within_first_line http, unbroken, fine⟩, (joinLines_blankLine ..).symm⟩
  · exact absurd (unbroken.blankLine_infix blank) missing

theorem exists_head_of_parse {bytes : Bytes} {message : Message}
    (parsed : parse bytes = .ok message) :
    ∃ status lines, IsHead status lines ∧
      bytes = joinLines status lines ++ blankLine ++ message.body ∧
      message.statusLine = Utf8.decodeLossy status ∧
      message.headers = lines.map Utf8.decodeLossy := by
  by_cases whole : Unbroken bytes
  · rw [parse, cutAt?_of_unbroken whole] at parsed
    cases parsed
  · obtain ⟨status, rest, unbroken, rfl⟩ := exists_first_lineEnd whole
    rw [parse, cutAt?_lineEnd unbroken] at parsed
    simp only at parsed
    split at parsed
    · next http =>
        rcases readLines_cases rest with ⟨lines, body, fine, rfl⟩ | ⟨-, fails⟩
        · rw [readLines_lines fine] at parsed
          obtain rfl := Except.ok.inj parsed
          exact ⟨status, lines, ⟨List.isPrefixOf_iff_prefix.mp http, unbroken, fine⟩,
            (joinLines_blankLine ..).symm, rfl, rfl⟩
        · rw [fails] at parsed
          cases parsed
    · cases parsed

theorem parse_isOk_iff (bytes : Bytes) :
    (∃ message, parse bytes = .ok message) ↔
      utf8 "HTTP/" <+: bytes ∧ blankLine <:+: bytes := by
  constructor
  · rintro ⟨message, parsed⟩
    obtain ⟨status, lines, head, rfl, -⟩ := exists_head_of_parse parsed
    refine ⟨head.http.trans ?_, joinLines status lines, message.body, rfl⟩
    rw [joinLines_blankLine, List.append_assoc]
    exact List.prefix_append ..
  · rintro ⟨http, blank⟩
    obtain ⟨status, lines, body, head, rfl⟩ := exists_head http blank
    exact ⟨_, parse_joinLines head body⟩

theorem startsWith_of_parse {bytes : Bytes} {message : Message}
    (parsed : parse bytes = .ok message) :
    Text.startsWith "HTTP/" message.statusLine = true := by
  obtain ⟨status, lines, head, -, statusLine, -⟩ := exists_head_of_parse parsed
  obtain ⟨rest, rfl⟩ := head.http
  have read := Utf8.decodeChars_encodeChars_append "HTTP/".toList rest
  rw [statusLine, Utf8.decodeLossy]
  simp only [Text.startsWith, String.toList_ofList, List.isPrefixOf_iff_prefix]
  exact ⟨_, read.symm⟩

theorem exists_joinLines_eq (status : String) (lines : List String) :
    ∃ text, joinLines (utf8 status) (lines.map utf8) = utf8 text := by
  induction lines generalizing status with
  | nil => exact ⟨status, rfl⟩
  | cons line lines ih =>
      obtain ⟨text, eq⟩ := ih line
      refine ⟨status ++ "\r\n" ++ text, ?_⟩
      simp only [List.map_cons, joinLines, eq, Utf8.encode_append]
      rfl

/-- A head that is text has lines that are text, and these come back from being read. -/
theorem encode_of_joinLines {status : Bytes} {lines : List Bytes} {text : String}
    (eq : joinLines status lines = utf8 text) :
    utf8 (Utf8.decodeLossy status) = status ∧
      ∀ line ∈ lines, utf8 (Utf8.decodeLossy line) = line := by
  induction lines generalizing status text with
  | nil =>
      obtain rfl : status = utf8 text := eq
      simp
  | cons line lines ih =>
      -- both bytes of a line end are ASCII, so each cuts the text into texts
      have cut : utf8 text = status ++ 13 :: (10 :: joinLines line lines) := by
        rw [← eq]
        simp [joinLines, lineEnd]
      obtain ⟨first, behind, rfl, newline⟩ := Utf8.exists_of_encode_eq (by decide) cut
      obtain ⟨-, rest, -, others⟩ : ∃ before rest, [] = utf8 before ∧
          joinLines line lines = utf8 rest := Utf8.exists_of_encode_eq (by decide) newline.symm
      obtain ⟨second, further⟩ := ih others
      exact ⟨by simp, List.forall_mem_cons.mpr ⟨second, further⟩⟩

theorem compose_fieldBlock (status : String) (lines : List String) (body : Bytes) :
    compose status (fieldBlock lines) body =
      joinLines (utf8 status) (lines.map utf8) ++ blankLine ++ body := by
  rw [joinLines_blankLine, List.flatMap_map]
  simp only [compose, fieldBlock, List.append_assoc]

theorem toBytes_eq (message : Message) :
    message.toBytes = joinLines (utf8 message.statusLine) (message.headers.map utf8) ++
      blankLine ++ message.body :=
  compose_fieldBlock ..

/-- A message is read up to the first blank line, and written as it was just if it is text up to
    there. -/
theorem exists_firstCut_of_parse {bytes : Bytes} {message : Message}
    (parsed : parse bytes = .ok message) :
    ∃ head, IsFirstCut blankLine bytes head message.body ∧
      (message.toBytes = bytes ↔ ∃ text, head = utf8 text) := by
  obtain ⟨status, lines, isHead, rfl, statusLine, headers⟩ := exists_head_of_parse parsed
  refine ⟨joinLines status lines, ⟨rfl, length_joinLines_le isHead.unbroken isHead.lines⟩, ?_⟩
  rw [toBytes_eq]
  constructor
  · intro same
    obtain ⟨text, eq⟩ := exists_joinLines_eq message.statusLine message.headers
    refine ⟨text, ?_⟩
    rw [← eq]
    exact (List.append_cancel_right (List.append_cancel_right same)).symm
  · rintro ⟨text, eq⟩
    obtain ⟨first, others⟩ := encode_of_joinLines eq
    have back : (lines.map Utf8.decodeLossy).map utf8 = lines :=
      calc (lines.map Utf8.decodeLossy).map utf8
          = lines.map (utf8 ∘ Utf8.decodeLossy) := List.map_map
        _ = lines.map id := List.map_congr_left others
        _ = lines := List.map_id lines
    rw [statusLine, headers, first, back]

theorem unbroken_utf8 {text : String} (single : ¬ "\r\n".toList <:+: text.toList) :
    Unbroken (utf8 text) := by
  rintro ⟨before, behind, eq⟩
  have cut : Utf8.encodeChars text.toList = before ++ 13 :: (10 :: behind) := by
    simpa [lineEnd, Utf8.encode] using eq.symm
  obtain ⟨front, rest, parts, -, newline⟩ := Utf8.exists_of_encodeChars_eq (by decide) cut
  have next : Utf8.encodeChars rest = [] ++ 10 :: behind := newline.symm
  obtain ⟨gap, further, rfl, none, -⟩ := Utf8.exists_of_encodeChars_eq (by decide) next
  obtain rfl : [] = gap := by
    have read := Utf8.decodeChars_encodeChars gap
    rwa [← none] at read
  exact single ⟨front, further, by rw [parts]; simp⟩

theorem parse_toBytes {message : Message}
    (http : Text.startsWith "HTTP/" message.statusLine = true)
    (single : ¬ "\r\n".toList <:+: message.statusLine.toList)
    (fine : ∀ line ∈ message.headers, line ≠ "" ∧ ¬ "\r\n".toList <:+: line.toList) :
    parse message.toBytes = .ok message := by
  have head : IsHead (utf8 message.statusLine) (message.headers.map utf8) := by
    refine ⟨http_utf8 http, unbroken_utf8 single, ?_⟩
    intro bytes member
    obtain ⟨line, listed, rfl⟩ := List.mem_map.mp member
    obtain ⟨filled, unbroken⟩ := fine line listed
    exact ⟨by simpa using filled, unbroken_utf8 unbroken⟩
  have back : (message.headers.map utf8).map Utf8.decodeLossy = message.headers :=
    calc (message.headers.map utf8).map Utf8.decodeLossy
        = message.headers.map (Utf8.decodeLossy ∘ utf8) := List.map_map
      _ = message.headers.map id := List.map_congr_left fun line _ => Utf8.decodeLossy_encode line
      _ = message.headers := List.map_id _
  rw [toBytes_eq, parse_joinLines head, back, Utf8.decodeLossy_encode]

/-- Reading gives a message for just the bytes that start with `HTTP/` and have a blank line, with
    all that stands behind the first blank line as the body. It is inverse to writing: from the side
    of the bytes if their head is text, and from the side of the messages if no line of them has a
    line end, and no header line is empty. -/
theorem parse_exact :
    (∀ bytes, (∃ message, parse bytes = .ok message) ↔
      utf8 "HTTP/" <+: bytes ∧ blankLine <:+: bytes) ∧
    (∀ bytes message, parse bytes = .ok message →
      ∃ head, IsFirstCut blankLine bytes head message.body ∧
        (message.toBytes = bytes ↔ ∃ text, head = utf8 text)) ∧
    (∀ message : Message, Text.startsWith "HTTP/" message.statusLine = true →
      ¬ "\r\n".toList <:+: message.statusLine.toList →
      (∀ line ∈ message.headers, line ≠ "" ∧ ¬ "\r\n".toList <:+: line.toList) →
      parse message.toBytes = .ok message) :=
  ⟨parse_isOk_iff, fun _ _ => exists_firstCut_of_parse, fun _ => parse_toBytes⟩

/-- A message with lone characters of line ends in its lines, also beside the line ends between
    them, and with blank lines as its body. -/
def withLoneMarks : Message :=
  ⟨"HTTP/1.1 200 OK\r", ["\nX-A: 1\r", "\r"], utf8 "\r\n\r\n"⟩

theorem parse_exact_of_lone_marks :
    Text.startsWith "HTTP/" withLoneMarks.statusLine = true ∧
      (¬ "\r\n".toList <:+: withLoneMarks.statusLine.toList) ∧
      (∀ line ∈ withLoneMarks.headers, line ≠ "" ∧ ¬ "\r\n".toList <:+: line.toList) ∧
      parse withLoneMarks.toBytes = .ok withLoneMarks ∧
      ∃ head, IsFirstCut blankLine withLoneMarks.toBytes head withLoneMarks.body ∧
        ∃ text, head = utf8 text := by
  have http : Text.startsWith "HTTP/" withLoneMarks.statusLine = true := by decide +kernel
  have single : ¬ "\r\n".toList <:+: withLoneMarks.statusLine.toList := by decide +kernel
  have fine : ∀ line ∈ withLoneMarks.headers, line ≠ "" ∧ ¬ "\r\n".toList <:+: line.toList := by
    decide +kernel
  have parsed := parse_exact.2.2 withLoneMarks http single fine
  obtain ⟨head, cut, written⟩ := parse_exact.2.1 _ _ parsed
  exact ⟨http, single, fine, parsed, head, cut, written.mp rfl⟩

theorem exists_text_of_firstCut {text : String} {head rest body : Bytes}
    (cut : IsFirstCut blankLine (utf8 text ++ blankLine ++ rest) head body) :
    ∃ front, head = utf8 front := by
  have shorter := cut.first rfl
  have eq := cut.eq
  rw [List.append_assoc, List.append_assoc] at eq
  rcases List.append_eq_append_iff.mp eq with ⟨gap, rfl, -⟩ | ⟨gap, inner, starts⟩
  · have none : gap = [] := by
      rw [List.length_append] at shorter
      exact List.length_eq_zero_iff.mp (by omega)
    exact ⟨text, by rw [none, List.append_nil]⟩
  · cases gap with
    | nil => exact ⟨text, by rw [inner, List.append_nil]⟩
    | cons b gap =>
        -- the text is cut where the first blank line begins
        obtain rfl : b = 13 := (List.cons.inj starts).1.symm
        obtain ⟨front, _, eq, -⟩ := Utf8.exists_of_encode_eq (by decide) inner
        exact ⟨front, eq⟩

/-- A composed response can always be read, and is written as it was, whatever its lines are. -/
theorem exists_parse_compose {status : String} (http : Text.startsWith "HTTP/" status = true)
    (lines : List String) (body : Bytes) :
    ∃ message, parse (compose status (fieldBlock lines) body) = .ok message ∧
      Text.startsWith "HTTP/" message.statusLine = true ∧
      message.toBytes = compose status (fieldBlock lines) body := by
  obtain ⟨text, eq⟩ := exists_joinLines_eq status lines
  have front : utf8 "HTTP/" <+: compose status (fieldBlock lines) body := by
    simp only [compose, List.append_assoc]
    exact (http_utf8 http).trans (List.prefix_append ..)
  have blank : blankLine <:+: compose status (fieldBlock lines) body :=
    ⟨_, _, (compose_fieldBlock status lines body).symm⟩
  obtain ⟨message, parsed⟩ := (parse_isOk_iff _).mpr ⟨front, blank⟩
  obtain ⟨head, cut, written⟩ := exists_firstCut_of_parse parsed
  rw [compose_fieldBlock, eq] at cut
  exact ⟨message, parsed, startsWith_of_parse parsed, written.mpr (exists_text_of_firstCut cut)⟩

end Message

end ScriptBridge
