/-!
# Cutting text at a mark

Cutting a list at the first mark, at every mark, or at the first occurrence of a longer mark.
-/

namespace ScriptBridge

variable {α : Type} [BEq α]

/-- The parts before and behind the first mark. -/
def cutFirst? (mark : α) : List α → Option (List α × List α)
  | [] => none
  | a :: rest =>
    if a == mark then some ([], rest)
    else (cutFirst? mark rest).map fun (before, behind) => (a :: before, behind)

/-- The part up to the next mark and the parts behind it. -/
def cutParts (mark : α) : List α → List α × List (List α)
  | [] => ([], [])
  | a :: rest =>
    let (part, parts) := cutParts mark rest
    if a == mark then ([], part :: parts) else (a :: part, parts)

/-- The parts between marks; there is one more of them than there are marks. -/
def cutAll (mark : α) (as : List α) : List (List α) :=
  let (part, parts) := cutParts mark as
  part :: parts

/-- What is behind `front` in a list that starts with it. -/
def dropFront? (front : List α) (as : List α) : Option (List α) :=
  match front, as with
  | [], as => some as
  | _ :: _, [] => none
  | f :: front, a :: as => if f == a then dropFront? front as else none

/-- The parts before and behind the first occurrence of `mark`. -/
def cutAt? (mark : List α) : List α → Option (List α × List α)
  | [] => (dropFront? mark []).map fun behind => ([], behind)
  | a :: rest =>
    match dropFront? mark (a :: rest) with
    | some behind => some ([], behind)
    | none => (cutAt? mark rest).map fun (before, behind) => (a :: before, behind)

/-- The elements without those of `mark` wherever they stand one behind the other, from left to
    right; of the first ones so many are part of such a place already. -/
def dropParts (mark : List α) : Nat → List α → List α
  | _, [] => []
  | skipped + 1, _ :: rest => dropParts mark skipped rest
  | 0, a :: rest =>
    if (dropFront? mark (a :: rest)).isSome then dropParts mark (mark.length - 1) rest
    else a :: dropParts mark 0 rest

theorem cutFirst?_eq_some [LawfulBEq α] {mark : α} {as before behind : List α}
    (h : cutFirst? mark as = some (before, behind)) : as = before ++ mark :: behind := by
  induction as generalizing before with
  | nil => simp [cutFirst?] at h
  | cons a rest ih =>
    simp only [cutFirst?] at h
    split at h
    · next eq => simp_all
    · simp only [Option.map_eq_some_iff] at h
      obtain ⟨⟨b, e⟩, hr, heq⟩ := h
      simp only [Prod.mk.injEq] at heq
      obtain ⟨rfl, rfl⟩ := heq
      simp [ih hr]

theorem cutFirst?_eq_none [LawfulBEq α] {mark : α} {as : List α} :
    cutFirst? mark as = none ↔ mark ∉ as := by
  induction as with
  | nil => simp [cutFirst?]
  | cons a rest ih =>
    by_cases eq : a = mark
    · simp [cutFirst?, eq]
    · simp [cutFirst?, eq, ih, Ne.symm eq]

theorem dropFront?_eq_some [LawfulBEq α] {front as behind : List α} :
    dropFront? front as = some behind ↔ as = front ++ behind := by
  induction front generalizing as with
  | nil => simp [dropFront?]
  | cons f front ih =>
    cases as with
    | nil => simp [dropFront?]
    | cons a as =>
      by_cases eq : f = a
      · simp [dropFront?, eq, ih]
      · simp [dropFront?, eq, Ne.symm eq]

namespace Text

/-- The texts before and behind the first `mark`. -/
def cutFirst? (mark : Char) (s : String) : Option (String × String) :=
  (ScriptBridge.cutFirst? mark s.toList).map fun (before, behind) =>
    (String.ofList before, String.ofList behind)

def cutAll (mark : Char) (s : String) : List String :=
  (ScriptBridge.cutAll mark s.toList).map String.ofList

/-- Whether `part` occurs in the text. -/
def hasPart (part s : String) : Bool :=
  (cutAt? part.toList s.toList).isSome

/-- Whether the text starts with `front`. -/
def startsWith (front s : String) : Bool :=
  front.toList.isPrefixOf s.toList

/-- Lower case of the ASCII letters; other characters stay. -/
def lowerAscii (s : String) : String :=
  String.ofList (s.toList.map Char.toLower)

/-- Upper case of the ASCII letters; other characters stay. -/
def upperAscii (s : String) : String :=
  String.ofList (s.toList.map Char.toUpper)

def eqIgnoreAsciiCase (s t : String) : Bool :=
  lowerAscii s == lowerAscii t

end Text

end ScriptBridge
