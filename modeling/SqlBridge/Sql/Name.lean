/-!
# Names in SQL text

A table or column name may be qualified: its segments stand between dots. Each segment is
written between backticks, and a backtick inside it becomes a hyphen, since there is no safe
way to write it. The segment `*` stands alone, for all columns.

`segments_ne_nil` and `intercalate_segments` say that nothing is lost when a name is split.
-/

namespace SqlBridge.Name

/-- The quote around names. -/
def backtick : Char := '\x60'

/-- The parts of a text between its dots. -/
def segments : List Char → List (List Char)
  | [] => [[]]
  | c :: rest =>
    if c = '.' then [] :: segments rest
    else
      match segments rest with
      | [] => [[c]]
      | first :: others => (c :: first) :: others

/-- Every name has a segment, which may be empty. -/
theorem segments_ne_nil (s : List Char) : segments s ≠ [] := by
  cases s with
  | nil => simp [segments]
  | cons c rest =>
    by_cases h : c = '.'
    · simp [segments, h]
    · simp only [segments, h, if_false]
      split <;> simp

/-- The segments with dots between them are the text again. -/
theorem intercalate_segments (s : List Char) :
    List.intercalate ['.'] (segments s) = s := by
  induction s with
  | nil => rfl
  | cons c rest ih =>
    by_cases h : c = '.'
    · subst h
      cases hs : segments rest with
      | nil => exact absurd hs (segments_ne_nil rest)
      | cons first others =>
        rw [hs] at ih
        simp only [segments, hs, if_true]
        simpa [List.intercalate, List.intersperse] using ih
    · cases hs : segments rest with
      | nil => exact absurd hs (segments_ne_nil rest)
      | cons first others =>
        rw [hs] at ih
        simp only [segments, h, if_false, hs]
        cases others with
        | nil => simpa [List.intercalate, List.intersperse] using ih
        | cons a b => simpa [List.intercalate, List.intersperse] using ih

/-- A segment's character between backticks. -/
def quotedChar (c : Char) : Char := if c = backtick then '-' else c

/-- One segment as it is written. -/
def escapeSegment (s : List Char) : List Char :=
  if s = ['*'] then s else backtick :: (s.map quotedChar ++ [backtick])

/-- The characters of a name as it is written. -/
def escapeChars (s : List Char) : List Char :=
  List.intercalate ['.'] ((segments s).map escapeSegment)

/-- A name as it is written. -/
def escape (name : String) : String := String.ofList (escapeChars name.toList)

@[simp] theorem toList_escape (name : String) :
    (escape name).toList = escapeChars name.toList := by simp [escape]

/-- The name has a qualifier. -/
def isQualified (name : String) : Bool := name.toList.contains '.'

end SqlBridge.Name
