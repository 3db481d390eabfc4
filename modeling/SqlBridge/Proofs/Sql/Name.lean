import SqlBridge.Proofs.Sql.Phrase
import SqlBridge.Proofs.Sql.Pieces

/-!
# Names are read back

`Name.read` is how a server reads a name from the front of SQL text: parts with dots between them,
each either the bare star or what stands between two backticks, where a backtick that is written
twice stands for itself. It returns the parts and the text behind the name.

`Name.read_escape` says that this undoes the escaping of every name, whatever characters it has and
wherever its dots stand: the parts that are read are the segments between its dots, with hyphens for
backticks. So names without backticks have different escaped forms (`Name.escape_inj`), and no name
leaves a quote open behind it.
-/

namespace SqlBridge.Name

open Sql

/-! ## The reader -/

/-- Reads up to the backtick that closes a part of a name. -/
def readQuoted : List Char → Option (List Char × List Char)
  | [] => none
  | '\x60' :: '\x60' :: rest => (readQuoted rest).map fun (s, r) => (backtick :: s, r)
  | '\x60' :: rest => some ([], rest)
  | c :: rest => (readQuoted rest).map fun (s, r) => (c :: s, r)

/-- Reads one part of a name. -/
def readPart : List Char → Option (Part × List Char)
  | '*' :: rest => some (.all, rest)
  | '\x60' :: rest => (readQuoted rest).map fun (s, r) => (.named (String.ofList s), r)
  | _ => none

/-- Reading up to a closing backtick leaves less to read. -/
theorem length_readQuoted {s t r : List Char} (h : readQuoted s = some (t, r)) :
    r.length < s.length := by
  fun_induction readQuoted s generalizing t with
  | case1 => cases h
  | case2 rest ih =>
    obtain ⟨⟨t', r'⟩, hread, heq⟩ := Option.map_eq_some_iff.1 h
    cases heq
    have := ih hread
    simp
    omega
  | case3 rest hne =>
    cases h
    simp
  | case4 c rest hne hq ih =>
    obtain ⟨⟨t', r'⟩, hread, heq⟩ := Option.map_eq_some_iff.1 h
    cases heq
    have := ih hread
    simp
    omega

/-- Reading a part of a name leaves less to read. -/
theorem length_readPart {s r : List Char} {p : Part} (h : readPart s = some (p, r)) :
    r.length < s.length := by
  unfold readPart at h
  split at h
  · cases h
    simp
  · obtain ⟨⟨t, r'⟩, hread, heq⟩ := Option.map_eq_some_iff.1 h
    cases heq
    have := length_readQuoted hread
    simp
    omega
  · cases h

/-- Reads a name, and returns its parts and the text behind it. -/
def read (s : List Char) : Option (List Part × List Char) :=
  match _h : readPart s with
  | none => none
  | some (p, '.' :: rest) => (read rest).map fun (ps, r) => (p :: ps, r)
  | some (p, rest) => some ([p], rest)
termination_by s.length
decreasing_by
  have := length_readPart _h
  simp at this
  omega

example : read "\x60a b\x60.* , 1".toList = some ([.named "a b", .all], " , 1".toList) := by
  decide +kernel

/-! ## Reading what was escaped -/

/-- Between backticks a character that is none stands for itself. -/
theorem readQuoted_plain {c : Char} (hc : c ≠ backtick) (s : List Char) :
    readQuoted (c :: s) = (readQuoted s).map fun (t, r) => (c :: t, r) := by
  rw [readQuoted]
  · rintro r rfl
    exact absurd rfl hc
  · rintro rfl
    exact absurd rfl hc

/-- The backtick closes the part, unless another one follows. -/
theorem readQuoted_close {r : List Char} (hr : ∀ c ∈ r.head?, c ≠ backtick) :
    readQuoted (backtick :: r) = some ([], r) := by
  rw [backtick, readQuoted]
  rintro r' rfl
  exact hr _ rfl rfl

/-- A segment is read back from between its backticks. -/
theorem readQuoted_map_quotedChar (s : List Char) {r : List Char}
    (hr : ∀ c ∈ r.head?, c ≠ backtick) :
    readQuoted (s.map quotedChar ++ backtick :: r) = some (s.map quotedChar, r) := by
  induction s with
  | nil => exact readQuoted_close hr
  | cons c s ih =>
    have hc : quotedChar c ≠ backtick := (quotedChar_plain [c] _ (by simp)).1
    rw [List.map_cons, List.cons_append, readQuoted_plain hc, ih]
    rfl

/-- **A segment is read back as its part.** -/
theorem readPart_escapeSegment (s : List Char) {r : List Char}
    (hr : ∀ c ∈ r.head?, c ≠ backtick) : readPart (escapeSegment s ++ r) = some (part s, r) := by
  by_cases hs : s = ['*']
  · subst hs
    rfl
  · have htext : escapeSegment s ++ r = backtick :: (s.map quotedChar ++ backtick :: r) := by
      simp [escapeSegment, hs]
    rw [htext, part, if_neg hs, backtick, readPart, ← backtick, readQuoted_map_quotedChar s hr]
    rfl

/-- The last part ends a name. -/
theorem read_last {s r : List Char} {p : Part} (h : readPart s = some (p, r))
    (hr : ∀ c ∈ r.head?, c ≠ '.') : read s = some ([p], r) := by
  rw [read]
  split
  · next hnone =>
    rw [h] at hnone
    cases hnone
  · next hdot =>
    rw [h] at hdot
    cases hdot
    exact absurd rfl (hr '.' rfl)
  · next hsome =>
    rw [h] at hsome
    cases hsome
    rfl

/-- A name goes on behind a dot. -/
theorem read_dot {s rest : List Char} {p : Part} (h : readPart s = some (p, '.' :: rest)) :
    read s = (read rest).map fun (ps, r) => (p :: ps, r) := by
  rw [read]
  split
  · next hnone =>
    rw [h] at hnone
    cases hnone
  · next hdot =>
    rw [h] at hdot
    cases hdot
    rfl
  · next hne hsome =>
    rw [h] at hsome
    cases hsome
    exact (hne _ rfl).elim

/-- Segments with dots between them are read back. -/
theorem read_intercalate {l : List (List Char)} (hl : l ≠ []) {r : List Char}
    (hr : ∀ c ∈ r.head?, c ≠ backtick ∧ c ≠ '.') :
    read (['.'].intercalate (l.map escapeSegment) ++ r) = some (l.map part, r) := by
  induction l with
  | nil => exact absurd rfl hl
  | cons s l ih =>
    cases l with
    | nil =>
      have hpart := readPart_escapeSegment s fun c hc => (hr c hc).1
      simpa using read_last hpart fun c hc => (hr c hc).2
    | cons t l =>
      have htext : ['.'].intercalate ((s :: t :: l).map escapeSegment) ++ r =
          escapeSegment s ++ '.' :: (['.'].intercalate ((t :: l).map escapeSegment) ++ r) := by
        simp
      have hdot : ∀ c ∈ ('.' :: (['.'].intercalate ((t :: l).map escapeSegment) ++ r)).head?,
          c ≠ backtick := by
        intro c hc
        obtain rfl : '.' = c := by simpa using hc
        decide
      rw [htext, read_dot (readPart_escapeSegment s hdot), ih (by simp)]
      rfl

/-- The segments of a name are what stands between its dots. -/
theorem segments_eq_splitOn (s : List Char) : segments s = s.splitOn '.' := by
  induction s with
  | nil => rfl
  | cons c s ih =>
    rw [List.splitOn_eq_splitOnP] at ih ⊢
    rw [List.splitOnP_cons_eq_if_modifyHead, segments, ih]
    obtain ⟨t, l, hl⟩ := List.exists_cons_of_ne_nil (List.splitOnP_ne_nil (· == '.') s)
    by_cases hc : c = '.' <;> simp [hc, hl]

/-- Names without backticks have different escaped forms. -/
theorem escape_inj {a b : String} (ha : backtick ∉ a.toList) (hb : backtick ∉ b.toList)
    (h : escape a = escape b) : a = b := by
  have hread (name : String) : read ((escape name).toList ++ []) = some (parts name, []) := by
    rw [toList_escape]
    exact read_intercalate (segments_ne_nil _) (by simp)
  have hparts : parts a = parts b := by
    have hboth := hread b
    rw [← h, hread a] at hboth
    exact (Prod.mk.inj (Option.some.inj hboth)).1
  rw [← ofParts_parts_of_plain ha, hparts, ofParts_parts_of_plain hb]

/-- **An escaped name is read back**: a server that reads a name from SQL text which starts with it
stops exactly behind it, unless a backtick or a dot follows, and finds the segments between the dots
of the name; the star is the only one that stands without backticks, and a backtick in a segment has
become a hyphen. Names without backticks are told apart by their escaped forms, and behind a name
the scan stands outside of quotes if it stood there in front of it. -/
theorem read_escape (name : String) :
    (∀ r : List Char, (∀ c ∈ r.head?, c ≠ backtick ∧ c ≠ '.') →
        read ((escape name).toList ++ r) = some ((name.toList.splitOn '.').map fun s =>
          if s = ['*'] then .all
          else .named (String.ofList (s.map fun c => if c = backtick then '-' else c)), r)) ∧
      (∀ other : String, backtick ∉ name.toList → backtick ∉ other.toList →
        escape name = escape other → name = other) ∧
      ∀ s : Scan, s.isOutside → (s.after (escape name).toList).isOutside := by
  refine ⟨fun r hr => ?_, fun other hname hother => escape_inj hname hother, fun s hs => ?_⟩
  · rw [toList_escape, ← segments_eq_splitOn]
    exact read_intercalate (segments_ne_nil _) hr
  · rw [isOutside_after hs]
    exact (spells_escape name).isForm.balanced

/-- A name with empty segments, a star, the three quotes, a backslash and blanks. -/
def hostileName : String := ".*.a\x60 ' b.\"\\. *"

/-- Of the hostile name, the segments are read back and a star in a longer segment is no star. Two
names differ by where the empty segment stands. -/
theorem read_escape_hostile :
    read ((escape hostileName).toList ++ " = 1".toList) =
        some ([.named "", .all, .named "a- ' b", .named "\"\\", .named " *"], " = 1".toList) ∧
      escape ".a" ≠ escape "a." ∧
      (Scan.gap.after (escape hostileName).toList).isOutside := by
  obtain ⟨hread, -, hquotes⟩ := read_escape hostileName
  have hnext : ∀ c ∈ " = 1".toList.head?, c ≠ backtick ∧ c ≠ '.' := by
    intro c hc
    obtain rfl : ' ' = c := by simpa using hc
    decide
  refine ⟨(hread _ hnext).trans (by decide +kernel), fun h => ?_, hquotes .gap rfl⟩
  have hsame := (read_escape ".a").2.1 "a." (by decide) (by decide) h
  exact absurd hsame (by decide)

end SqlBridge.Name
