import SqlBridge.Json.Document
import SqlBridge.Proofs.Decimal.Numeral

/-!
# JSON texts read back

The compact text of a value is taken apart into the document that it was printed from
(`JsonDocument.ofText?_text`): members in their order, whole numbers as their digits, and strings
with their escapes undone, whatever characters they have. Values with floating-point numbers are
left out, of which the text is not always exact.

The reader is followed piece by piece, each time with any rest behind: escapes and characters of a
string (`readPieces_escapedChar`), digits of a number (`readUnsigned_toDigits`), and values with
their items and members (`JsonDocument.ReadsBack`). A number is read to its end when what follows
cannot go on with it (`JsonDocument.Ends`).
-/

namespace SqlBridge

/-! ## Values and their documents -/

/-- The digits of a whole number; of other numbers nothing is said. -/
def JsonNumber.lexeme : JsonNumber → JsonLexeme
  | .integer n _ => ⟨n < 0, (Nat.toDigits 10 n.natAbs).map fun c => c.toNat - 48, none, none⟩
  | _ => ⟨false, [], none, none⟩

namespace Json

mutual
/-- All numbers of the value are whole numbers. -/
def isWhole : Json → Bool
  | .number (.integer _ _) => true
  | .number _ => false
  | .array items => allWhole items
  | .object members => membersWhole members
  | _ => true

/-- All numbers of the items are whole numbers. -/
def allWhole : List Json → Bool
  | [] => true
  | item :: rest => item.isWhole && allWhole rest

/-- All numbers of the members are whole numbers. -/
def membersWhole : List (String × Json) → Bool
  | [] => true
  | (_, value) :: rest => value.isWhole && membersWhole rest
end

mutual
/-- The document that the text of a value is taken apart into. -/
def document : Json → JsonDocument
  | .null => .null
  | .bool b => .bool b
  | .number n => .number n.lexeme
  | .string s => .string (some s)
  | .array items => .array (documents items)
  | .object members => .object (memberDocuments members)

/-- The documents of items. -/
def documents : List Json → List JsonDocument
  | [] => []
  | item :: rest => item.document :: documents rest

/-- The documents of members, with their keys. -/
def memberDocuments : List (String × Json) → List (Option String × JsonDocument)
  | [] => []
  | (key, value) :: rest => (some key, value.document) :: memberDocuments rest
end

end Json

namespace JsonDocument

/-! ## Strings -/

/-- What one character is read as: the controls without a letter of their own are code units. -/
def pieceOf (c : Char) : Piece :=
  if c.toNat < 32 ∧ c ∉ ['\x08', '\t', '\n', '\x0c', '\r'] then .unit c.toNat else .char c

/-- The digits that numbers below sixteen are printed as are read as these numbers. -/
theorem hexDigit?_digitChar : ∀ n < 16, Numeral.hexDigit? (Nat.digitChar n) = some n := by decide

/-- How one character is written: behind a backslash as a letter or as its number, or as it is. -/
theorem escapedChar_cases (c : Char) :
    (∃ e, Json.escapedChar c = ['\\', e] ∧ e ≠ 'u' ∧ shortEscape? e = some c ∧
        pieceOf c = .char c) ∨
      (∃ x y z v, Json.escapedChar c = ['\\', 'u', x, y, z, v] ∧ hexUnit? x y z v = some c.toNat ∧
        pieceOf c = .unit c.toNat) ∨
      Json.escapedChar c = [c] ∧ c ≠ '"' ∧ c ≠ '\\' ∧ 32 ≤ c.toNat ∧ pieceOf c = .char c := by
  unfold Json.escapedChar
  by_cases hquote : c = '"'
  · subst hquote
    exact .inl ⟨'"', by decide⟩
  by_cases hslash : c = '\\'
  · subst hslash
    exact .inl ⟨'\\', by decide⟩
  by_cases hb : c = '\x08'
  · subst hb
    exact .inl ⟨'b', by decide⟩
  by_cases ht : c = '\t'
  · subst ht
    exact .inl ⟨'t', by decide⟩
  by_cases hn : c = '\n'
  · subst hn
    exact .inl ⟨'n', by decide⟩
  by_cases hf : c = '\x0c'
  · subst hf
    exact .inl ⟨'f', by decide⟩
  by_cases hr : c = '\r'
  · subst hr
    exact .inl ⟨'r', by decide⟩
  simp only [if_neg hquote, if_neg hslash, if_neg hb, if_neg ht, if_neg hn, if_neg hf, if_neg hr]
  have hzero : Numeral.hexDigit? '0' = some 0 := by decide
  have hunit (h : c.toNat < 32) : pieceOf c = .unit c.toNat :=
    if_pos ⟨h, by simp only [List.mem_cons, List.not_mem_nil, hb, ht, hn, hf, hr]; simp⟩
  by_cases hlow : c.toNat < 16
  · refine .inr (.inl ⟨'0', '0', '0', Nat.digitChar c.toNat, ?_, ?_, hunit (by omega)⟩)
    · rw [if_pos hlow, Nat.toDigits_of_lt_base hlow]
      rfl
    · simp only [hexUnit?, hzero, hexDigit?_digitChar c.toNat hlow, Option.some.injEq]
      omega
  by_cases hcontrol : c.toNat < 32
  · refine .inr (.inl ⟨'0', '0', Nat.digitChar (c.toNat / 16), Nat.digitChar (c.toNat % 16),
      ?_, ?_, hunit hcontrol⟩)
    · rw [if_neg hlow, if_pos hcontrol, Nat.toDigits_of_base_le (by decide) (by omega),
        Nat.toDigits_of_lt_base (by omega)]
      rfl
    · simp only [hexUnit?, hzero, hexDigit?_digitChar (c.toNat / 16) (by omega),
        hexDigit?_digitChar (c.toNat % 16) (by omega), Option.some.injEq]
      omega
  · rw [if_neg hlow, if_neg hcontrol]
    exact .inr (.inr ⟨rfl, hquote, hslash, by omega, if_neg fun h => hcontrol h.1⟩)

/-- What is written for one character is read as its piece. -/
theorem readPieces_escapedChar (c : Char) (r : List Char) :
    readPieces (Json.escapedChar c ++ r) =
      (readPieces r).map fun x => (pieceOf c :: x.1, x.2) := by
  rcases escapedChar_cases c with ⟨e, htext, hu, he, hpiece⟩ | ⟨x, y, z, v, htext, hunit, hpiece⟩ |
    ⟨htext, hquote, hslash, hlow, hpiece⟩
  · rw [htext, hpiece, List.cons_append, List.cons_append, List.nil_append, readPieces]
    · rw [he]
    · exact fun _ _ _ _ _ h _ => hu h
  · rw [htext, hpiece]
    simp only [List.cons_append, List.nil_append, readPieces, hunit]
  · rw [htext, hpiece, List.cons_append, List.nil_append, readPieces]
    · rw [if_neg (by simp only [not_or]; exact ⟨by omega, hslash⟩)]
    all_goals simp_all

/-- The escaped characters of a text are read one by one up to the closing quote. -/
theorem readPieces_quoted (s r : List Char) :
    readPieces (s.flatMap Json.escapedChar ++ '"' :: r) = some (s.map pieceOf, r) := by
  induction s with
  | nil => rfl
  | cons c s ih =>
    rw [List.flatMap_cons, List.append_assoc, readPieces_escapedChar, ih]
    rfl

/-- A code unit below the surrogates is a character of its own. -/
theorem joinPieces_unit {n : Nat} (hn : n < 0xD800) (pieces : List Piece) :
    joinPieces (.unit n :: pieces) = (joinPieces pieces).map (Char.ofNat n :: ·) := by
  cases pieces with
  | nil =>
    simp only [joinPieces]
    rw [if_neg (by omega)]
  | cons p rest =>
    cases p with
    | char c =>
      simp only [joinPieces]
      rw [if_neg (by omega)]
    | unit m => rw [joinPieces, if_neg (by omega), if_neg (by omega)]

/-- The pieces of a text are joined to the same text. -/
theorem joinPieces_pieceOf (s : List Char) : joinPieces (s.map pieceOf) = some s := by
  induction s with
  | nil => rfl
  | cons c s ih =>
    rw [List.map_cons, pieceOf]
    split
    · next h =>
      rw [joinPieces_unit (by omega), ih, Char.ofNat_toNat]
      rfl
    · rw [joinPieces, ih]
      rfl

/-- **A string is read back, whatever characters it has.** -/
theorem readString_quoted (s : String) (r : List Char) :
    readString (s.toList.flatMap Json.escapedChar ++ '"' :: r) = some (some s, r) := by
  rw [readString, readPieces_quoted, Option.map_some, joinPieces_pieceOf]
  simp

/-! ## Numbers -/

/-- What follows does not go on with a number. -/
def Ends (r : List Char) : Prop :=
  ∀ c ∈ r.head?, c.isDigit = false ∧ c ≠ '.' ∧ c ≠ 'e' ∧ c ≠ 'E'

/-- Digits are read up to the end of the number. -/
theorem readDigits_append {s r : List Char} (hs : ∀ c ∈ s, c.isDigit) (hr : Ends r) :
    readDigits (s ++ r) = (s.map fun c => c.toNat - 48, r) := by
  induction s with
  | nil =>
    cases r with
    | nil => rfl
    | cons c r =>
      rw [List.nil_append, readDigits, Numeral.digit?_of_not_isDigit (hr c rfl).1]
      rfl
  | cons c s ih =>
    have hrest := ih fun d hd => hs d (List.mem_cons_of_mem _ hd)
    rw [List.cons_append, readDigits, Numeral.digit?_of_isDigit (hs c List.mem_cons_self)]
    simp only [hrest, List.map_cons]

/-- Where a number ends there is no fraction. -/
theorem readFraction_of_ends {r : List Char} (hr : Ends r) : readFraction r = some (none, r) := by
  cases r with
  | nil => rfl
  | cons c r =>
    rw [readFraction]
    rintro rest ⟨⟩
    exact (hr '.' rfl).2.1 rfl

/-- Where a number ends there is no exponent. -/
theorem readExponent_of_ends {r : List Char} (hr : Ends r) : readExponent r = some (none, r) := by
  cases r with
  | nil => rfl
  | cons c r =>
    obtain ⟨-, -, he, hE⟩ := hr c rfl
    rw [readExponent]
    simp only [he, hE, or_self, if_false]

/-- The digits of a number are read up to where they end. -/
theorem readUnsigned_toDigits (negative : Bool) (n : Nat) {r : List Char} (hr : Ends r) :
    readUnsigned negative (Nat.toDigits 10 n ++ r) =
      some (⟨negative, (Nat.toDigits 10 n).map fun c => c.toNat - 48, none, none⟩, r) := by
  have hdigits := Numeral.isDigits_toDigits n
  rw [readUnsigned, readDigits_append hdigits.digits hr]
  generalize hvalues : (Nat.toDigits 10 n).map (fun c => c.toNat - 48) = values
  cases values with
  | nil => exact absurd (List.map_eq_nil_iff.1 hvalues) hdigits.ne_nil
  | cons d ds =>
    cases d with
    | succ d => simp only [readFraction_of_ends hr, readExponent_of_ends hr]
    | zero =>
      cases ds with
      | nil => simp only [readFraction_of_ends hr, readExponent_of_ends hr]
      | cons e es =>
        -- a zero in front of other digits is written for no number
        obtain ⟨c, s, htext, hc, hs⟩ := List.map_eq_cons_iff.1 hvalues
        have hdigit : c.isDigit := hdigits.digits c (htext ▸ List.mem_cons_self)
        obtain rfl := Numeral.eq_zero_of_isDigit hdigit hc
        rw [Numeral.eq_nil_of_toDigits htext] at hs
        cases hs

/-! ## Values -/

@[simp]
theorem skip_cons {c : Char} (hc : isSpace c = false) (s : List Char) : skip (c :: s) = c :: s := by
  rw [skip, List.dropWhile_cons, hc]
  rfl

/-- A digit is no other character. -/
theorem ne_of_isDigit {c d : Char} (hc : c.isDigit) (hd : d.isDigit = false) : c ≠ d := by
  rintro rfl
  rw [hd] at hc
  cases hc

/-- A digit is no blank. -/
theorem isSpace_of_isDigit {c : Char} (hc : c.isDigit) : isSpace c = false := by
  simp only [isSpace, Bool.or_eq_false_iff, beq_eq_false_iff_ne]
  exact ⟨⟨⟨ne_of_isDigit hc (by decide), ne_of_isDigit hc (by decide)⟩,
    ne_of_isDigit hc (by decide)⟩, ne_of_isDigit hc (by decide)⟩

/-- A digit begins a number. -/
theorem readValue_digit {c : Char} (hc : c.isDigit) (fuel : Nat) (s : List Char) :
    readValue (fuel + 1) (c :: s) =
      (readUnsigned false (c :: s)).map fun x => (.number x.1, x.2) := by
  rw [readValue, skip_cons (isSpace_of_isDigit hc)]
  -- no other case of the reader starts with a digit
  split <;> next heq =>
    first | rfl | exact absurd (List.cons.inj heq).1 (ne_of_isDigit hc (by decide))

/-- A whole number is read back. -/
theorem readValue_integer (n : Int) (fits : JsonNumber.Fits n) {fuel : Nat} {r : List Char}
    (hr : Ends r) :
    readValue (fuel + 1) ((toString n).toList ++ r) =
      some (.number (JsonNumber.integer n fits).lexeme, r) := by
  rw [Numeral.toList_toString_int, JsonNumber.lexeme]
  split
  · next hneg =>
    rw [List.cons_append, readValue, skip_cons (by decide)]
    simp only [readUnsigned_toDigits true n.natAbs hr, Option.map_some, hneg, decide_true]
  · next hneg =>
    have hread := readUnsigned_toDigits false n.natAbs hr
    cases hdigits : Nat.toDigits 10 n.natAbs with
    | nil => exact absurd hdigits Nat.toDigits_ne_nil
    | cons c s =>
      have hc := (Numeral.isDigits_toDigits n.natAbs).digits c (hdigits ▸ List.mem_cons_self)
      rw [hdigits] at hread
      rw [List.cons_append, readValue_digit hc, ← List.cons_append, hread]
      simp [hneg]

/-! ### The characters of texts -/

/-- A text is written as its escaped characters between quotes. -/
theorem toList_quoted (s : String) :
    (Json.quoted s).toList = '"' :: (s.toList.flatMap Json.escapedChar ++ ['"']) := by
  simp [Json.quoted]

/-- An array is written as its items between brackets. -/
theorem toList_text_array (items : List Json) :
    (Json.array items).text.toList = '[' :: ((Json.itemsText items).toList ++ [']']) := by
  simp [Json.text]

/-- An object is written as its members between braces. -/
theorem toList_text_object (members : List (String × Json)) :
    (Json.object members).text.toList =
      '\x7b' :: ((Json.membersText members).toList ++ ['\x7d']) := by
  simp [Json.text]

/-- Items are parted by commas. -/
theorem toList_itemsText_cons (item : Json) (rest : List Json) :
    (Json.itemsText (item :: rest)).toList = item.text.toList ++
      if rest = [] then [] else ',' :: (Json.itemsText rest).toList := by
  cases rest <;> simp [Json.itemsText]

/-- Members are parted by commas, and keys from values by colons. -/
theorem toList_membersText_cons (key : String) (value : Json) (rest : List (String × Json)) :
    (Json.membersText ((key, value) :: rest)).toList =
      (Json.quoted key).toList ++ ':' :: (value.text.toList ++
        if rest = [] then [] else ',' :: (Json.membersText rest).toList) := by
  cases rest <;> simp [Json.membersText]

/-- The text of a value starts with a character that is no space and closes nothing. -/
theorem exists_cons_text {j : Json} (hj : j.isWhole) :
    ∃ c s, j.text.toList = c :: s ∧ isSpace c = false ∧ c ≠ ']' := by
  match j with
  | .null => exact ⟨'n', ['u', 'l', 'l'], rfl, by decide⟩
  | .bool true => exact ⟨'t', ['r', 'u', 'e'], rfl, by decide⟩
  | .bool false => exact ⟨'f', ['a', 'l', 's', 'e'], rfl, by decide⟩
  | .string s => exact ⟨'"', _, toList_quoted s, by decide⟩
  | .array items => exact ⟨'[', _, toList_text_array items, by decide⟩
  | .object members => exact ⟨'\x7b', _, toList_text_object members, by decide⟩
  | .number (.integer n fits) =>
    have htext : (Json.number (.integer n fits)).text.toList = (toString n).toList := rfl
    rw [htext, Numeral.toList_toString_int]
    split
    · exact ⟨'-', _, rfl, by decide⟩
    · cases hdigits : Nat.toDigits 10 n.natAbs with
      | nil => exact absurd hdigits Nat.toDigits_ne_nil
      | cons c s =>
        have hc := (Numeral.isDigits_toDigits n.natAbs).digits c (hdigits ▸ List.mem_cons_self)
        refine ⟨c, s, rfl, isSpace_of_isDigit hc, ?_⟩
        rintro rfl
        exact absurd hc (by decide)

/-- A comma ends a number. -/
theorem ends_comma (r : List Char) : Ends (',' :: r) := by
  rintro c ⟨⟩
  decide

/-- A closing bracket ends a number. -/
theorem ends_bracket (r : List Char) : Ends (']' :: r) := by
  rintro c ⟨⟩
  decide

/-- A closing brace ends a number. -/
theorem ends_brace (r : List Char) : Ends ('\x7d' :: r) := by
  rintro c ⟨⟩
  decide

/-! ### Reading them -/

/-- An array is read by its items when it is not closed at once. -/
theorem readValue_array {c : Char} (hspace : isSpace c = false) (hclose : c ≠ ']') (fuel : Nat)
    (s : List Char) :
    readValue (fuel + 1) ('[' :: c :: s) =
      (readItems fuel (c :: s)).map fun x => (.array x.1, x.2) := by
  rw [readValue, skip_cons (by decide)]
  simp only [skip_cons hspace]
  split
  · next heq => exact absurd (List.cons.inj heq).1 hclose
  · rfl

/-- An object is read by its members when it starts with a key. -/
theorem readValue_object (fuel : Nat) (s : List Char) :
    readValue (fuel + 1) ('\x7b' :: '"' :: s) =
      (readMembers fuel ('"' :: s)).map fun x => (.object x.1, x.2) := by
  rw [readValue, skip_cons (by decide)]
  simp only [skip_cons (c := '"') (by decide)]
  rfl

/-- With so much fuel every text that is short enough is read as the document of its value, with
anything behind that does not go on with a number. -/
structure ReadsBack (fuel : Nat) : Prop where
  value : ∀ (j : Json) (r : List Char), j.isWhole → 2 * j.text.toList.length ≤ fuel → Ends r →
    readValue fuel (j.text.toList ++ r) = some (j.document, r)
  items : ∀ (item : Json) (rest : List Json) (r : List Char), Json.allWhole (item :: rest) →
    2 * (Json.itemsText (item :: rest)).toList.length < fuel →
    readItems fuel ((Json.itemsText (item :: rest)).toList ++ ']' :: r) =
      some (Json.documents (item :: rest), r)
  members : ∀ (m : String × Json) (rest : List (String × Json)) (r : List Char),
    Json.membersWhole (m :: rest) →
    2 * (Json.membersText (m :: rest)).toList.length < fuel →
    readMembers fuel ((Json.membersText (m :: rest)).toList ++ '\x7d' :: r) =
      some (Json.memberDocuments (m :: rest), r)

namespace ReadsBack

variable {fuel : Nat} {r : List Char}

/-- The items behind the first one are read with less fuel. -/
theorem items_succ (h : ReadsBack fuel) (item : Json) (rest : List Json)
    (hwhole : Json.allWhole (item :: rest))
    (hfuel : 2 * (Json.itemsText (item :: rest)).toList.length < fuel + 1) :
    readItems (fuel + 1) ((Json.itemsText (item :: rest)).toList ++ ']' :: r) =
      some (Json.documents (item :: rest), r) := by
  rw [Json.allWhole, Bool.and_eq_true] at hwhole
  rw [toList_itemsText_cons] at hfuel ⊢
  rw [List.length_append] at hfuel
  cases rest with
  | nil =>
    have hitem := h.value item (']' :: r) hwhole.1 (by omega) (ends_bracket r)
    rw [if_pos rfl, List.append_nil, readItems, hitem]
    simp only [skip_cons (c := ']') (by decide)]
    rfl
  | cons next rest =>
    rw [if_neg (List.cons_ne_nil _ _)] at hfuel ⊢
    rw [List.length_cons] at hfuel
    have hitem := h.value item (',' :: ((Json.itemsText (next :: rest)).toList ++ ']' :: r))
      hwhole.1 (by omega) (ends_comma _)
    have hrest := h.items next rest r hwhole.2 (by omega)
    rw [List.append_assoc, List.cons_append, readItems, hitem]
    simp only [skip_cons (c := ',') (by decide), hrest, Option.map_some]
    rfl

/-- The members behind the first one are read with less fuel. -/
theorem members_succ (h : ReadsBack fuel) (m : String × Json) (rest : List (String × Json))
    (hwhole : Json.membersWhole (m :: rest))
    (hfuel : 2 * (Json.membersText (m :: rest)).toList.length < fuel + 1) :
    readMembers (fuel + 1) ((Json.membersText (m :: rest)).toList ++ '\x7d' :: r) =
      some (Json.memberDocuments (m :: rest), r) := by
  obtain ⟨key, value⟩ := m
  rw [Json.membersWhole, Bool.and_eq_true] at hwhole
  rw [toList_membersText_cons, toList_quoted] at hfuel ⊢
  simp only [List.length_append, List.length_cons, List.length_nil] at hfuel
  simp only [List.append_assoc, List.cons_append, List.nil_append]
  cases rest with
  | nil =>
    have hvalue := h.value value ('\x7d' :: r) hwhole.1 (by omega) (ends_brace r)
    simp only [if_true, List.nil_append, readMembers, skip_cons (c := '"') (by decide),
      readString_quoted, skip_cons (c := ':') (by decide), hvalue,
      skip_cons (c := '\x7d') (by decide)]
    rfl
  | cons next rest =>
    simp only [List.cons_ne_nil, if_false, List.length_cons] at hfuel
    have hvalue := h.value value
      (',' :: ((Json.membersText (next :: rest)).toList ++ '\x7d' :: r)) hwhole.1 (by omega)
      (ends_comma _)
    have hrest := h.members next rest r hwhole.2 (by omega)
    simp only [List.cons_ne_nil, if_false, List.cons_append, readMembers,
      skip_cons (c := '"') (by decide), readString_quoted, skip_cons (c := ':') (by decide), hvalue,
      skip_cons (c := ',') (by decide), hrest, Option.map_some]
    rfl

/-- A value is read with less fuel for what it holds. -/
theorem value_succ (h : ReadsBack fuel) (j : Json) (hj : j.isWhole)
    (hfuel : 2 * j.text.toList.length ≤ fuel + 1) (hr : Ends r) :
    readValue (fuel + 1) (j.text.toList ++ r) = some (j.document, r) := by
  cases j with
  | null => rfl
  | bool b => cases b <;> rfl
  | number k =>
    cases k with
    | integer n fits => exact readValue_integer n fits hr
    | double _ | single _ => cases hj
  | string s =>
    have htext : (Json.string s).text.toList = (Json.quoted s).toList := rfl
    rw [htext, toList_quoted, List.cons_append, readValue, skip_cons (by decide)]
    simp only [List.append_assoc, List.cons_append, List.nil_append, readString_quoted]
    rfl
  | array items =>
    cases items with
    | nil => rfl
    | cons item rest =>
      rw [toList_text_array] at hfuel ⊢
      simp only [List.length_cons, List.length_append, List.length_nil] at hfuel
      have hitems := h.items item rest r hj (by omega)
      have hitem : item.isWhole := by
        rw [Json.isWhole, Json.allWhole, Bool.and_eq_true] at hj
        exact hj.1
      obtain ⟨c, s, htext, hspace, hclose⟩ := exists_cons_text hitem
      rw [List.cons_append, List.append_assoc, List.singleton_append]
      rw [toList_itemsText_cons, htext, List.cons_append, List.cons_append] at hitems ⊢
      rw [readValue_array hspace hclose, hitems]
      rfl
  | object members =>
    cases members with
    | nil => rfl
    | cons m rest =>
      obtain ⟨key, value⟩ := m
      rw [toList_text_object] at hfuel ⊢
      simp only [List.length_cons, List.length_append, List.length_nil] at hfuel
      have hmembers := h.members (key, value) rest r hj (by omega)
      rw [List.cons_append, List.append_assoc, List.singleton_append]
      rw [toList_membersText_cons, toList_quoted, List.cons_append, List.cons_append]
        at hmembers ⊢
      rw [readValue_object, hmembers]
      rfl

end ReadsBack

/-- **With any fuel the texts that are short enough for it are read back**: values, items and
members at once, since each holds the others, by induction on the fuel. -/
theorem readsBack (fuel : Nat) : ReadsBack fuel := by
  induction fuel with
  | zero =>
    refine ⟨fun j r hj hfuel _ => ?_, fun _ _ _ _ hfuel => ?_, fun _ _ _ _ hfuel => ?_⟩
    · obtain ⟨c, s, htext, -⟩ := exists_cons_text hj
      rw [htext, List.length_cons] at hfuel
      omega
    all_goals omega
  | succ fuel ih =>
    exact ⟨fun j r hj hfuel hr => ih.value_succ j hj hfuel hr,
      fun item rest r hwhole hfuel => ih.items_succ item rest hwhole hfuel,
      fun m rest r hwhole hfuel => ih.members_succ m rest hwhole hfuel⟩

/-- **The text of a value is taken apart into its document.** -/
theorem ofText?_text {j : Json} (hj : j.isWhole) : ofText? j.text = some j.document := by
  have hread := (readsBack (2 * j.text.toList.length + 2)).value j [] hj (by omega)
    (fun c hc => nomatch hc)
  rw [List.append_nil] at hread
  rw [ofText?]
  simp only [hread]
  rfl

end JsonDocument

end SqlBridge
