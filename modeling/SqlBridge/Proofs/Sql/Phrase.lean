import SqlBridge.Proofs.Sql.Content
import SqlBridge.Proofs.Sql.Truth

/-!
# What runs of tokens stand for

A statement that was cut into tokens is read phrase by phrase. A name is a run of parts with dots
between them (`Name.ofTokens?`), a literal is one token or a number behind a minus sign
(`Literal.ofTokens?`), a list is cut at its commas (`entries?`), and a list in parentheses ends at
the next closing one (`parens?`).

`Name.parts` and `Value.content` say what is meant; `Name.ofTokens?_tokens` and
`Value.ofTokens?_tokens` say that it is read from the tokens that names and values are written as.
A name without backticks is recovered from its parts (`Name.ofParts_parts_of_plain`).
-/

namespace SqlBridge

open Sql

/-! ## Lists -/

namespace Sql

/-- What follows keywords, in any case of letters; the keywords are given in capitals. -/
def behindKeywords? : List String → List Token → Option (List Token)
  | [], ts => some ts
  | _ :: _, [] => none
  | k :: ks, t :: ts => if t.isKeyword k then behindKeywords? ks ts else none

/-- What stands in parentheses, and what follows them. -/
def parens? : List Token → Option (List Token × List Token)
  | [] => none
  | t :: ts =>
    if t = .sign "(" then
      match ts.span (· ≠ .sign ")") with
      | (_, []) => none
      | (inside, _ :: rest) => some (inside, rest)
    else none

/-- The entries of a list with commas between them. -/
def entries? {α : Type} (read : List Token → Option α) (ts : List Token) : Option (List α) :=
  (ts.splitOn (.sign ",")).mapM read

/-- The parentheses end at the next closing one. -/
theorem parens?_append {a : List Token} (ha : .sign ")" ∉ a) (rest : List Token) :
    parens? (.sign "(" :: (a ++ .sign ")" :: rest)) = some (a, rest) := by
  have hin : ∀ t ∈ a, decide (t ≠ .sign ")") = true := fun t ht =>
    decide_eq_true fun heq => ha (heq ▸ ht)
  rw [parens?, if_pos rfl, span_append hin (by simp)]

variable {α β : Type}

/-- Reading all of a list is reading each entry. -/
theorem mapM_map_eq_some {read : List Token → Option α} {f : β → List Token} {g : β → α}
    {l : List β} (h : ∀ x ∈ l, read (f x) = some (g x)) :
    (l.map f).mapM read = some (l.map g) := by
  induction l with
  | nil => rfl
  | cons x l ih =>
    rw [List.map_cons, List.mapM_cons, h x (by simp), ih fun y hy => h y (by simp [hy])]
    rfl

/-- What has a separator between its entries, none of which holds it, is read entry by entry. -/
theorem mapM_splitOn_intercalate {sep : Token} {read : List Token → Option α}
    {f : β → List Token} {g : β → α} {l : List β} (hl : l ≠ []) (hsep : ∀ x ∈ l, sep ∉ f x)
    (h : ∀ x ∈ l, read (f x) = some (g x)) :
    (([sep].intercalate (l.map f)).splitOn sep).mapM read = some (l.map g) := by
  rw [List.splitOn_intercalate _ (by simpa using hsep) (by simpa using hl)]
  exact mapM_map_eq_some h

/-- **A list is read entry by entry.** -/
theorem entries?_intercalate {read : List Token → Option α} {f : β → List Token} {g : β → α}
    {l : List β} (hl : l ≠ []) (hcomma : ∀ x ∈ l, .sign "," ∉ f x)
    (h : ∀ x ∈ l, read (f x) = some (g x)) :
    entries? read ([.sign ","].intercalate (l.map f)) = some (l.map g) :=
  mapM_splitOn_intercalate hl hcomma h

end Sql

/-! ## Names -/

namespace Name

/-- A part of a name. -/
inductive Part where
  /-- All columns. -/
  | all
  | named (s : String)
  deriving DecidableEq, Repr

/-- One part of a name. -/
def Part.ofTokens? : List Token → Option Part
  | [.name s] => some (.named s)
  | [.sign "*"] => some .all
  | _ => none

/-- A name, part by part. -/
def ofTokens? (ts : List Token) : Option (List Part) :=
  (ts.splitOn (.sign ".")).mapM Part.ofTokens?

/-- What a segment of a name is meant to be: a backtick becomes a hyphen. -/
def part (s : List Char) : Part :=
  if s = ['*'] then .all else .named (String.ofList (s.map quotedChar))

/-- What a name is meant to be, part by part. -/
def parts (name : String) : List Part := (segments name.toList).map part

/-- **A name is read back part by part.** -/
theorem ofTokens?_tokens (name : String) : ofTokens? (tokens name) = some (parts name) := by
  refine mapM_splitOn_intercalate (segments_ne_nil name.toList) (fun s _ => ?_) fun s _ => ?_
  · unfold segmentToken
    split <;> simp
  · unfold segmentToken part
    split <;> rfl

/-- The tokens of a name are names between backticks, dots and stars. -/
theorem mem_tokens {name : String} {t : Token} (ht : t ∈ tokens name) :
    (∃ s, t = .name s) ∨ t = .sign "." ∨ t = .sign "*" := by
  refine forall_mem_intercalate (p := fun t => (∃ s, t = .name s) ∨ t = .sign "." ∨ t = .sign "*")
    (.inr (.inl rfl)) (fun ts hts => ?_) t ht
  obtain ⟨s, -, rfl⟩ := List.mem_map.1 hts
  intro t ht
  rw [List.mem_singleton.1 ht, segmentToken]
  split
  · exact .inr (.inr rfl)
  · exact .inl ⟨_, rfl⟩

/-- No other sign stands in a name. -/
theorem sign_not_mem_tokens (name : String) {s : String} (hdot : s ≠ ".") (hstar : s ≠ "*") :
    Token.sign s ∉ tokens name := by
  intro hmem
  rcases mem_tokens hmem with ⟨u, hu⟩ | hs | hs
  · cases hu
  · exact hdot (Token.sign.inj hs)
  · exact hstar (Token.sign.inj hs)

/-- A name ends at the first other sign. -/
theorem span_tokens (name : String) {s : String} (hdot : s ≠ ".") (hstar : s ≠ "*")
    (rest : List Token) : (tokens name ++ .sign s :: rest).span (· ≠ .sign s) =
      (tokens name, .sign s :: rest) :=
  span_append
    (fun _ ht => decide_eq_true fun heq => sign_not_mem_tokens name hdot hstar (heq ▸ ht)) (by simp)

/-- A part as it is said in a name. -/
def Part.text : Part → String
  | all => "*"
  | named s => s

/-- The name with the given parts. -/
def ofParts (l : List Part) : String := ".".intercalate (l.map Part.text)

/-- Characters may be replaced before or after texts are joined. -/
theorem map_intercalate (f : Char → Char) (sep : List Char) (l : List (List Char)) :
    (sep.intercalate l).map f = (sep.map f).intercalate (l.map (List.map f)) := by
  induction l with
  | nil => rfl
  | cons s l ih =>
    cases l with
    | nil => simp
    | cons u l => simpa using ih

/-- **The parts of a name are the name again**, with hyphens for its backticks. -/
theorem ofParts_parts (name : String) :
    ofParts (parts name) = String.ofList (name.toList.map quotedChar) := by
  have htext (s : List Char) : (part s).text.toList = s.map quotedChar := by
    unfold part
    split
    · next hs =>
      rw [hs]
      rfl
    · simp [Part.text]
  have hparts : ((parts name).map Part.text).map String.toList =
      (segments name.toList).map (List.map quotedChar) := by
    simp [parts, Function.comp_def, htext]
  refine String.toList_inj.1 ?_
  calc (ofParts (parts name)).toList
      = ['.'].intercalate ((segments name.toList).map (List.map quotedChar)) := by
        rw [ofParts, String.toList_intercalate, hparts]
        rfl
    _ = (['.'].intercalate (segments name.toList)).map quotedChar :=
        (map_intercalate quotedChar ['.'] _).symm
    _ = (String.ofList (name.toList.map quotedChar)).toList := by
        rw [intercalate_segments, String.toList_ofList]

/-- A name without backticks is recovered. -/
theorem ofParts_parts_of_plain {name : String} (h : backtick ∉ name.toList) :
    ofParts (parts name) = name := by
  have hsame : name.toList.map quotedChar = name.toList := by
    refine (List.map_congr_left (g := id) fun c hc => ?_).trans (List.map_id _)
    have hne : c ≠ backtick := fun heq => h (heq ▸ hc)
    exact if_neg hne
  rw [ofParts_parts, hsame, String.ofList_toList]

end Name

/-! ## Literals -/

namespace Literal

/-- The number of a numeral. -/
def number? (s : String) : Option ℚ :=
  match readNumber s.toList with
  | some (q, []) => some q
  | _ => none

/-- A literal. -/
def ofTokens? : List Token → Option Content
  | [.text s] => some (.text s)
  | [.bytes data] => some (.bytes data)
  | [.number s] => (number? s).map .number
  | [.sign "-", .number s] => (number? s).map fun q => .number (-q)
  | [t] => if t.isKeyword "NULL" then some .null else none
  | _ => none

open Numeral

/-- A whole text that denotes a number is read as that number. -/
theorem number?_of_writes {s : String} {q : ℚ} (h : Writes s.toList q) : number? s = some q := by
  have hread := readNumber_of_writes h (r := []) (by simp)
  rw [List.append_nil] at hread
  rw [number?, hread]

/-- A numeral is read back as its number. -/
theorem ofTokens?_of_denotes {s : String} {q : ℚ} (h : Denotes s.toList q) :
    ofTokens? (Numeral.tokens s) = some (.number q) := by
  generalize hs : s.toList = cs at h
  cases h with
  | plus hu =>
    obtain ⟨c, u, rfl, hc⟩ := head_of_writes hu
    obtain ⟨-, -, -, hminus, -⟩ := isDigit_ordinary hc
    rw [Numeral.tokens, hs, if_neg (by simpa using hminus), ofTokens?,
      number?_of_writes (hs ▸ hu)]
    rfl
  | @minus u _ hu =>
    have hts : Numeral.tokens s = [.sign "-", .number (String.ofList u)] := by
      rw [Numeral.tokens, hs]
      rfl
    rw [hts, ofTokens?, number?_of_writes (by simpa using hu)]
    rfl

end Literal

namespace Value

open Literal Numeral

/-- A floating-point number is read back, as a number or as the text for what is none. -/
theorem ofTokens?_float (f : Binary.Format) (bits : Nat) :
    ofTokens? (if f.isFinite bits then Numeral.tokens (f.plainText bits)
      else [.text (f.plainText bits)]) = some (f.content bits) := by
  rw [Binary.Format.isFinite, Binary.Format.plainText, Binary.Format.content]
  cases f.decode bits with
  | nan => rfl
  | infinite negative => rfl
  | finite negative m q =>
    refine ofTokens?_of_denotes ?_
    rw [String.toList_ofList]
    exact denotes_ite (Binary.Digits.writes_positional _) negative

/-- An integer is read back. -/
theorem ofTokens?_integer {v : Value} {n : Int} (hn : v.integer? = some n) :
    ofTokens? (Numeral.tokens v.display) = some (.number n) := by
  rw [display_of_integer? hn]
  exact ofTokens?_of_denotes (denotes_toString_int n)

/-- **A value is read back from its tokens.** -/
theorem ofTokens?_tokens (v : Value) : Literal.ofTokens? v.tokens = some v.content := by
  cases v with
  | null => rfl
  | bool b =>
    cases b
    · exact ofTokens?_of_denotes (s := "0") (.plus (writes_toDigits 0))
    · exact ofTokens?_of_denotes (s := "1") (.plus (writes_toDigits 1))
  | string | text | bytes | json | date | time | dateTime => rfl
  | tinyInt n => exact ofTokens?_integer (v := .tinyInt n) rfl
  | smallInt n => exact ofTokens?_integer (v := .smallInt n) rfl
  | int n => exact ofTokens?_integer (v := .int n) rfl
  | bigInt n => exact ofTokens?_integer (v := .bigInt n) rfl
  | unsignedTinyInt n => exact ofTokens?_integer (v := .unsignedTinyInt n) rfl
  | unsignedSmallInt n => exact ofTokens?_integer (v := .unsignedSmallInt n) rfl
  | unsignedInt n => exact ofTokens?_integer (v := .unsignedInt n) rfl
  | unsignedBigInt n => exact ofTokens?_integer (v := .unsignedBigInt n) rfl
  | float bits => exact ofTokens?_float Binary.single bits.toNat
  | double bits => exact ofTokens?_float Binary.double bits.toNat
  | decimal d => exact ofTokens?_of_denotes d.denotes_text

/-- The only sign in a literal is the minus sign. -/
theorem sign_not_mem_tokens (v : Value) {s : String} (hs : s ≠ "-") : Token.sign s ∉ v.tokens := by
  have hnumeral (u : String) : Token.sign s ∉ Numeral.tokens u := by
    unfold Numeral.tokens
    split <;> simp [hs]
  unfold Value.tokens
  split <;> try split
  all_goals simp [hnumeral]

end Value

end SqlBridge
