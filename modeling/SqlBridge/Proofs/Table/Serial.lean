import Mathlib.Data.List.Forall2
import SqlBridge.Table.Serial
import SqlBridge.Proofs.Json.Layers
import SqlBridge.Proofs.Json.Value
import SqlBridge.Proofs.Decimal.Reading

/-!
# Stored tables read back

A table is read back from its stored form cell by cell, each value of the kind that it was and with
the content that it had (`Table.exists_ofDocument?`). Floating-point numbers are left out, of which
the text is not always exact.

What is stored goes through a text. That the text is read as what it was printed from is a fact
about JSON and not about tables: it holds when the JSON values in the cells are not nested too deep
(`Table.ofText?_text`), and given it every table is read back (`Table.exists_ofSerialText?`).
-/

namespace SqlBridge

namespace Value

/-! ## Values without floating-point numbers -/

/-- The value is no floating-point number and holds none. -/
def isExact : Value → Bool
  | .float _ => false
  | .double _ => false
  | .json j => j.isWhole
  | _ => true

/-- Values of the same kind with the same content; the sign of a zero does not count. -/
inductive Same : Value → Value → Prop
  | refl (v : Value) : Same v v
  | decimal {d e : Fixed} (hmantissa : d.mantissa = e.mantissa) (hscale : d.scale = e.scale) :
    Same (.decimal d) (.decimal e)

/-- An integer is stored under the name of its kind. -/
theorem toSerial_of_integer? {v : Value} {n : Int} (h : v.integer? = some n) :
    v.toSerial = tagged v.integerTag (Json.ofInt n (integer?_fits h)) := by
  have hjson : v.toJson = Json.ofInt n (integer?_fits h) := by
    cases v <;> simp only [integer?, Option.some.injEq, reduceCtorEq] at h
    all_goals
      subst h
      rfl
  rw [← hjson]
  cases v <;> first | rfl | cases h

/-- The stored form has whole numbers only. -/
theorem isWhole_toSerial {v : Value} (hv : v.isExact) : v.toSerial.isWhole := by
  cases hinteger : v.integer? with
  | some n =>
    rw [toSerial_of_integer? hinteger]
    rfl
  | none =>
    cases v with
    | bytes data =>
      refine (Bool.and_true _).trans (Json.allWhole_iff.2 fun j hj => ?_)
      obtain ⟨b, -, rfl⟩ := List.mem_map.1 hj
      rfl
    | json j => exact (Bool.and_true _).trans hv
    | null | bool _ | decimal _ | string _ | text _ | date _ | time _ | dateTime _ => rfl
    | float _ | double _ => cases hv
    | _ => cases hinteger

/-! ## Reading values -/

/-- What stands under a name is read within what is left of the nesting. -/
theorem isRead_tagged {tag : String} (htag : tag ≠ JsonDocument.textKey) {content : Json}
    {budget : Nat} :
    (tagged tag content).IsRead budget ↔ 1 < budget ∧ content.IsRead (budget - 1) := by
  have hplain : ∀ m ∈ [(tag, content)].head?, m.1 ≠ JsonDocument.textKey := by
    rintro m ⟨⟩
    exact htag
  rw [tagged, Json.isRead_object (List.pairwise_singleton _ _) hplain, List.forall_mem_singleton]

/-- The name of the kind tells how the content is read. -/
theorem ofDocument?_tagged {budget : Nat} (hbudget : 1 < budget) (tag : String) (content : Json) :
    ofDocument? budget (tagged tag content).document =
      ofTagged? tag content.document (budget - 1) := by
  have henter : JsonDocument.enter budget = some (budget - 1) := if_neg (by omega)
  rw [tagged, Json.document, Json.memberDocuments, Json.memberDocuments, ofDocument?, henter]
  rfl

/-- No kind of integer has the name of the kind of texts. -/
theorem integerTag_ne (v : Value) : v.integerTag ≠ JsonDocument.textKey := by
  unfold integerTag
  split <;> decide

/-- A number of 64 bits is read back as an integer. -/
theorem int?_ofInt (n : Int) (fits : JsonNumber.Fits n) :
    (Json.ofInt n fits).document.int? = some n := by
  rw [Json.ofInt, Json.document, JsonDocument.int?, JsonLexeme.value?_lexeme]

/-- An integer that is read is one in the bounds, if it is. -/
theorem intBetween?_of_int? {d : JsonDocument} {n low high : Int} (hd : d.int? = some n)
    (hlow : low ≤ n) (hhigh : n ≤ high) : d.intBetween? low high = some n := by
  rw [JsonDocument.intBetween?, hd, Option.bind_some, if_pos ⟨hlow, hhigh⟩]

/-- An integer of any width is read back. -/
theorem ofTagged?_integer {v : Value} {n : Int} (h : v.integer? = some n) {d : JsonDocument}
    (hd : d.int? = some n) (budget : Nat) : ofTagged? v.integerTag d budget = some v := by
  cases v <;> simp only [integer?, Option.some.injEq, reduceCtorEq] at h
  case tinyInt k | smallInt k | int k | bigInt k =>
    have hlow := k.le_toInt
    have hhigh := k.toInt_lt
    simp only [integerTag, ofTagged?]
    rw [intBetween?_of_int? hd (by omega) (by omega)]
    simp [← h]
  case unsignedTinyInt k | unsignedSmallInt k | unsignedInt k | unsignedBigInt k =>
    have hhigh := k.toNat_lt
    simp only [integerTag, ofTagged?]
    rw [intBetween?_of_int? hd (by omega) (by omega)]
    simp [← h]

/-- The documents of a list are read one by one. -/
theorem mapM_documents {α β : Type} {f : JsonDocument → Option α} {g : β → Json}
    {R : α → β → Prop} {l : List β}
    (h : ∀ x ∈ l, ∃ y, f (g x).document = some y ∧ R y x) :
    ∃ ys, (Json.documents (l.map g)).mapM f = some ys ∧ List.Forall₂ R ys l := by
  induction l with
  | nil => exact ⟨[], rfl, .nil⟩
  | cons x l ih =>
    obtain ⟨y, hy, hR⟩ := h x List.mem_cons_self
    obtain ⟨ys, hys, hall⟩ := ih fun z hz => h z (List.mem_cons_of_mem _ hz)
    refine ⟨y :: ys, ?_, .cons hR hall⟩
    rw [List.map_cons, Json.documents, List.mapM_cons, hy, hys]
    rfl

/-- Bytes are read back from a list of numbers. -/
theorem bytes?_map (data : List UInt8) {budget : Nat} (hbudget : 1 < budget) :
    bytes? (Json.array (data.map byteJson)).document budget = some data := by
  have henter : JsonDocument.enter budget = some (budget - 1) := if_neg (by omega)
  have hbyte (b : UInt8) : (byteJson b).document.intBetween? 0 255 = some (b.toNat : Int) := by
    have hhigh := b.toNat_lt
    exact intBetween?_of_int? (int?_ofInt _ _) (by omega) (by omega)
  obtain ⟨read, hread, hsame⟩ := mapM_documents (R := Eq) (l := data) (g := byteJson)
    (f := fun item => (item.intBetween? 0 255).map fun n => UInt8.ofNat n.toNat)
    fun b _ => ⟨b, by simp [hbyte], rfl⟩
  rw [List.forall₂_eq_eq_eq] at hsame
  subst hsame
  rw [Json.document, bytes?, henter, Option.bind_some, hread]

/-- **A value is read back** when the document of its stored form is. -/
theorem exists_ofDocument? {v : Value} (hv : v.isExact) {budget : Nat}
    (hread : v.toSerial.IsRead budget) :
    ∃ u, ofDocument? budget v.toSerial.document = some u ∧ u.Same v := by
  cases hinteger : v.integer? with
  | some n =>
    rw [toSerial_of_integer? hinteger] at hread ⊢
    obtain ⟨hbudget, -⟩ := (isRead_tagged v.integerTag_ne).1 hread
    rw [ofDocument?_tagged hbudget, ofTagged?_integer hinteger (int?_ofInt n _)]
    exact ⟨v, rfl, .refl v⟩
  | none =>
    cases v with
    | null => exact ⟨.null, rfl, .refl _⟩
    | bool b =>
      obtain ⟨hbudget, -⟩ := (isRead_tagged (by decide)).1 hread
      exact ⟨_, ofDocument?_tagged hbudget _ _, .refl _⟩
    | string s | text s | date s | time s | dateTime s =>
      obtain ⟨hbudget, -⟩ := (isRead_tagged (by decide)).1 hread
      exact ⟨_, ofDocument?_tagged hbudget _ _, .refl _⟩
    | decimal d =>
      obtain ⟨hbudget, -⟩ := (isRead_tagged (by decide)).1 hread
      obtain ⟨e, he, hmantissa, hscale⟩ := d.exists_ofText?_text
      refine ⟨.decimal e, ?_, .decimal hmantissa hscale⟩
      rw [toSerial, ofDocument?_tagged hbudget, Json.document, ofTagged?, decimal?,
        Option.bind_some, he]
      rfl
    | bytes data =>
      obtain ⟨hbudget, hcontent⟩ := (isRead_tagged (by decide)).1 hread
      refine ⟨.bytes data, ?_, .refl _⟩
      rw [toSerial, ofDocument?_tagged hbudget, ofTagged?,
        bytes?_map data (Json.isRead_array.1 hcontent).1]
      rfl
    | json j =>
      obtain ⟨hbudget, hcontent⟩ := (isRead_tagged (by decide)).1 hread
      refine ⟨.json j, ?_, .refl _⟩
      rw [toSerial, ofDocument?_tagged hbudget, ofTagged?, hcontent]
      rfl
    | float _ | double _ => cases hv
    | _ => cases hinteger

/-- A JSON value in the cell is nested within a budget. -/
def fits (budget : Nat) : Value → Bool
  | .json j => j.fits budget
  | _ => true

/-- What is stored is read when the JSON value in it is, or a list of bytes. -/
theorem isRead_toSerial_of_fits {v : Value} (hv : v.isExact) {budget : Nat} (hbudget : 2 < budget)
    (hfits : v.fits (budget - 1)) : v.toSerial.IsRead budget := by
  have htagged {tag : String} (htag : tag ≠ JsonDocument.textKey) {content : Json}
      (hcontent : content.IsRead (budget - 1)) : (tagged tag content).IsRead budget :=
    (isRead_tagged htag).2 ⟨by omega, hcontent⟩
  cases hinteger : v.integer? with
  | some n =>
    rw [toSerial_of_integer? hinteger]
    exact htagged v.integerTag_ne (Json.isRead_integer _ n _)
  | none =>
    cases v with
    | null => rfl
    | bool _ => exact htagged (by decide) rfl
    | string s | text s | date s | time s | dateTime s =>
      exact htagged (by decide) (Json.isRead_string _ s)
    | decimal d => exact htagged (by decide) (Json.isRead_string _ d.text)
    | bytes data =>
      refine htagged (by decide) (Json.isRead_array.2 ⟨by omega, fun j hj => ?_⟩)
      obtain ⟨b, -, rfl⟩ := List.mem_map.1 hj
      exact Json.isRead_integer _ _ _
    | json j => exact htagged (by decide) (Json.isRead_of_fits hv hfits)
    | float _ | double _ => cases hv
    | _ => cases hinteger

end Value

/-! ## Reading columns and tables -/

/-- Columns of the same name with the same values. -/
structure Column.Same (c d : Column) : Prop where
  name : c.name = d.name
  values : List.Forall₂ Value.Same c.values d.values

/-- Tables of the same columns. -/
def Table.Same (t u : Table) : Prop := List.Forall₂ Column.Same t.columns u.columns

/-- No cell of the table is a floating-point number or holds one. -/
def Table.isExact (t : Table) : Bool := t.columns.all fun c => c.values.all Value.isExact

/-- The values of a column are read within what is left of the nesting. -/
theorem Column.isRead_toSerial {c : Column} {budget : Nat} :
    c.toSerial.IsRead budget ↔
      1 < budget ∧ 1 < budget - 1 ∧ ∀ v ∈ c.values, v.toSerial.IsRead (budget - 1 - 1) := by
  have hsorted : Json.Sorted [("name", .string c.name),
      ("values", .array (c.values.map Value.toSerial))] :=
    List.pairwise_pair.2 (by decide : "name" < "values")
  have hplain : ∀ m ∈ [("name", Json.string c.name),
      ("values", .array (c.values.map Value.toSerial))].head?, m.1 ≠ JsonDocument.textKey := by
    rintro m ⟨⟩
    exact (by decide : "name" ≠ JsonDocument.textKey)
  rw [toSerial, Json.isRead_object hsorted hplain, List.forall_mem_cons, List.forall_mem_singleton,
    and_iff_right (Json.isRead_string _ _), Json.isRead_array, List.forall_mem_map]

/-- **A column is read back** when the document of its stored form is. -/
theorem Column.exists_ofDocument? {c : Column} (hc : ∀ v ∈ c.values, v.isExact) {budget : Nat}
    (hread : c.toSerial.IsRead budget) :
    ∃ d, Column.ofDocument? budget c.toSerial.document = some d ∧ d.Same c := by
  obtain ⟨hbudget, hinner, hvalues⟩ := isRead_toSerial.1 hread
  have henter : JsonDocument.enter budget = some (budget - 1) := if_neg (by omega)
  have henter' : JsonDocument.enter (budget - 1) = some (budget - 1 - 1) := if_neg (by omega)
  obtain ⟨values, hmap, hsame⟩ := Value.mapM_documents (g := Value.toSerial) fun v hv =>
    Value.exists_ofDocument? (hc v hv) (hvalues v hv)
  refine ⟨⟨c.name, values⟩, ?_, rfl, hsame⟩
  have hfields : c.toSerial.document.fieldsOf ["name", "values"] budget =
      some ([some (.string (some c.name)),
        some (.array (Json.documents (c.values.map Value.toSerial)))], budget - 1) := by
    rw [toSerial, Json.document, JsonDocument.fieldsOf, henter]
    rfl
  rw [ofDocument?, hfields]
  simp only [henter', Option.bind_some, JsonDocument.string?, hmap, Option.map_some]

/-- The columns are read within what is left of the nesting. -/
theorem Table.isRead_toSerial {t : Table} {budget : Nat} :
    t.toSerial.IsRead budget ↔
      1 < budget ∧ 1 < budget - 1 ∧ ∀ c ∈ t.columns, c.toSerial.IsRead (budget - 1 - 1) := by
  refine (Value.isRead_tagged (by decide : "columns" ≠ JsonDocument.textKey)).trans ?_
  rw [Json.isRead_array, List.forall_mem_map]

/-- **A table is read back** when the document of its stored form is. -/
theorem Table.exists_ofDocument? {t : Table} (ht : t.isExact) {budget : Nat}
    (hread : t.toSerial.IsRead budget) :
    ∃ u, Table.ofDocument? budget t.toSerial.document = some u ∧ u.Same t := by
  simp only [isExact, List.all_eq_true] at ht
  obtain ⟨hbudget, hinner, hcolumns⟩ := isRead_toSerial.1 hread
  have henter : JsonDocument.enter budget = some (budget - 1) := if_neg (by omega)
  have henter' : JsonDocument.enter (budget - 1) = some (budget - 1 - 1) := if_neg (by omega)
  obtain ⟨columns, hmap, hsame⟩ := Value.mapM_documents (g := Column.toSerial) fun c hc =>
    Column.exists_ofDocument? (ht c hc) (hcolumns c hc)
  refine ⟨⟨columns⟩, ?_, hsame⟩
  have hfields : t.toSerial.document.fieldsOf ["columns"] budget =
      some ([some (.array (Json.documents (t.columns.map Column.toSerial)))], budget - 1) := by
    rw [toSerial, Json.document, JsonDocument.fieldsOf, henter]
    rfl
  rw [ofDocument?, hfields]
  simp only [henter', Option.bind_some, hmap, Option.map_some]

/-- The stored form has whole numbers only. -/
theorem Table.isWhole_toSerial {t : Table} (ht : t.isExact) : t.toSerial.isWhole := by
  simp only [isExact, List.all_eq_true] at ht
  have hcolumn : ∀ c ∈ t.columns, c.toSerial.isWhole := fun c hc => by
    rw [Column.toSerial, Json.isWhole, Json.membersWhole_iff, List.forall_mem_cons,
      List.forall_mem_singleton, Json.isWhole, Json.allWhole_iff, List.forall_mem_map]
    exact ⟨rfl, fun v hv => Value.isWhole_toSerial (ht c hc v hv)⟩
  rw [toSerial, Json.isWhole, Json.membersWhole_iff, List.forall_mem_singleton, Json.isWhole,
    Json.allWhole_iff, List.forall_mem_map]
  exact hcolumn

/-- The JSON values in the cells leave room for what stands around them: the objects and lists of
the table and of its column, and the name of the kind. -/
def Table.fits (t : Table) : Bool :=
  t.columns.all fun c => c.values.all (Value.fits (JsonDocument.nesting - 5))

/-- **The text of a stored table is read as what it was printed from** when the JSON values in its
cells are not nested too deep. -/
theorem Table.ofText?_text {t : Table} (ht : t.isExact) (hfits : t.fits) :
    Json.ofText? t.toSerial.text = some t.toSerial := by
  rw [Json.ofText?_eq, JsonDocument.ofText?_text (isWhole_toSerial ht), Option.bind_some]
  simp only [isExact, fits, List.all_eq_true] at ht hfits
  exact isRead_toSerial.2 ⟨by decide, by decide, fun c hc => Column.isRead_toSerial.2
    ⟨by decide, by decide, fun v hv => Value.isRead_toSerial_of_fits (ht c hc v hv) (by decide)
      (hfits c hc v hv)⟩⟩

/-- **A stored table is read back.** A table without floating-point numbers, the text of whose
stored form is read as the JSON value that it was printed from, is read from this text with the
columns and cells that it had, whatever their kinds and contents. -/
theorem Table.exists_ofSerialText? {t : Table} (ht : t.isExact)
    (hread : Json.ofText? t.toSerial.text = some t.toSerial) :
    ∃ u, Table.ofSerialText? t.toSerial.text = some u ∧ u.Same t := by
  have hdocument := JsonDocument.ofText?_text (isWhole_toSerial ht)
  rw [Json.ofText?_eq, hdocument, Option.bind_some] at hread
  rw [ofSerialText?, hdocument]
  exact exists_ofDocument? ht hread

/-- A table with cells of every kind but the floating-point ones: integers at both ends of their
ranges, decimals down to a negative zero, strings with quotes, controls and characters of four
bytes, bytes, and nested JSON values; its columns differ in length. -/
def Table.ofEveryKind : Table :=
  ⟨[⟨"kind \"q\"\n",
      [.null, .bool true, .tinyInt (-128), .smallInt 32767, .int (-2147483648),
        .bigInt (-9223372036854775808), .bigInt 9223372036854775807, .unsignedTinyInt 255,
        .unsignedSmallInt 65535, .unsignedInt 4294967295, .unsignedBigInt 18446744073709551615,
        .decimal ⟨true, 150, 2, by decide, by decide⟩, .decimal ⟨true, 0, 2, by decide, by decide⟩,
        .string "a\\\"b\x00\x1f/é😀", .text "", .bytes [0, 255, 34], .date "2024-02-29",
        .time "23:59:59", .dateTime "0000-00-00 00:00:00"]⟩,
    ⟨"",
      [.json (.object [("a", .array [.null, Json.ofInt (-9223372036854775808) (by decide),
          Json.ofInt 18446744073709551615 (by decide), .object []]),
        ("b\"", .string "\t\x7f")])]⟩,
    ⟨"none", []⟩]⟩

/-- A table with a value of every kind is read back from its document. -/
theorem Table.exists_ofSerialText?_ofEveryKind :
    Table.ofEveryKind.isExact ∧
      Json.ofText? Table.ofEveryKind.toSerial.text = some Table.ofEveryKind.toSerial ∧
      ∃ u, Table.ofSerialText? Table.ofEveryKind.toSerial.text = some u ∧
        u.Same Table.ofEveryKind := by
  have ht : Table.ofEveryKind.isExact := by decide +kernel
  have hread := Table.ofText?_text ht (by decide +kernel)
  exact ⟨ht, hread, Table.exists_ofSerialText? ht hread⟩

end SqlBridge
