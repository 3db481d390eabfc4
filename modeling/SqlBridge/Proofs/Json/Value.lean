import Mathlib.Data.List.Basic
import SqlBridge.Proofs.Json.Text

/-!
# Values of documents

The document of a value has this value again where the reader takes it for one (`Json.IsRead`):
whole numbers are worth their digits (`JsonLexeme.value?_lexeme`), members that stand in order are
kept in it (`Json.ofMembers_of_sorted`), and arrays and objects are read when what they hold is read
within what is left of the nesting (`Json.isRead_array`, `Json.isRead_object`). So all is read that
is not nested too deep and does not look like a text within a text (`Json.isRead_of_fits`).
-/

namespace SqlBridge

/-! ## Numbers -/

namespace JsonLexeme

/-- Digits whose number fits 64 bits are gathered all. -/
theorem gather_map (s : List Char) (value : Nat)
    (hfits : Nat.ofDigitChars 10 s value < UInt64.size) :
    gather value (s.map fun c => c.toNat - 48) = (Nat.ofDigitChars 10 s value, []) := by
  induction s generalizing value with
  | nil => rfl
  | cons c s ih =>
    rw [Numeral.ofDigitChars_cons] at hfits ⊢
    have hle := Numeral.le_ofDigitChars (value * 10 + (c.toNat - 48)) s
    rw [List.map_cons, gather, if_pos (Nat.lt_of_le_of_lt hle hfits)]
    exact ih _ hfits

/-- **A whole number is worth its digits.** -/
theorem value?_lexeme (n : Int) (fits : JsonNumber.Fits n) :
    (JsonNumber.integer n fits).lexeme.value? = some (.integer n fits) := by
  have hnumber : Nat.ofDigitChars 10 (Nat.toDigits 10 n.natAbs) 0 = n.natAbs :=
    Nat.ofDigitChars_toDigits (by decide) (by decide)
  have hsize : UInt64.size = 0x10000000000000000 := rfl
  have hgather := gather_map (Nat.toDigits 10 n.natAbs) 0 (by rw [hnumber]; omega)
  rw [hnumber] at hgather
  by_cases hneg : n < 0
  · have hint : -((n.natAbs : Nat) : Int) = n := by omega
    rw [JsonNumber.lexeme, decide_eq_true hneg, value?]
    simp only [hgather, Bool.not_true, Bool.false_eq_true, if_false]
    rw [if_neg (by omega), hint]
    exact dif_pos fits
  · have hint : ((n.natAbs : Nat) : Int) = n := by omega
    rw [JsonNumber.lexeme, decide_eq_false hneg, value?]
    simp only [hgather, Bool.not_false, if_true]
    rw [hint]
    exact dif_pos fits

end JsonLexeme

namespace Json

/-! ## Members -/

/-- The keys of the members stand in their order, each once. -/
def Sorted (members : List (String × Json)) : Prop := members.Pairwise fun m k => m.1 < k.1

instance (members : List (String × Json)) : Decidable (Sorted members) :=
  inferInstanceAs (Decidable (List.Pairwise _ _))

/-- A member with a greater key goes to the end. -/
theorem insertMember_of_lt {key : String} {value : Json} {members : List (String × Json)}
    (h : ∀ m ∈ members, m.1 < key) :
    insertMember key value members = members ++ [(key, value)] := by
  induction members with
  | nil => rfl
  | cons m rest ih =>
    have hlt : m.1 < key := h m List.mem_cons_self
    have hne : key ≠ m.1 := fun heq => String.lt_irrefl key (heq ▸ hlt)
    rw [insertMember, if_neg (String.lt_asymm hlt), if_neg hne,
      ih fun k hk => h k (List.mem_cons_of_mem _ hk)]
    rfl

/-- **Members that stand in order make up an object as they stand.** -/
theorem ofMembers_of_sorted {members : List (String × Json)} (h : Sorted members) :
    ofMembers members = .object members := by
  have hfold : ∀ before behind : List (String × Json), Sorted (before ++ behind) →
      behind.foldl (fun sorted m => insertMember m.1 m.2 sorted) before = before ++ behind := by
    intro before behind
    induction behind generalizing before with
    | nil =>
      intro _
      rw [List.foldl_nil, List.append_nil]
    | cons m rest ih =>
      intro hsorted
      have hlt : ∀ k ∈ before, k.1 < m.1 := fun k hk =>
        (List.pairwise_append.1 hsorted).2.2 k hk m List.mem_cons_self
      rw [List.foldl_cons, insertMember_of_lt hlt, ih _ (by rwa [List.append_cons] at hsorted),
        List.append_assoc]
      rfl
  rw [ofMembers, hfold [] members h, List.nil_append]

/-! ## Values that are read -/

/-- The document of the value has it for its value, within a budget of nesting. -/
def IsRead (budget : Nat) (j : Json) : Prop := j.document.toJson budget = some j

/-- A text is read within any budget. -/
theorem isRead_string (budget : Nat) (s : String) : (string s).IsRead budget := rfl

/-- A whole number of 64 bits is read within any budget. -/
theorem isRead_integer (budget : Nat) (n : Int) (fits : JsonNumber.Fits n) :
    (ofInt n fits).IsRead budget := by
  rw [IsRead, ofInt, document, JsonDocument.toJson, JsonDocument.toJsonWith,
    JsonLexeme.value?_lexeme]
  rfl

/-- The items of an array are read when each of them is. -/
theorem itemsToJson_documents {budget : Nat} {items : List Json} :
    JsonDocument.itemsToJson ofText? budget (documents items) = some items ↔
      ∀ j ∈ items, j.IsRead budget := by
  induction items with
  | nil => simp [documents, JsonDocument.itemsToJson]
  | cons j rest ih =>
    rw [documents, JsonDocument.itemsToJson, List.forall_mem_cons, ← ih, IsRead,
      JsonDocument.toJson]
    cases j.document.toJsonWith ofText? budget <;>
      cases JsonDocument.itemsToJson ofText? budget (documents rest) <;> simp

/-- The members of an object are read when the value of each of them is. -/
theorem membersToJson_documents {budget : Nat} {members : List (String × Json)} :
    JsonDocument.membersToJson ofText? budget (memberDocuments members) = some members ↔
      ∀ m ∈ members, m.2.IsRead budget := by
  induction members with
  | nil => simp [memberDocuments, JsonDocument.membersToJson]
  | cons m rest ih =>
    obtain ⟨key, j⟩ := m
    have hall : (∀ m ∈ (key, j) :: rest, m.2.IsRead budget) ↔
        j.IsRead budget ∧ ∀ m ∈ rest, m.2.IsRead budget := List.forall_mem_cons
    rw [memberDocuments, JsonDocument.membersToJson.eq_def, hall, ← ih, IsRead,
      JsonDocument.toJson]
    dsimp only
    cases j.document.toJsonWith ofText? budget <;>
      cases JsonDocument.membersToJson ofText? budget (memberDocuments rest) <;> simp

/-- **An array is read when its items are**, within what is left of the nesting. -/
theorem isRead_array {budget : Nat} {items : List Json} :
    (array items).IsRead budget ↔ 1 < budget ∧ ∀ j ∈ items, j.IsRead (budget - 1) := by
  rw [IsRead, document, JsonDocument.toJson, JsonDocument.toJsonWith, ← itemsToJson_documents]
  split
  · simp; omega
  · next h => simp [Option.map_eq_some_iff]; omega

/-- An object whose first key is another one stands for itself. -/
theorem innerText?_memberDocuments {members : List (String × Json)}
    (h : ∀ m ∈ members.head?, m.1 ≠ JsonDocument.textKey) :
    JsonDocument.innerText? (memberDocuments members) = none := by
  cases members with
  | nil => rfl
  | cons m rest => exact if_neg (h m rfl)

/-- The members that are read have the keys that were written. -/
theorem keys_of_membersToJson {budget : Nat} {members read : List (String × Json)}
    (h : JsonDocument.membersToJson ofText? budget (memberDocuments members) = some read) :
    read.map Prod.fst = members.map Prod.fst := by
  induction members generalizing read with
  | nil =>
    cases h
    rfl
  | cons m rest ih =>
    obtain ⟨key, j⟩ := m
    rw [memberDocuments, JsonDocument.membersToJson.eq_def] at h
    dsimp only at h
    split at h
    · next k v r hkey _ hrest =>
      cases hkey
      cases h
      rw [List.map_cons, List.map_cons, ih hrest]
    · cases h

/-- Members are sorted when their names rise. -/
theorem sorted_iff {members : List (String × Json)} :
    Sorted members ↔ (members.map Prod.fst).Pairwise (· < ·) := List.pairwise_map.symm

/-- **An object with its members in order is read when their values are**, within what is left of
the nesting. -/
theorem isRead_object {budget : Nat} {members : List (String × Json)} (hsorted : Sorted members)
    (hplain : ∀ m ∈ members.head?, m.1 ≠ JsonDocument.textKey) :
    (object members).IsRead budget ↔ 1 < budget ∧ ∀ m ∈ members, m.2.IsRead (budget - 1) := by
  rw [IsRead, document, JsonDocument.toJson, JsonDocument.toJsonWith, ← membersToJson_documents,
    innerText?_memberDocuments hplain]
  split
  · simp; omega
  · next hbudget =>
    rw [and_iff_right (by omega), Option.map_eq_some_iff]
    constructor
    · rintro ⟨read, hread, heq⟩
      have hread' : Sorted read := by
        rw [sorted_iff, keys_of_membersToJson hread]
        exact sorted_iff.1 hsorted
      rw [ofMembers_of_sorted hread', object.injEq] at heq
      rwa [heq] at hread
    · intro hread
      exact ⟨members, hread, ofMembers_of_sorted hsorted⟩

/-! ## Values of little nesting -/

/-- The value is nested within a budget, and its objects have their members in order and do not
start with the key of a text within the text. -/
def fits : Nat → Json → Bool
  | 0, .array _ => false
  | 0, .object _ => false
  | budget + 1, .array items => decide (0 < budget) && items.all (fits budget)
  | budget + 1, .object members =>
    decide (0 < budget) && decide (Sorted members) &&
      members.head?.all (fun m => m.1 != JsonDocument.textKey) &&
      members.all fun m => fits budget m.2
  | _, _ => true

/-- The items of an array have whole numbers only when each of them does. -/
theorem allWhole_iff {items : List Json} : allWhole items ↔ ∀ j ∈ items, j.isWhole := by
  induction items with
  | nil => simp [allWhole]
  | cons j rest ih => rw [allWhole, Bool.and_eq_true, ih, List.forall_mem_cons]

/-- The members of an object have whole numbers only when the value of each of them does. -/
theorem membersWhole_iff {members : List (String × Json)} :
    membersWhole members ↔ ∀ m ∈ members, m.2.isWhole := by
  induction members with
  | nil => simp [membersWhole]
  | cons m rest ih => rw [membersWhole, Bool.and_eq_true, ih, List.forall_mem_cons]

/-- **Values that fit are read.** -/
theorem isRead_of_fits {budget : Nat} {j : Json} (hj : j.isWhole) (hfits : j.fits budget) :
    j.IsRead budget := by
  induction budget generalizing j with
  | zero =>
    match j with
    | .null | .bool _ | .string _ => rfl
    | .number (.integer n fits) => exact isRead_integer 0 n fits
    | .array _ | .object _ => cases hfits
  | succ budget ih =>
    match j with
    | .null | .bool _ | .string _ => rfl
    | .number (.integer n fits) => exact isRead_integer (budget + 1) n fits
    | .array items =>
      rw [isWhole, allWhole_iff] at hj
      rw [fits, Bool.and_eq_true, decide_eq_true_eq, List.all_eq_true] at hfits
      exact isRead_array.2 ⟨Nat.succ_lt_succ hfits.1, fun j hmem => ih (hj j hmem) (hfits.2 j hmem)⟩
    | .object members =>
      rw [isWhole, membersWhole_iff] at hj
      simp only [fits, Bool.and_eq_true, decide_eq_true_eq, List.all_eq_true,
        Option.all_eq_true, bne_iff_ne] at hfits
      obtain ⟨⟨⟨hbudget, hsorted⟩, hplain⟩, hvalues⟩ := hfits
      exact (isRead_object hsorted hplain).2
        ⟨Nat.succ_lt_succ hbudget, fun m hmem => ih (hj m hmem) (hvalues m hmem)⟩

end Json

end SqlBridge
