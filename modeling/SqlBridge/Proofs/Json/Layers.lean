import Mathlib.Data.List.Basic
import SqlBridge.Json.Document

/-!
# Texts within texts

A string of a JSON text has fewer characters than the text (`JsonDocument.short_of_ofText?`), so a
text that stands within another one is shorter, and the length of the outer one bounds the layers
(`Json.ofLayers?_congr`). With that the value of a text is the value of its document
(`Json.ofText?_eq`), wherever the document stands.
-/

namespace SqlBridge

namespace JsonDocument

/-! ## Strings of a document -/

mutual
/-- The strings of the document have fewer than so many characters. -/
def Short (bound : Nat) : JsonDocument → Prop
  | .string (some s) => s.length < bound
  | .array items => ShortItems bound items
  | .object members => ShortMembers bound members
  | _ => True

/-- So have those of the items. -/
def ShortItems (bound : Nat) : List JsonDocument → Prop
  | [] => True
  | item :: rest => item.Short bound ∧ ShortItems bound rest

/-- So have those of the members. -/
def ShortMembers (bound : Nat) : List (Option String × JsonDocument) → Prop
  | [] => True
  | (_, value) :: rest => value.Short bound ∧ ShortMembers bound rest
end

variable {bound budget : Nat}

/-- A text within the document is one of its strings. -/
theorem length_of_innerText? {members : List (Option String × JsonDocument)} {s : String}
    (h : innerText? members = some (some s)) (hshort : ShortMembers bound members) :
    s.length < bound := by
  rw [innerText?.eq_def] at h
  split at h
  · split at h
    · split at h
      · obtain rfl := Option.some.inj h
        exact hshort.1
      · cases h
    · cases h
  · cases h

/-- Texts within the document are read alike by readers that agree on short texts. -/
theorem toJsonWith_congr {f g : String → Option Json}
    (hfg : ∀ s : String, s.length < bound → f s = g s) {d : JsonDocument} (hd : d.Short bound) :
    d.toJsonWith f budget = d.toJsonWith g budget := by
  induction budget generalizing d with
  | zero => cases d <;> simp [toJsonWith]
  | succ budget ih =>
    cases d with
    | null | bool _ | number _ | string _ => rfl
    | array items =>
      have hitems : itemsToJson f budget items = itemsToJson g budget items := by
        rw [Short] at hd
        induction items with
        | nil => rfl
        | cons item rest ihrest => rw [itemsToJson, itemsToJson, ih hd.1, ihrest hd.2]
      rw [toJsonWith, toJsonWith, Nat.add_sub_cancel, hitems]
    | object members =>
      have hmembers : membersToJson f budget members = membersToJson g budget members := by
        rw [Short] at hd
        induction members with
        | nil => rfl
        | cons m rest ihrest =>
          rw [membersToJson.eq_def, membersToJson.eq_def]
          dsimp only
          rw [ih hd.1, ihrest hd.2]
      rw [toJsonWith, toJsonWith, Nat.add_sub_cancel, hmembers]
      cases htext : innerText? members with
      | none => rfl
      | some text =>
        cases text with
        | none => rfl
        | some s => simp only [Option.bind_some, hfg s (length_of_innerText? htext hd)]

/-! ## What the reader leaves -/

/-- A reader that puts what another one has read into a value leaves the same text. -/
theorem exists_of_map_read {α β : Type} {read? : Option (α × List Char)} {f : α → β} {b : β}
    {r : List Char} (h : (read?.map fun x => (f x.1, x.2)) = some (b, r)) :
    ∃ a, read? = some (a, r) ∧ f a = b := by
  obtain ⟨⟨a, left⟩, hread, heq⟩ := Option.map_eq_some_iff.1 h
  obtain ⟨rfl, rfl⟩ := Prod.mk.inj heq
  exact ⟨a, hread, rfl⟩

/-- The pieces of a string and what follows it are fewer than the characters, of which the quote is
one. -/
theorem length_readPieces {s r : List Char} {pieces : List Piece}
    (h : readPieces s = some (pieces, r)) : pieces.length + r.length < s.length := by
  fun_induction readPieces s generalizing pieces r
  case case1 | case3 | case5 | case7 => cases h
  case case2 =>
    cases h
    simp
  case case4 ih | case6 ih | case8 ih =>
    obtain ⟨read, hread, rfl⟩ := exists_of_map_read h
    have hle := ih hread
    simp only [List.length_cons]
    omega

/-- A string has no more characters than pieces. -/
theorem length_joinPieces {pieces : List Piece} {s : List Char} (h : joinPieces pieces = some s) :
    s.length ≤ pieces.length := by
  fun_induction joinPieces pieces generalizing s
  case case1 =>
    cases h
    exact Nat.le_refl _
  case case4 | case5 | case7 => cases h
  case case2 ih | case3 ih | case6 ih | case8 ih =>
    obtain ⟨read, hread, rfl⟩ := Option.map_eq_some_iff.1 h
    have hle := ih hread
    simp only [List.length_cons] at hle ⊢
    omega

/-- A string has fewer characters than what it is read from. -/
theorem length_readString {s r : List Char} {read : Option String}
    (h : readString s = some (read, r)) :
    r.length < s.length ∧ ∀ t ∈ read, t.length < s.length := by
  obtain ⟨pieces, hpieces, rfl⟩ :=
    exists_of_map_read (f := fun pieces => (joinPieces pieces).map String.ofList) h
  have hlt := length_readPieces hpieces
  refine ⟨Nat.lt_of_le_of_lt (Nat.le_add_left _ _) hlt, fun t ht => ?_⟩
  obtain ⟨cs, hcs, rfl⟩ := Option.map_eq_some_iff.1 ht
  have hle : cs.length ≤ pieces.length := length_joinPieces hcs
  rw [String.length_ofList]
  omega

/-- Digits take characters away and add none. -/
theorem length_readDigits {s r : List Char} {ds : List Nat} (h : readDigits s = (ds, r)) :
    r.length ≤ s.length := by
  fun_induction readDigits s generalizing ds r
  case case1 | case3 =>
    cases h
    exact Nat.le_refl _
  case case2 ds' r' hread ih =>
    cases h
    exact Nat.le_succ_of_le (ih hread)

/-- Passed over blanks add no character. -/
theorem length_skip (s : List Char) : (skip s).length ≤ s.length :=
  (List.dropWhile_suffix _).length_le

/-- A fraction takes characters away and adds none. -/
theorem length_readFraction {s r : List Char} {read : Option (List Nat)}
    (h : readFraction s = some (read, r)) : r.length ≤ s.length := by
  rw [readFraction.eq_def] at h
  split at h
  · next rest =>
    split at h
    · cases h
    · next ds behind _ hread =>
      cases h
      exact Nat.le_succ_of_le (length_readDigits hread)
  · cases h
    exact Nat.le_refl _

/-- An exponent takes characters away and adds none. -/
theorem length_readExponent {s r : List Char} {read : Option (Bool × List Nat)}
    (h : readExponent s = some (read, r)) : r.length ≤ s.length := by
  rw [readExponent.eq_def] at h
  split at h
  · split at h
    · next rest _ =>
      dsimp only at h
      split at h
      · cases h
      · next ds behind _ hread =>
        cases h
        have hle := length_readDigits hread
        split at hle <;> simp only [List.length_cons] at hle ⊢ <;> omega
    · cases h
      exact Nat.le_refl _
  · cases h
    exact Nat.le_refl _

/-- A number takes characters away and adds none. -/
theorem length_readUnsigned {negative : Bool} {s r : List Char} {l : JsonLexeme}
    (h : readUnsigned negative s = some (l, r)) : r.length ≤ s.length := by
  rw [readUnsigned.eq_def] at h
  split at h
  · cases h
  · cases h
  · next whole behind _ _ hread =>
    split at h
    · cases h
    · next fraction behind' hfraction =>
      split at h
      · cases h
      · next exponent behind'' hexponent =>
        cases h
        have hdigits := length_readDigits hread
        have hplaces := length_readFraction hfraction
        exact Nat.le_trans (length_readExponent hexponent) (Nat.le_trans hplaces hdigits)

/-- With so much fuel, what is read from a text within the bound has strings of fewer characters
than the bound, and what is left is no longer than the text. -/
structure ReadsShort (bound fuel : Nat) : Prop where
  value : ∀ {s r : List Char} {d : JsonDocument}, s.length ≤ bound →
    readValue fuel s = some (d, r) → d.Short bound ∧ r.length ≤ s.length
  items : ∀ {s r : List Char} {items : List JsonDocument}, s.length ≤ bound →
    readItems fuel s = some (items, r) → ShortItems bound items ∧ r.length ≤ s.length
  members : ∀ {s r : List Char} {members : List (Option String × JsonDocument)},
    s.length ≤ bound → readMembers fuel s = some (members, r) →
      ShortMembers bound members ∧ r.length ≤ s.length

namespace ReadsShort

variable {fuel : Nat} {s r : List Char}

/-- With one more step of fuel the items are short if all that is read with less is short. -/
theorem items_succ (hshort : ReadsShort bound fuel) {items : List JsonDocument}
    (hs : s.length ≤ bound) (h : readItems (fuel + 1) s = some (items, r)) :
    ShortItems bound items ∧ r.length ≤ s.length := by
  rw [readItems] at h
  split at h
  · cases h
  · next item behind hitem =>
    obtain ⟨hfirst, hle⟩ := hshort.value hs hitem
    have hskip := length_skip behind
    split at h
    · next rest heq =>
      obtain ⟨read, hread, rfl⟩ := exists_of_map_read h
      rw [heq, List.length_cons] at hskip
      obtain ⟨hrest, hle'⟩ := hshort.items (by omega) hread
      exact ⟨⟨hfirst, hrest⟩, Nat.le_trans hle' (by omega)⟩
    · next rest heq =>
      cases h
      rw [heq, List.length_cons] at hskip
      exact ⟨⟨hfirst, trivial⟩, by omega⟩
    · cases h

/-- With one more step of fuel the members are short if all that is read with less is short. -/
theorem members_succ (hshort : ReadsShort bound fuel)
    {members : List (Option String × JsonDocument)} (hs : s.length ≤ bound)
    (h : readMembers (fuel + 1) s = some (members, r)) :
    ShortMembers bound members ∧ r.length ≤ s.length := by
  rw [readMembers] at h
  have hskip := length_skip s
  split at h
  · next rest heq =>
    rw [heq, List.length_cons] at hskip
    split at h
    · cases h
    · next key behind hkey =>
      have hkeyle := (length_readString hkey).1
      have hcolon := length_skip behind
      split at h
      · next rest heq =>
        rw [heq, List.length_cons] at hcolon
        split at h
        · cases h
        · next value behind hvalue =>
          obtain ⟨hfirst, hle⟩ := hshort.value (by omega) hvalue
          have hend := length_skip behind
          split at h
          · next rest heq =>
            obtain ⟨read, hread, rfl⟩ := exists_of_map_read h
            rw [heq, List.length_cons] at hend
            obtain ⟨hrest, hle'⟩ := hshort.members (by omega) hread
            exact ⟨⟨hfirst, hrest⟩, by omega⟩
          · next rest heq =>
            cases h
            rw [heq, List.length_cons] at hend
            exact ⟨⟨hfirst, trivial⟩, by omega⟩
          · cases h
      · cases h
  · cases h

/-- With one more step of fuel a value is short if all that is read with less is short. -/
theorem value_succ (hshort : ReadsShort bound fuel) {d : JsonDocument} (hs : s.length ≤ bound)
    (h : readValue (fuel + 1) s = some (d, r)) : d.Short bound ∧ r.length ≤ s.length := by
  rw [readValue] at h
  have hskip := length_skip s
  split at h
  case h_1 rest heq | h_2 rest heq | h_3 rest heq =>
    cases h
    simp only [heq, List.length_cons] at hskip
    exact ⟨trivial, by omega⟩
  case h_4 rest heq =>
    obtain ⟨read, hread, rfl⟩ := exists_of_map_read h
    rw [heq, List.length_cons] at hskip
    obtain ⟨hle, hstring⟩ := length_readString hread
    refine ⟨?_, by omega⟩
    cases read with
    | none => trivial
    | some t => exact Nat.lt_of_lt_of_le (hstring t rfl) (by omega)
  case h_5 rest heq =>
    obtain ⟨read, hread, rfl⟩ := exists_of_map_read h
    rw [heq, List.length_cons] at hskip
    have hle := length_readUnsigned hread
    exact ⟨trivial, by omega⟩
  case h_6 rest heq =>
    rw [heq, List.length_cons] at hskip
    have hinner := length_skip rest
    split at h
    · next rest heq =>
      cases h
      rw [heq, List.length_cons] at hinner
      exact ⟨trivial, by omega⟩
    · obtain ⟨read, hread, rfl⟩ := exists_of_map_read h
      obtain ⟨hitems, hle⟩ := hshort.items (by omega) hread
      exact ⟨hitems, by omega⟩
  case h_7 rest heq =>
    rw [heq, List.length_cons] at hskip
    have hinner := length_skip rest
    split at h
    · next rest heq =>
      cases h
      rw [heq, List.length_cons] at hinner
      exact ⟨trivial, by omega⟩
    · obtain ⟨read, hread, rfl⟩ := exists_of_map_read h
      obtain ⟨hmembers, hle⟩ := hshort.members (by omega) hread
      exact ⟨hmembers, by omega⟩
  case h_8 =>
    obtain ⟨read, hread, rfl⟩ := exists_of_map_read h
    have hle := length_readUnsigned hread
    exact ⟨trivial, by omega⟩

end ReadsShort

/-- The strings of what is read are short, with any fuel. -/
theorem readsShort (bound fuel : Nat) : ReadsShort bound fuel := by
  induction fuel with
  | zero =>
    exact
      { value := fun _ h => by cases h
        items := fun _ h => by cases h
        members := fun _ h => by cases h }
  | succ fuel ih =>
    exact { value := ih.value_succ, items := ih.items_succ, members := ih.members_succ }

/-- **A string of a text has fewer characters than the text.** -/
theorem short_of_ofText? {s : String} {d : JsonDocument} (h : ofText? s = some d) :
    d.Short s.length := by
  rw [ofText?] at h
  split at h
  · next read behind hread =>
    split at h
    · cases h
      exact ((readsShort s.length _).value (Nat.le_of_eq String.length_toList) hread).1
    · cases h
  · cases h

end JsonDocument

namespace Json

/-- More layers than characters make no difference. -/
theorem ofLayers?_congr {k m : Nat} {s : String} (hk : s.length < k) (hm : s.length < m) :
    ofLayers? k s = ofLayers? m s := by
  induction k generalizing m s with
  | zero => exact absurd hk (Nat.not_lt_zero _)
  | succ k ih =>
    obtain ⟨m, rfl⟩ := Nat.exists_eq_add_one_of_ne_zero (Nat.ne_zero_of_lt hm)
    rw [ofLayers?, ofLayers?]
    cases hread : JsonDocument.ofText? s with
    | none => rfl
    | some d =>
      exact JsonDocument.toJsonWith_congr (fun t ht => ih (by omega) (by omega))
        (JsonDocument.short_of_ofText? hread)

/-- **The value of a text is the value of its document.** -/
theorem ofText?_eq (s : String) :
    ofText? s = (JsonDocument.ofText? s).bind (JsonDocument.toJson JsonDocument.nesting) := by
  rw [ofText?, ofLayers?]
  cases hread : JsonDocument.ofText? s with
  | none => rfl
  | some d =>
    exact JsonDocument.toJsonWith_congr (fun t ht => ofLayers?_congr ht (Nat.lt_succ_self _))
      (JsonDocument.short_of_ofText? hread)

end Json

end SqlBridge
