import Mathlib.Data.List.Infix
import Mathlib.Logic.ExistsUnique
import SqlBridge.Schema.Ddl

/-!
# Names of indexes

An index that was given no name is named for its table and its columns, with `_and_` between the
columns. A removal that is given columns instead of a name drops the index of that name. Since a
column may itself have `_and_` in its name, several lists of columns can have one name, and then the
removal for one drops the index of another. Cutting the name at every `_and_`, from the left, gives
back just one of these lists (`cut`, `Separable`), so that lists which cutting gives back are told
apart by their names (`removes_added_iff`).
-/

namespace SqlBridge.Ddl

/-! ## Cutting a name at the joints -/

/-- What stands between two columns. -/
def joint : List Char := ['_', 'a', 'n', 'd', '_']

/-- The pieces between the joints, of which the leftmost is cut first. -/
def cut : List Char → List (List Char)
  | [] => [[]]
  | '_' :: 'a' :: 'n' :: 'd' :: '_' :: s => [] :: cut s
  | c :: s => (cut s).modifyHead (c :: ·)

/-- No piece holds a joint, and none before the last ends in `_and`, which would make one with the
underscore behind it. -/
structure Separable (pieces : List (List Char)) : Prop where
  whole : ∀ a ∈ pieces, ¬ joint <:+: a
  apart : ∀ a ∈ pieces.dropLast, ¬ ['_', 'a', 'n', 'd'] <:+ a

/-- A joint in front is cut off with nothing before it. -/
theorem cut_joint_append (s : List Char) : cut (joint ++ s) = [] :: cut s := by
  simp only [joint, List.cons_append, List.nil_append, cut]

/-- A character that begins no joint belongs to the first piece. -/
theorem cut_cons {c : Char} {s : List Char} (h : ¬ joint <+: c :: s) :
    cut (c :: s) = (cut s).modifyHead (c :: ·) := by
  rw [cut]
  rintro t rfl rfl
  exact h (List.prefix_append joint t)

/-- There is always a piece. -/
theorem cut_ne_nil (s : List Char) : cut s ≠ [] := by
  fun_induction cut s <;> simp_all

/-- Nothing is lost by cutting. -/
theorem intercalate_cut (s : List Char) : joint.intercalate (cut s) = s := by
  fun_induction cut s with
  | case1 => simp
  | case2 s ih =>
    obtain ⟨p, ps, hcut⟩ := List.exists_cons_of_ne_nil (cut_ne_nil s)
    rw [hcut] at ih ⊢
    rw [List.intercalate_cons_cons, ih]
    rfl
  | case3 c s hjoint ih =>
    obtain ⟨p, ps, hcut⟩ := List.exists_cons_of_ne_nil (cut_ne_nil s)
    rw [hcut] at ih ⊢
    rw [← ih]
    cases ps with
    | nil => simp
    | cons q qs => simp [List.intercalate_cons_cons]

/-- Where a joint stands behind a piece, a joint can begin with the piece only if the piece begins
with all of it, or is all of it but the last character. -/
theorem joint_prefix_append {c : Char} {a b : List Char}
    (h : joint <+: c :: (a ++ (joint ++ b))) :
    joint <+: c :: a ∨ ['_', 'a', 'n', 'd'] = c :: a := by
  simp only [joint] at h ⊢
  rcases a with _ | ⟨a₁, _ | ⟨a₂, _ | ⟨a₃, _ | ⟨a₄, a⟩⟩⟩⟩ <;> grind

/-- A text without a joint, not even with the underscore behind it, is cut off at the joint that
follows. -/
theorem cut_append {a : List Char} (hwhole : ¬ joint <:+: a) (hapart : ¬ ['_', 'a', 'n', 'd'] <:+ a)
    (b : List Char) : cut (a ++ (joint ++ b)) = a :: cut b := by
  induction a with
  | nil => exact cut_joint_append b
  | cons c a ih =>
    rw [List.infix_cons_iff, not_or] at hwhole
    rw [List.suffix_cons_iff, not_or] at hapart
    have hfront : ¬ joint <+: c :: (a ++ (joint ++ b)) := fun h =>
      (joint_prefix_append h).elim hwhole.1 hapart.1
    rw [List.cons_append, cut_cons hfront, ih hwhole.2 hapart.2, List.modifyHead_cons]

/-- A text without a joint is a single piece. -/
theorem cut_eq_singleton {a : List Char} (h : ¬ joint <:+: a) : cut a = [a] := by
  induction a with
  | nil => rfl
  | cons c a ih =>
    rw [List.infix_cons_iff, not_or] at h
    rw [cut_cons h.1, ih h.2, List.modifyHead_cons]

/-- **Cutting gives back the pieces that were joined**, if these are separable. -/
theorem cut_intercalate {l : List (List Char)} (hne : l ≠ []) (h : Separable l) :
    cut (joint.intercalate l) = l := by
  induction l with
  | nil => exact absurd rfl hne
  | cons a l ih =>
    obtain ⟨hwhole, hrest⟩ := List.forall_mem_cons.1 h.whole
    cases l with
    | nil => simpa using cut_eq_singleton hwhole
    | cons b l =>
      obtain ⟨hapart, hrest'⟩ := List.forall_mem_cons.1 h.apart
      rw [List.intercalate_cons_cons, List.append_assoc, cut_append hwhole hapart,
        ih (by simp) ⟨hrest, hrest'⟩]

/-- The pieces that a text is cut into cannot be cut again, nor elsewhere. -/
theorem separable_cut (s : List Char) : Separable (cut s) := by
  fun_induction cut s with
  | case1 => exact ⟨by simp [joint], by simp⟩
  | case2 s ih =>
    refine ⟨List.forall_mem_cons.2 ⟨by simp [joint], ih.whole⟩, ?_⟩
    rw [List.dropLast_cons_of_ne_nil (cut_ne_nil s)]
    exact List.forall_mem_cons.2 ⟨by simp, ih.apart⟩
  | case3 c s hjoint ih =>
    have hfront : ¬ joint <+: c :: s := by
      rintro ⟨t, ht⟩
      obtain ⟨rfl, rfl⟩ := List.cons.inj ht
      exact hjoint t rfl rfl
    obtain ⟨p, ps, hcut⟩ := List.exists_cons_of_ne_nil (cut_ne_nil s)
    have hs := intercalate_cut s
    rw [hcut] at ih hs ⊢
    obtain ⟨hwhole, hrest⟩ := List.forall_mem_cons.1 ih.whole
    have hp : p <+: s := by
      rw [← hs]
      cases ps <;> simp [List.intercalate_cons_cons]
    rw [List.modifyHead_cons]
    refine ⟨List.forall_mem_cons.2 ⟨?_, hrest⟩, ?_⟩
    · rw [List.infix_cons_iff, not_or]
      exact ⟨fun h => hfront (h.trans (List.cons_prefix_cons.2 ⟨rfl, hp⟩)), hwhole⟩
    · cases ps with
      | nil => simp
      | cons q qs =>
        obtain ⟨hapart, hrest'⟩ := List.forall_mem_cons.1 ih.apart
        refine List.forall_mem_cons.2 ⟨?_, hrest'⟩
        rw [List.suffix_cons_iff, not_or]
        refine ⟨fun h => hfront ?_, hapart⟩
        -- the piece and the joint behind it would begin with a joint
        rw [← hs, List.intercalate_cons_cons, List.append_assoc, ← List.cons_append, ← h]
        simp [joint]

/-! ## Indexes without a name -/

/-- The addition without a name adds an index of this name. -/
def Adds (table : String) (columns : List String) (unique : Bool) (name : String) : Prop :=
  ∃ s, addIndex table columns unique none = .ok s ∧
    addIndex table columns unique (some name) = .ok s

/-- The removal without a name removes the index of this name. -/
def Removes (table : String) (columns : List String) (name : String) : Prop :=
  ∃ s, removeIndex table columns none = .ok s ∧ removeIndex table columns (some name) = .ok s

variable {table : String} {columns c₁ c₂ : List String}

/-- An index without a name is added under the default name, unique or not. -/
theorem adds_iff (hne : columns ≠ []) {unique : Bool} {name : String} :
    Adds table columns unique name ↔ name = defaultIndexName table columns := by
  have hempty : columns.isEmpty = false := by simpa using hne
  simp [Adds, addIndex, hempty]

/-- An index without a name is removed under the default name. -/
theorem removes_iff (hne : columns ≠ []) {name : String} :
    Removes table columns name ↔ name = defaultIndexName table columns := by
  have hempty : columns.isEmpty = false := by simpa using hne
  simp [Removes, removeIndex, Dialect.dropIndex, hempty]

/-- Two default names of one table are the same exactly if the joined columns are. -/
theorem defaultIndexName_eq_iff : defaultIndexName table c₁ = defaultIndexName table c₂ ↔
    joint.intercalate (c₁.map String.toList) = joint.intercalate (c₂.map String.toList) := by
  have htext : ∀ columns : List String, ("_and_".intercalate columns).toList =
      joint.intercalate (columns.map String.toList) := fun columns => by
    rw [String.toList_intercalate]
    rfl
  rw [← htext, ← htext, String.toList_inj]
  simp [defaultIndexName]

/-- The columns that the joined ones are read as. -/
def reading (columns : List String) : List String :=
  (cut (joint.intercalate (columns.map String.toList))).map String.ofList

/-- The reading of columns is cut from their joined names. -/
theorem map_toList_reading (columns : List String) : (reading columns).map String.toList =
    cut (joint.intercalate (columns.map String.toList)) := by
  simp [reading, Function.comp_def]

/-- Columns and their reading have one default name. -/
theorem defaultIndexName_reading (table : String) (columns : List String) :
    defaultIndexName table (reading columns) = defaultIndexName table columns := by
  rw [defaultIndexName_eq_iff, map_toList_reading, intercalate_cut]

/-- Columns that can be told apart are read as themselves. -/
theorem reading_eq_self (hne : columns ≠ []) (h : Separable (columns.map String.toList)) :
    reading columns = columns := by
  refine List.map_injective_iff.2 (fun _ _ => String.toList_inj.1) ?_
  rw [map_toList_reading, cut_intercalate (by simpa using hne) h]

/-- Columns that cutting gives back are what the name of their index is read as. -/
theorem eq_reading (hne : c₁ ≠ []) (h : Separable (c₁.map String.toList))
    (hname : defaultIndexName table c₁ = defaultIndexName table c₂) : c₁ = reading c₂ := by
  rw [← reading_eq_self hne h, reading, reading, defaultIndexName_eq_iff.1 hname]

/-- A removal without a name meets an index that was added without one if both have one name. -/
theorem removes_added_iff_name_eq (unique : Bool) (h₁ : c₁ ≠ []) (h₂ : c₂ ≠ []) :
    (∃ name, Adds table c₁ unique name ∧ Removes table c₂ name) ↔
      defaultIndexName table c₁ = defaultIndexName table c₂ := by
  simp only [adds_iff h₁, removes_iff h₂, exists_eq_left]

/-- **Which removals meet which additions.** Without a name, an addition adds one index and a
removal removes one. These are the same exactly when the columns are the same once they are joined
by `_and_`. Of all lists of columns with one name, just one can be cut apart again; between lists of
this kind a removal meets the addition for the same columns and no other. -/
theorem removes_added_iff (table : String) (unique : Bool) {c₁ c₂ : List String} (h₁ : c₁ ≠ [])
    (h₂ : c₂ ≠ []) :
    (∃! name, Adds table c₁ unique name) ∧ (∃! name, Removes table c₂ name) ∧
    ((∃ name, Adds table c₁ unique name ∧ Removes table c₂ name) ↔
      "_and_".intercalate c₁ = "_and_".intercalate c₂) ∧
    (∃! c, c ≠ [] ∧ Separable (c.map String.toList) ∧
      defaultIndexName table c = defaultIndexName table c₁) ∧
    (Separable (c₁.map String.toList) → Separable (c₂.map String.toList) →
      ((∃ name, Adds table c₁ unique name ∧ Removes table c₂ name) ↔ c₁ = c₂) ∧
      (c₁ ≠ c₂ → defaultIndexName table c₁ ≠ defaultIndexName table c₂)) := by
  have hmeets := @removes_added_iff_name_eq table c₁ c₂ unique h₁ h₂
  refine ⟨?_, ?_, ?_, ?_, fun hs₁ hs₂ => ?_⟩
  · simp only [adds_iff h₁, existsUnique_eq]
  · simp only [removes_iff h₂, existsUnique_eq]
  · rw [hmeets]
    simp [defaultIndexName]
  · refine ⟨reading c₁, ⟨?_, ?_, defaultIndexName_reading table c₁⟩, fun c hc => ?_⟩
    · simpa [reading] using cut_ne_nil _
    · rw [map_toList_reading]
      exact separable_cut _
    · exact eq_reading hc.1 hc.2.1 hc.2.2
  · have hname : defaultIndexName table c₁ = defaultIndexName table c₂ ↔ c₁ = c₂ := by
      refine ⟨fun h => ?_, fun h => h ▸ rfl⟩
      rw [eq_reading h₁ hs₁ h, reading_eq_self h₂ hs₂]
    exact ⟨hmeets.trans hname, mt hname.1⟩

/-- A name may begin with the end of a joint, and the last one may end with the beginning of one. -/
theorem removes_added_iff_brands :
    Separable (["brand", "and_size"].map String.toList) ∧
    Separable (["brand", "size_and"].map String.toList) ∧
    (¬ ∃ name, Adds "shoes" ["brand", "and_size"] true name ∧
      Removes "shoes" ["brand", "size_and"] name) ∧
    ∃ name, Adds "shoes" ["brand", "and_size"] true name ∧
      Removes "shoes" ["brand", "and_size"] name := by
  have hs₁ : Separable (["brand", "and_size"].map String.toList) := ⟨by decide, by decide⟩
  have hs₂ : Separable (["brand", "size_and"].map String.toList) := ⟨by decide, by decide⟩
  obtain ⟨-, -, -, -, hdiffer⟩ := @removes_added_iff "shoes" true
    ["brand", "and_size"] ["brand", "size_and"] (by simp) (by simp)
  obtain ⟨-, -, -, -, hsame⟩ := @removes_added_iff "shoes" true
    ["brand", "and_size"] ["brand", "and_size"] (by simp) (by simp)
  exact ⟨hs₁, hs₂, fun h => by simpa using (hdiffer hs₁ hs₂).1.1 h, (hsame hs₁ hs₁).1.2 rfl⟩

/-- The removal for two columns drops the index of a single one in whose name they are joined. -/
theorem removes_other_columns :
    ¬ ((∃ name, Adds "t" ["a_and_b"] false name ∧ Removes "t" ["a", "b"] name) ↔
      ["a_and_b"] = ["a", "b"]) ∧
    defaultIndexName "t" ["a_and_b"] = defaultIndexName "t" ["a", "b"] := by
  have hname : defaultIndexName "t" ["a_and_b"] = defaultIndexName "t" ["a", "b"] := by decide
  have hmeets := (removes_added_iff_name_eq false (by simp) (by simp)).2 hname
  exact ⟨fun h => by simpa using h.1 hmeets, hname⟩

end SqlBridge.Ddl
