import SqlBridge.Proofs.Session.Failure
import SqlBridge.Proofs.Table.ByName
import SqlBridge.Session.Migration

/-!
# The versions that are listed

The applied versions are the texts in the column `version` of the answer. A cell that is null or
holds bytes has no text, and what has no text is left out of the list without an error: the versions
are those of the rows that have one (`RowSet.hasVersion`), in their order (`RowSet.lists_iff`).

So the list has one version for each row exactly when every row has one
(`Executor.appliedVersions_eq_ok_iff`). Rows of the table that `Ddl.createVersionsTable` creates do,
since its column holds texts only; but where a table was there before, it may hold bytes, and a
version that was applied is missing from the list (`Executor.not_one_version_each`).
-/

namespace SqlBridge

open Table

/-- What belongs to the entries that meet a condition, in their order. -/
theorem forall₂_filter_iff {α β : Type} {p : α → Bool} {g : α → Option β}
    (hg : ∀ a, p a = true → ∃ b, g a = some b) (l : List α) (listed : List β) :
    List.Forall₂ (fun a b => g a = some b) (l.filter p) listed ↔
      listed = l.filterMap fun a => if p a then g a else none := by
  induction l generalizing listed with
  | nil => rw [List.filter_nil, List.forall₂_nil_left_iff, List.filterMap_nil]
  | cons a rest ih =>
    cases hp : p a with
    | false =>
      rw [List.filter_cons_of_neg (by simp [hp]), List.filterMap_cons_none (by simp [hp])]
      exact ih listed
    | true =>
      obtain ⟨b, hb⟩ := hg a hp
      rw [List.filter_cons_of_pos hp, List.filterMap_cons_some (by rw [if_pos hp, hb]),
        List.forall₂_cons_left_iff]
      constructor
      · rintro ⟨b', listed', hb', hrest, rfl⟩
        rw [(ih listed').1 hrest, Option.some.inj (hb.symm.trans hb')]
      · rintro rfl
        exact ⟨b, _, hb, (ih _).2 rfl, rfl⟩

namespace RowSet

/-- The cell of a row under the first column of a name. -/
def cell? (r : RowSet) (name : String) (row : List Value) : Option Value :=
  (r.columns.idxOf? name).map fun j => row.getD j .null

/-- The row has a version: the cell of that name is neither null nor bytes. -/
def hasVersion (r : RowSet) (row : List Value) : Bool :=
  match r.cell? "version" row with
  | none => false
  | some .null => false
  | some (.bytes _) => false
  | some _ => true

/-- Each of these rows has its version in the list, in the order of the rows. -/
def Lists (r : RowSet) (rows : List (List Value)) (versions : List String) : Prop :=
  List.Forall₂ (fun row s => (r.cell? "version" row).map Value.display = some s) rows versions

variable (r : RowSet)

/-- The versions of a table that was made of rows are the texts of the rows' cells. -/
theorem versionsOf_ofRowSet :
    Executor.versionsOf (ofRowSet r) =
      r.rows.filterMap fun row => (r.cell? "version" row).bind Value.toText? := by
  rw [Executor.versionsOf]
  cases hplace : r.columns.idxOf? "version" with
  | none =>
    have hname := List.idxOf?_eq_none_iff.1 hplace
    rw [← columnNames_ofRowSet r] at hname
    rw [column?_eq_none hname]
    simp [cell?, hplace]
  | some j =>
    obtain ⟨hj, hget, hbefore⟩ := List.idxOf?_eq_some_iff.1 hplace
    have hfirst : IsFirst (ofRowSet r).columnNames "version" j := by
      rw [columnNames_ofRowSet r]
      refine ⟨List.getElem?_eq_some_iff.2 ⟨hj, by simpa using hget⟩, fun i hi hget => ?_⟩
      have hne := hbefore i hi
      rw [(List.getElem?_eq_some_iff.1 hget).2] at hne
      simp at hne
    rw [column?_of_isFirst hfirst, getElem?_columns_ofRowSet, List.getElem?_eq_getElem hj]
    simp [cell?, hplace, List.filterMap_map]

/-- The text of a row's cell is its version, when the row has one. -/
theorem toText?_cell? (row : List Value) :
    (r.cell? "version" row).bind Value.toText? =
      if r.hasVersion row then (r.cell? "version" row).map Value.display else none := by
  rw [hasVersion]
  cases r.cell? "version" row with
  | none => rfl
  | some v => cases v <;> rfl

/-- A row that has a version has a text for it. -/
theorem hasVersion_display {row : List Value} (h : r.hasVersion row = true) :
    ∃ s, (r.cell? "version" row).map Value.display = some s := by
  rw [hasVersion] at h
  cases hcell : r.cell? "version" row with
  | none => simp [hcell] at h
  | some v => exact ⟨v.display, rfl⟩

/-- **The versions of a table** that was made of rows are those of the rows that have one. -/
theorem lists_iff (versions : List String) :
    r.Lists (r.rows.filter r.hasVersion) versions ↔
      versions = Executor.versionsOf (ofRowSet r) := by
  rw [Lists, forall₂_filter_iff (fun row => r.hasVersion_display), versionsOf_ofRowSet]
  simp only [toText?_cell?]

/-- There is a version for each row when every row has one. -/
theorem Lists.each_iff {r : RowSet} {versions : List String}
    (h : r.Lists (r.rows.filter r.hasVersion) versions) :
    r.Lists r.rows versions ↔ ∀ row ∈ r.rows, r.hasVersion row = true := by
  constructor
  · intro heach
    have hlength := h.length_eq.trans heach.length_eq.symm
    exact List.length_filter_eq_length_iff.1 hlength
  · intro hall
    rwa [List.filter_eq_self.2 hall] at h

end RowSet

namespace Executor

variable {n : Nat}

/-- **The applied versions.** They are listed exactly when there is a current session and its answer
has rows, and then they are the versions of the rows that have one, in the order of the rows. A row
whose cell is null or holds bytes is left out without an error: there is one version for each row
exactly when every row has one. -/
theorem appliedVersions_eq_ok_iff (x : Executor n) (w : World n) (versions : List String) :
    (x.appliedVersions w).1 = .ok versions ↔
      ∃ h r, (w.manager x.manager).current = some h ∧ (w.server.answer 0).toRows = .ok r ∧
        r.Lists (r.rows.filter r.hasVersion) versions ∧
        (r.Lists r.rows versions ↔ ∀ row ∈ r.rows, r.hasVersion row = true) := by
  have hresult : (x.appliedVersions w).1 = versionsOf <$> (x.runOnce w Ddl.appliedVersions).1 := rfl
  rw [hresult]
  cases hcurrent : (w.manager x.manager).current with
  | none =>
    rw [runOnce_of_none hcurrent]
    simp
  | some h =>
    rw [(runOnce_spec hcurrent _).1]
    have hshape : Ddl.appliedVersions.kind.shape (w.server.answer 0) =
        ofRowSet <$> (w.server.answer 0).toRows := rfl
    rw [hshape]
    cases (w.server.answer 0).toRows with
    | error e => simp
    | ok r =>
      have hlisted : versionsOf <$> ofRowSet <$> (Except.ok r : Except Error RowSet) =
          .ok (versionsOf (ofRowSet r)) := rfl
      rw [hlisted, Except.ok.injEq, eq_comm, ← r.lists_iff]
      constructor
      · exact fun hlists => ⟨h, r, rfl, rfl, hlists, hlists.each_iff⟩
      · rintro ⟨-, r', -, hr, hlists, -⟩
        obtain rfl := Except.ok.inj hr
        exact hlists

/-- The column of the versions was made for bytes, and the second of three versions was written as
bytes. -/
def mixedVersions : RowSet :=
  ⟨["version"], [[.string "20240101000000"], [.bytes ("20240102000000".toUTF8.toList)],
    [.string "20240103000000"]]⟩

/-- A session whose table of versions answers with these rows. -/
def versionsKept : World 1 :=
  (World.fresh [⟨.rows mixedVersions, []⟩]).after [.connect World.solo World.someConfig]

/-- The version of bytes is missing from those that are listed, so that the rows are not listed as
they are. -/
theorem appliedVersions_eq_ok_iff_kept :
    let listed := (appliedVersions ⟨World.solo, false⟩ versionsKept).1
    listed = .ok ["20240101000000", "20240103000000"] ∧
      ¬mixedVersions.Lists mixedVersions.rows ["20240101000000", "20240103000000"] := by
  intro listed
  have hlisted : listed = .ok ["20240101000000", "20240103000000"] := by decide +kernel
  obtain ⟨h, r, -, hrows, -, heach⟩ := (appliedVersions_eq_ok_iff _ _ _).1 hlisted
  obtain rfl : mixedVersions = r := Except.ok.inj hrows
  refine ⟨hlisted, fun hlists => ?_⟩
  have hbytes := heach.1 hlists [.bytes "20240102000000".toUTF8.toList] (by simp [mixedVersions])
  cases hbytes

/-- **There is not one version for each row**: a row that holds its version as bytes is left out. -/
theorem not_one_version_each :
    ¬∀ (x : Executor 1) (w : World 1) (r : RowSet) (versions : List String),
      (w.server.answer 0).toRows = .ok r → (x.appliedVersions w).1 = .ok versions →
        versions.length = r.rows.length := by
  intro h
  have hlength := h ⟨World.solo, false⟩ versionsKept mixedVersions
    ["20240101000000", "20240103000000"] rfl (by decide +kernel)
  cases hlength

end Executor

end SqlBridge
