import Mathlib.Logic.ExistsUnique
import SqlBridge.Proofs.Query.Window

/-!
# Pages

The window of a query is what its limit and its offset select (`Query.window`), and it is what the
server reads behind the sort keys. Pages of one size are windows that follow each other without a
gap. The offset of a page is a product that is cut off at the greatest number of 64 bits, so all
pages behind the last one that fits start there: every row before that number is on exactly one page
(`Query.pages_partition`).
-/

namespace SqlBridge

namespace Window

variable {α : Type} {w : Window}

/-- The row of this number, counted from zero, is in the window. -/
def Holds (w : Window) (r : Nat) : Prop := w.skip ≤ r ∧ ∀ n ∈ w.count, r < w.skip + n

/-- The row at a place of the window is the one so far behind those that are skipped, as long as the
window lasts. -/
theorem getElem?_select (rows : List α) (i : Nat) :
    (w.select rows)[i]? = if ∀ n ∈ w.count, i < n then rows[w.skip + i]? else none := by
  obtain ⟨skip, count⟩ := w
  cases count with
  | none => simp [select]
  | some n => simp [select, List.getElem?_take]

/-- The rows that a window selects, with their numbers, are those that it holds. -/
theorem mem_select_zipIdx {rows : List α} {a : α} {r : Nat} :
    (a, r) ∈ w.select rows.zipIdx ↔ rows[r]? = some a ∧ w.Holds r := by
  have hentry : ∀ i, (w.select rows.zipIdx)[i]? = some (a, r) ↔
      (∀ n ∈ w.count, i < n) ∧ rows[r]? = some a ∧ r = w.skip + i := by
    intro i
    rw [getElem?_select, List.getElem?_zipIdx]
    split
    · next hcount =>
      rw [Option.map_eq_some_iff, and_iff_right hcount]
      simp only [Prod.mk.injEq]
      grind
    · next hcount => exact ⟨fun h => (nomatch h), fun h => absurd h.1 hcount⟩
  rw [List.mem_iff_getElem?]
  constructor
  · rintro ⟨i, hi⟩
    obtain ⟨hcount, ha, rfl⟩ := (hentry i).1 hi
    exact ⟨ha, by omega, fun n hn => Nat.add_lt_add_left (hcount n hn) _⟩
  · rintro ⟨ha, hle, hcount⟩
    refine ⟨r - w.skip, (hentry _).2 ⟨fun n hn => ?_, ha, by omega⟩⟩
    have hlt := hcount n hn
    omega

end Window

namespace Query

/-- The window that a query selects by its limit and its offset. -/
def window (q : Query) : Window where
  skip := q.offset.toNat
  count := match q.limit with
    | .rows n => some n.toNat
    | .all => none

/-- Behind the sort keys of a query with a limit, the server reads its window. -/
theorem exists_ofTokens?_eq_window {q : Query} {n : UInt64} (hlimit : q.limit = .rows n) :
    ∃ tail : String, q.render = q.front ++ tail ∧
      (Sql.tokens tail).bind Window.ofTokens? = some q.window := by
  obtain ⟨tail, hrender, -, htokens⟩ := q.exists_render_eq
  refine ⟨tail, hrender, ?_⟩
  rw [htokens, Option.bind_some, Window.ofTokens?_tokens, window, hlimit]

/-! ## Offsets -/

/-- The rows in front of a page are those of the pages in front of it, as far as they can be
counted. -/
theorem toNat_pageOffset (page perPage : UInt64) :
    (pageOffset page perPage).toNat =
      min ((page.toNat - 1) * perPage.toNat) (UInt64.size - 1) := by
  rw [pageOffset]
  apply UInt64.toNat_ofNat_of_lt'
  have hle := Nat.min_le_right ((page.toNat - 1) * perPage.toNat) (UInt64.size - 1)
  exact Nat.lt_of_le_of_lt hle (by decide)

/-- **A page starts no earlier than the pages before it.** -/
theorem pageOffset_mono {page page' : UInt64} (h : page ≤ page') (perPage : UInt64) :
    pageOffset page perPage ≤ pageOffset page' perPage := by
  rw [UInt64.le_iff_toNat_le, toNat_pageOffset, toNat_pageOffset]
  have hpages : page.toNat - 1 ≤ page'.toNat - 1 := Nat.sub_le_sub_right h 1
  have hrows := Nat.mul_le_mul_right perPage.toNat hpages
  omega

/-- A page is the window behind these rows, of the length of one page. -/
theorem window_paginate (q : Query) (page perPage : UInt64) :
    (q.paginate page perPage).window =
      ⟨min ((page.toNat - 1) * perPage.toNat) (UInt64.size - 1), some perPage.toNat⟩ := by
  rw [← toNat_pageOffset]
  rfl

/-! ## Rows -/

section

variable (q : Query) {perPage : UInt64} (hsize : 1 ≤ perPage) {r : Nat} (hr : r < UInt64.size - 1)
include hsize hr

/-- A row before the greatest offset is on the page that division tells: a page whose offset was cut
off lies behind it. -/
theorem holds_paginate_iff {page : UInt64} (hpage : 1 ≤ page) :
    (q.paginate page perPage).window.Holds r ↔ page.toNat = r / perPage.toNat + 1 := by
  have hpage' : 1 ≤ page.toNat := hpage
  have hsize' : 0 < perPage.toNat := hsize
  have hdiv : page.toNat - 1 = r / perPage.toNat ↔
      (page.toNat - 1) * perPage.toNat ≤ r ∧
        r < (page.toNat - 1) * perPage.toNat + perPage.toNat := by
    rw [eq_comm, Nat.div_eq_iff hsize']
    omega
  have hnumber : page.toNat = r / perPage.toNat + 1 ↔ page.toNat - 1 = r / perPage.toNat := by
    omega
  rw [window_paginate, hnumber, hdiv, Window.Holds]
  simp only [Option.mem_some_iff, forall_eq']
  omega

/-- Every row is on exactly one page. -/
theorem existsUnique_holds_paginate :
    ∃! p : UInt64, 1 ≤ p ∧ (q.paginate p perPage).window.Holds r := by
  have hlast : r / perPage.toNat + 1 < UInt64.size := by
    have hle := Nat.div_le_self r perPage.toNat
    omega
  have hnumber := UInt64.toNat_ofNat_of_lt' hlast
  have hfirst : 1 ≤ UInt64.ofNat (r / perPage.toNat + 1) := by
    rw [UInt64.le_iff_toNat_le, hnumber]
    exact Nat.succ_le_succ (Nat.zero_le _)
  refine ⟨.ofNat (r / perPage.toNat + 1), ⟨hfirst, ?_⟩, fun p hp => ?_⟩
  · exact (q.holds_paginate_iff hsize hr hfirst).2 hnumber
  · rw [← UInt64.toNat_inj, hnumber]
    exact (q.holds_paginate_iff hsize hr hp.1).1 hp.2

/-- **Each row of a result stands on one page.** -/
theorem existsUnique_mem_paginate {α : Type} {rows : List α} {a : α} (ha : rows[r]? = some a) :
    ∃! p : UInt64, 1 ≤ p ∧ (a, r) ∈ (q.paginate p perPage).window.select rows.zipIdx := by
  simp only [Window.mem_select_zipIdx, ha, true_and]
  exact q.existsUnique_holds_paginate hsize hr

end

/-- **Pages divide the rows of a result among them.** Of whatever size they are, every row before
the greatest offset is on exactly one page, counted from one, and page zero is page one. A page
skips the pages before it, up to the greatest offset and never beyond it, so pages follow each other
in the order of their numbers. What the server reads behind the sort keys is the window of the
page. -/
theorem pages_partition (q : Query) {perPage : UInt64} (hsize : 1 ≤ perPage) :
    let page (p : UInt64) := q.paginate p perPage
    (∀ r < UInt64.size - 1, ∃! p : UInt64, 1 ≤ p ∧ (page p).window.Holds r) ∧
      page 0 = page 1 ∧
      (∀ p, (page p).limit = .rows perPage ∧
        (page p).offset.toNat = min ((p.toNat - 1) * perPage.toNat) (UInt64.size - 1)) ∧
      (∀ p p', p ≤ p' → (page p).offset ≤ (page p').offset) ∧
      ∀ p, ∃ tail : String, (page p).render = (page p).front ++ tail ∧
        (Sql.tokens tail).bind Window.ofTokens? = some (page p).window := by
  intro page
  have hzero : pageOffset 0 perPage = pageOffset 1 perPage := by
    rw [← UInt64.toNat_inj, toNat_pageOffset, toNat_pageOffset]
    rfl
  refine ⟨fun r hr => q.existsUnique_holds_paginate hsize hr, ?_,
    fun p => ⟨rfl, toNat_pageOffset p perPage⟩, fun p p' hp => pageOffset_mono hp perPage,
    fun p => exists_ofTokens?_eq_window rfl⟩
  simp only [page, paginate, hzero]

/-- The last row before the greatest offset, on pages of three rows. -/
theorem pages_partition_last :
    let page (p : UInt64) := (ofTable "logs").paginate p 3
    (page 6148914691236517205).window.Holds 18446744073709551614 ∧
      ∀ p, 1 ≤ p ∧ (page p).window.Holds 18446744073709551614 → p = 6148914691236517205 := by
  intro page
  obtain ⟨hunique, -⟩ := @pages_partition (ofTable "logs") 3 (by decide)
  have hlast : (page 6148914691236517205).window.Holds 18446744073709551614 := by
    refine ⟨by decide, fun n hn => ?_⟩
    rw [← Option.mem_some_iff.1 hn]
    decide
  obtain ⟨p, -, honly⟩ := hunique 18446744073709551614 (by decide)
  exact ⟨hlast, fun p' hp' => (honly p' hp').trans (honly _ ⟨by decide, hlast⟩).symm⟩

/-- The greatest offset itself belongs to many pages. -/
example : pageOffset 0x8000000000000001 2 = pageOffset 0xffffffffffffffff 2 := by decide

end Query

end SqlBridge
