import SqlBridge.Proofs.Sql.Collapse
import SqlBridge.Proofs.Sql.Items

/-!
# The words of a text

The words of a text are the longest runs of its items without a blank (`words`), so a blank between
quotes is part of a word. The main statement is `collapse_eq_words`: the collapsed text is the words
with single spaces between them; it has the same words and the same quotations as the text, and so
collapsing it again changes nothing.

* `runs_unwords`: words that are put together with spaces between them are found again;
* `IsCut.unwords_runs`: they are also cut into the same items as before;
* `IsCut.collapse` follows the scan through the items, from its start and behind a character.
-/

namespace SqlBridge.Sql

/-! ## Words -/

/-- The runs between blanks, each of one item or more. -/
def runs (l : List Item) : List (List Item) := (l.splitOnP Item.isBlank).filter (· ≠ [])

/-- The words of a text, item by item. -/
def itemWords (s : List Char) : List (List Item) := runs (items s)

/-- The words of a text: the longest parts without a blank outside of quotes. -/
def words (s : String) : List String :=
  (itemWords s.toList).map fun w => String.ofList (textOf w)

/-- What stands between quotes in a text, with the quotes, in the order of the text. -/
def quotations (s : String) : List String :=
  ((items s.toList).filter Item.isQuoted).map fun i => String.ofList i.chars

example : words " a'b  c'\t \"d " = ["a'b  c'", "\"d "] := by decide +kernel

/-- Items as a word of its own, with a space in front if there is something in front. -/
def spacedItems (l : List Item) : List Item := if l = [] then [] else .blank ' ' :: l

/-- Words with single spaces between them. -/
def unwords (ws : List (List Item)) : List Item := [Item.blank ' '].intercalate ws

section

variable {α : Type} {p : α → Bool} {l : List α}

/-- What is left between separators holds none. -/
theorem not_of_mem_splitOnP {w : List α} (hw : w ∈ l.splitOnP p) : ∀ x ∈ w, p x = false := by
  induction l generalizing w with
  | nil =>
    obtain rfl := List.mem_singleton.1 hw
    simp
  | cons x l ih =>
    obtain ⟨r, rs, hr⟩ := List.exists_cons_of_ne_nil (List.splitOnP_ne_nil p l)
    rw [List.splitOnP_cons_eq_if_modifyHead, hr, List.modifyHead_cons] at hw
    rw [hr] at ih
    split at hw
    · rcases List.mem_cons.1 hw with rfl | hw
      · simp
      · exact ih hw
    · next hx =>
      rcases List.mem_cons.1 hw with rfl | hw
      · intro y hy
        rcases List.mem_cons.1 hy with rfl | hy
        · simpa using hx
        · exact ih List.mem_cons_self y hy
      · exact ih (List.mem_cons_of_mem _ hw)

/-- Nothing but the separators is lost. -/
theorem flatten_splitOnP (p : α → Bool) (l : List α) :
    (l.splitOnP p).flatten = l.filter fun x => !p x := by
  induction l with
  | nil => rfl
  | cons x l ih =>
    obtain ⟨r, rs, hr⟩ := List.exists_cons_of_ne_nil (List.splitOnP_ne_nil p l)
    rw [List.splitOnP_cons_eq_if_modifyHead, List.filter_cons]
    rw [hr] at ih ⊢
    cases hx : p x <;> simp [← ih]

/-- What has separators between its parts is split into them. -/
theorem splitOnP_intercalate {sep : α} (hsep : p sep = true) {ws : List (List α)} (hne : ws ≠ [])
    (hws : ∀ w ∈ ws, ∀ x ∈ w, p x = false) : ([sep].intercalate ws).splitOnP p = ws := by
  induction ws with
  | nil => exact absurd rfl hne
  | cons w ws ih =>
    obtain ⟨hw, hws⟩ := List.forall_mem_cons.1 hws
    cases ws with
    | nil => simpa using List.splitOnP_eq_singleton hw
    | cons v ws =>
      rw [List.intercalate_cons_cons, List.append_assoc, List.singleton_append,
        List.splitOnP_append_cons_of_forall_mem hw sep hsep, ih (by simp) hws]

end

/-- A run is not empty and holds no blank. -/
theorem runs_spec {l w : List Item} (hw : w ∈ runs l) : w ≠ [] ∧ ∀ i ∈ w, i.isBlank = false := by
  obtain ⟨hmem, hne⟩ := List.mem_filter.1 hw
  exact ⟨by simpa using hne, not_of_mem_splitOnP hmem⟩

/-- The runs of words with spaces between them are the words. -/
theorem runs_unwords {ws : List (List Item)} (hws : ∀ w ∈ ws, w ≠ [] ∧ ∀ i ∈ w, i.isBlank = false) :
    runs (unwords ws) = ws := by
  cases ws with
  | nil => rfl
  | cons w ws =>
    rw [runs, unwords, splitOnP_intercalate rfl (by simp) fun w hw => (hws w hw).2]
    exact List.filter_eq_self.2 fun w hw => by simpa using (hws w hw).1

/-- The quoted items are those of the words. -/
theorem filter_isQuoted (l : List Item) :
    l.filter Item.isQuoted = (runs l).flatten.filter Item.isQuoted := by
  have hdark (i : Item) : (i.isQuoted && !i.isBlank) = i.isQuoted := by cases i <;> rfl
  have hflatten (ws : List (List Item)) : (ws.filter (· ≠ [])).flatten = ws.flatten := by
    induction ws with
    | nil => rfl
    | cons w ws ih => by_cases hw : w = [] <;> simp_all
  rw [runs, hflatten, flatten_splitOnP, List.filter_filter]
  simp only [hdark]

/-! ## Words with spaces between them -/

/-- What is left of items that stand behind another one: they go on with its word up to the first
blank, and the words behind it follow with spaces. -/
def continued : List Item → List Item
  | [] => []
  | .blank _ :: l => spacedItems (unwords (runs l))
  | i :: l => i :: continued l

/-- A blank in front begins no run. -/
theorem runs_blank (c : Char) (l : List Item) : runs (.blank c :: l) = runs l := by
  rw [runs, List.splitOnP_cons_eq_if_modifyHead]
  rfl

/-- An item that is no blank goes on with the word. -/
theorem continued_dark {i : Item} (hi : i.isBlank = false) (l : List Item) :
    continued (i :: l) = i :: continued l := by
  cases i with
  | blank c => cases hi
  | plain | quoted | unclosed => rfl

/-- The first word is followed by the others, with a space if there are any. -/
theorem unwords_cons (w : List Item) {ws : List (List Item)} (hws : ∀ v ∈ ws, v ≠ []) :
    unwords (w :: ws) = w ++ spacedItems (unwords ws) :=
  intercalate_cons_ite (Item.blank ' ') w hws

/-- What is left of items that go on with a word is its rest and the words behind the first
blank. -/
theorem continued_eq {l r : List Item} {rs : List (List Item)}
    (h : l.splitOnP Item.isBlank = r :: rs) :
    continued l = r ++ spacedItems (unwords (rs.filter (· ≠ []))) := by
  induction l generalizing r with
  | nil =>
    cases h
    rfl
  | cons i l ih =>
    obtain ⟨r', rs', hr⟩ := List.exists_cons_of_ne_nil (List.splitOnP_ne_nil Item.isBlank l)
    rw [List.splitOnP_cons_eq_if_modifyHead] at h
    cases hi : i.isBlank with
    | true =>
      obtain ⟨c, rfl⟩ : ∃ c, i = .blank c := by cases i <;> simp_all [Item.isBlank]
      rw [hi, if_pos rfl] at h
      obtain ⟨rfl, rfl⟩ := List.cons.inj h
      rfl
    | false =>
      rw [hi, if_neg Bool.false_ne_true, hr, List.modifyHead_cons] at h
      obtain ⟨rfl, rfl⟩ := List.cons.inj h
      rw [continued_dark hi, ih hr]
      rfl

/-- An item that is no blank begins a word. -/
theorem unwords_runs_dark {i : Item} (hi : i.isBlank = false) (l : List Item) :
    unwords (runs (i :: l)) = i :: continued l := by
  obtain ⟨r, rs, hr⟩ := List.exists_cons_of_ne_nil (List.splitOnP_ne_nil Item.isBlank l)
  rw [runs, List.splitOnP_cons_eq_if_modifyHead, hi, if_neg Bool.false_ne_true, hr,
    List.modifyHead_cons, List.filter_cons_of_pos (by simp), unwords_cons _ (by simp),
    continued_eq hr]
  rfl

/-- **Words with spaces between them are cut as they were written.** -/
theorem IsCut.unwords_runs {l : List Item} (hl : IsCut l) :
    IsCut (unwords (runs l)) ∧ IsCut (continued l) := by
  induction hl with
  | nil => exact ⟨.nil, .nil⟩
  | @blank c l hc hl ih =>
    rw [runs_blank, continued, spacedItems]
    refine ⟨ih.1, ?_⟩
    split
    · exact .nil
    · exact .blank (by decide) ih.1
  | plain hc hq _ ih =>
    rw [unwords_runs_dark rfl, continued_dark rfl]
    exact ⟨.plain hc hq ih.2, .plain hc hq ih.2⟩
  | quoted hbody _ ih =>
    rw [unwords_runs_dark rfl, continued_dark rfl]
    exact ⟨.quoted hbody ih.2, .quoted hbody ih.2⟩
  | unclosed hbody => exact ⟨.unclosed hbody, .unclosed hbody⟩

/-! ## The scan -/

/-- What stands between quotes is copied, and the scan is still between them. -/
theorem Between.collapseFrom {q : QuoteMark} {s : List Char} (hs : Between q s) :
    Sql.collapseFrom (.quoted q) s = s ∧ (Scan.quoted q).after s = .quoted q := by
  induction hs with
  | nil => exact ⟨rfl, rfl⟩
  | plain hc hb _ ih => simp [Scan.emit, Scan.next, hc, hb, ih]
  | escape hq c _ ih => simp [Scan.emit, Scan.next, hq, ih]

/-- A quote that is not closed is written with everything behind it. -/
theorem Unclosed.collapseFrom {q : QuoteMark} {s : List Char} (hs : Unclosed q s) :
    Sql.collapseFrom (.quoted q) s = s := by
  rcases hs with hs | ⟨-, t, ht, rfl⟩
  · exact hs.collapseFrom.1
  · rw [collapseFrom_append, ht.collapseFrom.1, ht.collapseFrom.2]
    rfl

/-- A text that starts dark is written at the start as it is behind a character. -/
theorem StartsDark.collapseChars_eq {s : List Char} (hs : StartsDark s) :
    collapseChars s = collapseFrom .word s := by
  obtain ⟨c, r, rfl, hc⟩ := hs
  simp [collapseChars, Scan.emit, Scan.next, hc]

/-- Only of no items the text is empty. -/
theorem textOf_eq_nil_iff {l : List Item} : textOf l = [] ↔ l = [] := by
  cases l with
  | nil => simp
  | cons i l => cases i <;> simp [Item.chars]

/-- The text of items as a word of its own is their text with a space in front, if there is any. -/
theorem textOf_spacedItems (l : List Item) : textOf (spacedItems l) = spaced (textOf l) := by
  rw [spacedItems, spaced]
  by_cases hl : l = []
  · simp [hl]
  · rw [if_neg hl, if_neg (mt textOf_eq_nil_iff.1 hl), textOf_cons]
    rfl

/-- **The scan writes the words**, with single spaces between them. -/
theorem IsCut.collapse {l : List Item} (hl : IsCut l) :
    collapseChars (textOf l) = textOf (unwords (runs l)) ∧
      collapseFrom .word (textOf l) = textOf (continued l) := by
  -- an item that is copied behind a character, and that begins the text with it
  have hdark {i : Item} {l : List Item} (hblank : i.isBlank = false) (hi : StartsDark i.chars)
      (hcopy : Copies i.chars) (ih : collapseFrom .word (textOf l) = textOf (continued l)) :
      collapseChars (textOf (i :: l)) = textOf (unwords (runs (i :: l))) ∧
        collapseFrom .word (textOf (i :: l)) = textOf (continued (i :: l)) := by
    have hword : collapseFrom .word (textOf (i :: l)) = textOf (i :: continued l) := by
      rw [textOf_cons, textOf_cons, collapseFrom_append, hcopy.collapse, hcopy.after, ih]
    rw [unwords_runs_dark hblank, continued_dark hblank, ← hword]
    exact ⟨(textOf_cons i l ▸ hi.append _).collapseChars_eq, rfl⟩
  induction hl with
  | nil => exact ⟨rfl, rfl⟩
  | @blank c l hc _ ih =>
    have hgap : collapseFrom .word (c :: textOf l) = collapseFrom .gap (textOf l) := by
      simp [Scan.emit, Scan.next, hc]
    rw [runs_blank, continued, textOf_spacedItems, ← ih.1, textOf_cons, Item.chars,
      List.singleton_append, hgap, collapseFrom_gap]
    simp [collapseChars, Scan.emit, Scan.next, hc]
  | @plain c l hc hq _ ih =>
    exact hdark rfl ⟨c, [], rfl, hc⟩ (Copies.nil.cons hc hq) ih.2
  | @quoted q body l hbody _ ih =>
    exact hdark rfl ⟨q.char, _, rfl, q.isBlank_char⟩
      (Copies.quoted hbody.collapseFrom.1 hbody.collapseFrom.2) ih.2
  | @unclosed q body hbody =>
    have hopen : Scan.afterPlain q.char = .quoted q := by
      rw [Scan.afterPlain, QuoteMark.ofChar?_char]
    have hword : collapseFrom .word (q.char :: body) = q.char :: body := by
      simp [Scan.emit, Scan.next, q.isBlank_char, hopen, hbody.collapseFrom]
    have hstart : collapseChars (q.char :: body) = q.char :: body :=
      (StartsDark.collapseChars_eq ⟨q.char, body, rfl, q.isBlank_char⟩).trans hword
    have htext : textOf [.unclosed q body] = q.char :: body := by simp [Item.chars]
    rw [unwords_runs_dark rfl, continued_dark rfl, continued, htext]
    exact ⟨hstart, hword⟩

/-- What is left of a text is its words with spaces between them. -/
theorem collapseChars_eq (s : List Char) : collapseChars s = textOf (unwords (itemWords s)) := by
  obtain ⟨hcut, htext⟩ := isCut_items s
  rw [itemWords, ← hcut.collapse.1, htext]

/-- The collapsed text has the same words. -/
theorem itemWords_collapseChars (s : List Char) : itemWords (collapseChars s) = itemWords s := by
  obtain ⟨hcut, -⟩ := isCut_items s
  have hitems : items (collapseChars s) = unwords (itemWords s) :=
    items_eq_iff.2 ⟨hcut.unwords_runs.1, (collapseChars_eq s).symm⟩
  calc itemWords (collapseChars s) = runs (unwords (itemWords s)) := by rw [itemWords, hitems]
    _ = itemWords s := runs_unwords fun w hw => runs_spec hw

/-- The text of words is the texts of the words with single spaces between them. -/
theorem textOf_unwords (ws : List (List Item)) :
    textOf (unwords ws) = [' '].intercalate (ws.map textOf) := by
  induction ws with
  | nil => rfl
  | cons w ws ih =>
    cases ws with
    | nil => simp [unwords]
    | cons v ws =>
      have hsplit : unwords (w :: v :: ws) = w ++ .blank ' ' :: unwords (v :: ws) := by
        simp [unwords]
      rw [hsplit, textOf_append, textOf_cons, ih]
      simp [Item.chars]

/-- A quotation stands in the text. -/
theorem isInfix_of_mem_quotations {s t : String} (ht : t ∈ quotations s) :
    t.toList <:+: s.toList := by
  obtain ⟨i, hi, rfl⟩ := List.mem_map.1 ht
  obtain ⟨before, behind, hsplit⟩ := List.append_of_mem (List.mem_filter.1 hi).1
  have htext := (isCut_items s.toList).2
  rw [hsplit, textOf_append, textOf_cons] at htext
  rw [String.toList_ofList, ← htext, ← List.append_assoc]
  exact List.infix_append _ _ _

/-- A collapsed text is its words with single spaces between them. -/
theorem collapse_eq_intercalate (s : String) : collapse s = " ".intercalate (words s) := by
  rw [← String.toList_inj, toList_collapse, collapseChars_eq, textOf_unwords,
    String.toList_intercalate, words]
  simp [Function.comp_def]

/-- Collapsing keeps the words of a text. -/
theorem words_collapse (s : String) : words (collapse s) = words s := by
  rw [words, toList_collapse, itemWords_collapseChars, words]

/-- Collapsing keeps what stands between quotes, byte for byte and in order. -/
theorem quotations_collapse (s : String) : quotations (collapse s) = quotations s := by
  have hwords : runs (items (collapseChars s.toList)) = runs (items s.toList) :=
    itemWords_collapseChars s.toList
  rw [quotations, toList_collapse, filter_isQuoted, hwords, ← filter_isQuoted, quotations]

/-- **A collapsed text is its words with single spaces between them**, whatever the text is. It has
the same words, so collapsing it again changes nothing, and every quotation of the text stands in it
as it was. -/
theorem collapse_eq_words (s : String) :
    collapse s = " ".intercalate (words s) ∧ words (collapse s) = words s ∧
      collapse (collapse s) = collapse s ∧ quotations (collapse s) = quotations s ∧
      ∀ t ∈ quotations s, t.toList <:+: (collapse s).toList := by
  refine ⟨collapse_eq_intercalate s, words_collapse s, ?_, quotations_collapse s, fun t ht => ?_⟩
  · rw [collapse_eq_intercalate (collapse s), words_collapse, ← collapse_eq_intercalate]
  · exact isInfix_of_mem_quotations (by rwa [quotations_collapse])

/-- A quote opened behind a blank, a backslash between backticks, and a text that is not closed and
ends with a backslash. -/
theorem collapse_eq_words_unclosed :
    let s := " a  \t 'it\\'s  '\n \x60b\\\x60  \"c   \\"
    words s = ["a", "'it\\'s  '", "\x60b\\\x60", "\"c   \\"] ∧
      collapse s = "a 'it\\'s  ' \x60b\\\x60 \"c   \\" ∧ collapse (collapse s) = collapse s ∧
      "\"c   \\".toList <:+: (collapse s).toList := by
  intro s
  obtain ⟨hcollapse, -, hagain, -, hkept⟩ := collapse_eq_words s
  have hwords : words s = ["a", "'it\\'s  '", "\x60b\\\x60", "\"c   \\"] := by decide +kernel
  refine ⟨hwords, ?_, hagain, hkept _ (by decide +kernel)⟩
  rw [hcollapse, hwords]
  decide +kernel

end SqlBridge.Sql
