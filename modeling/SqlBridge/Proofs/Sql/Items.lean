import SqlBridge.Sql.Whitespace

/-!
# The items of a text

Outside of quotes a text consists of blanks and other characters. A quote takes everything up to the
next quote of its kind, and the rest of the text if there is none; between apostrophes and between
double quotes a backslash takes the next character with it.

`items` cuts a text so. `IsCut` says the same without an order of reading, and `items_eq_iff` that
there is no other way to cut a text by these rules.
-/

namespace SqlBridge.Sql

/-! ## Items -/

/-- A part of a text that is not divided further. -/
inductive Item where
  /-- A blank outside of quotes. -/
  | blank (c : Char)
  /-- Another character outside of quotes. -/
  | plain (c : Char)
  /-- What stands between two quotes, with the quotes. -/
  | quoted (q : QuoteMark) (body : List Char)
  /-- A quote that is not closed, with everything behind it. -/
  | unclosed (q : QuoteMark) (body : List Char)
  deriving DecidableEq, Repr

namespace Item

/-- The characters of an item. -/
def chars : Item → List Char
  | blank c => [c]
  | plain c => [c]
  | quoted q body => q.char :: (body ++ [q.char])
  | unclosed q body => q.char :: body

/-- The item is a blank outside of quotes. -/
def isBlank : Item → Bool
  | blank _ => true
  | _ => false

/-- The item begins with a quote. -/
def isQuoted : Item → Bool
  | quoted .. => true
  | unclosed .. => true
  | _ => false

end Item

/-- What stands behind a quote up to the quote that closes it, and what follows that one. Without
such a quote it is everything. -/
def cutQuoted (q : QuoteMark) : List Char → List Char × Option (List Char)
  | [] => ([], none)
  | c :: rest =>
    if c = '\\' ∧ q.hasEscapes then
      match rest with
      | [] => ([c], none)
      | d :: rest => (cutQuoted q rest).map (c :: d :: ·) id
    else if c = q.char then ([], some rest)
    else (cutQuoted q rest).map (c :: ·) id

/-- What stands between two quotes: no quote of that kind, unless behind a backslash that takes it
with it. -/
inductive Between (q : QuoteMark) : List Char → Prop
  | nil : Between q []
  | plain {c : Char} {s : List Char} (hc : c ≠ q.char) (hb : ¬(c = '\\' ∧ q.hasEscapes))
    (hs : Between q s) : Between q (c :: s)
  | escape {s : List Char} (hq : q.hasEscapes) (c : Char) (hs : Between q s) :
    Between q ('\\' :: c :: s)

/-- What stands behind a quote that is not closed: the text may end with the backslash that takes
nothing with it. -/
def Unclosed (q : QuoteMark) (s : List Char) : Prop :=
  Between q s ∨ q.hasEscapes ∧ ∃ t, Between q t ∧ s = t ++ ['\\']

section

variable {q : QuoteMark} {s : List Char}

/-- The quote itself leaves nothing before it. -/
theorem cutQuoted_close (q : QuoteMark) (s : List Char) :
    cutQuoted q (q.char :: s) = ([], some s) := by
  have hb : ¬(q.char = '\\' ∧ q.hasEscapes) := by cases q <;> decide
  rw [cutQuoted.eq_def]
  simp only
  rw [if_neg hb, if_pos trivial]

/-- What may stand between quotes is passed over. -/
theorem Between.cutQuoted_append {a : List Char} (ha : Between q a) (s : List Char) :
    cutQuoted q (a ++ s) = (cutQuoted q s).map (a ++ ·) id := by
  induction ha with
  | nil => rfl
  | plain hc hb _ ih =>
    rw [List.cons_append, cutQuoted.eq_def]
    simp only
    rw [if_neg hb, if_neg hc, ih]
    rfl
  | escape hq c _ ih =>
    rw [List.cons_append, List.cons_append, cutQuoted.eq_def]
    simp only
    rw [if_pos ⟨trivial, hq⟩, ih]
    rfl

/-- Behind a quote, either the text stands between quotes up to one that closes it, or no quote
closes it. -/
theorem exists_between (q : QuoteMark) (s : List Char) :
    (∃ body behind, Between q body ∧ s = body ++ q.char :: behind) ∨ Unclosed q s := by
  induction hn : s.length using Nat.strongRecOn generalizing s with
  | ind n ih =>
    subst hn
    match s with
    | [] => exact .inr (.inl .nil)
    | c :: rest =>
      by_cases hc : c = q.char
      · exact .inl ⟨[], rest, .nil, by rw [hc, List.nil_append]⟩
      by_cases hb : c = '\\' ∧ q.hasEscapes
      · obtain ⟨rfl, hq⟩ := hb
        match rest with
        | [] => exact .inr (.inr ⟨hq, [], .nil, rfl⟩)
        | d :: rest =>
          rcases ih rest.length (by simp only [List.length_cons]; omega) rest rfl with
            ⟨body, behind, hbody, rfl⟩ | hrest | ⟨-, t, ht, rfl⟩
          · exact .inl ⟨_, behind, .escape hq d hbody, rfl⟩
          · exact .inr (.inl (.escape hq d hrest))
          · exact .inr (.inr ⟨hq, _, .escape hq d ht, rfl⟩)
      · rcases ih rest.length (by simp) rest rfl with
          ⟨body, behind, hbody, rfl⟩ | hrest | ⟨hq, t, ht, rfl⟩
        · exact .inl ⟨_, behind, .plain hc hb hbody, rfl⟩
        · exact .inr (.inl (.plain hc hb hrest))
        · exact .inr (.inr ⟨hq, _, .plain hc hb ht, rfl⟩)

/-- What stands between two quotes is cut off at the second one. -/
theorem Between.cutQuoted_close {body : List Char} (hbody : Between q body) (behind : List Char) :
    cutQuoted q (body ++ q.char :: behind) = (body, some behind) := by
  rw [hbody.cutQuoted_append, Sql.cutQuoted_close]
  simp

/-- What stands behind a quote that is not closed is taken whole. -/
theorem Unclosed.cutQuoted_eq (hs : Unclosed q s) : cutQuoted q s = (s, none) := by
  rcases hs with hs | ⟨hq, t, ht, rfl⟩
  · have h := hs.cutQuoted_append []
    rw [List.append_nil] at h
    rw [h, cutQuoted]
    simp
  · have hlast : cutQuoted q ['\\'] = (['\\'], none) := by
      rw [cutQuoted.eq_def]
      simp only
      rw [if_pos ⟨trivial, hq⟩]
    rw [ht.cutQuoted_append, hlast]
    rfl

/-- What follows a closing quote is shorter than what was cut. -/
theorem length_cutQuoted {body behind : List Char} (h : cutQuoted q s = (body, some behind)) :
    behind.length < s.length := by
  rcases exists_between q s with ⟨body', behind', hbody, rfl⟩ | hs
  · rw [hbody.cutQuoted_close] at h
    cases h
    simp
    omega
  · rw [hs.cutQuoted_eq] at h
    cases h

end

/-- The items of a text. -/
def items : List Char → List Item
  | [] => []
  | c :: rest =>
    match QuoteMark.ofChar? c with
    | none => (if Text.isBlank c then .blank c else .plain c) :: items rest
    | some q =>
      match _hcut : cutQuoted q rest with
      | (body, none) => [.unclosed q body]
      | (body, some behind) => .quoted q body :: items behind
termination_by s => s.length
decreasing_by
  · simp
  · have := length_cutQuoted _hcut
    simp
    omega

example : items "a 'b\\' ' \"x".toList =
    [.plain 'a', .blank ' ', .quoted .apostrophe "b\\' ".toList, .blank ' ',
      .unclosed .double ['x']] := by decide +kernel

/-- The items are as they are cut from a text. -/
inductive IsCut : List Item → Prop
  | nil : IsCut []
  | blank {c : Char} {l : List Item} (hc : Text.isBlank c = true) (hl : IsCut l) :
    IsCut (.blank c :: l)
  | plain {c : Char} {l : List Item} (hc : Text.isBlank c = false)
    (hq : QuoteMark.ofChar? c = none) (hl : IsCut l) : IsCut (.plain c :: l)
  | quoted {q : QuoteMark} {body : List Char} {l : List Item} (hbody : Between q body)
    (hl : IsCut l) : IsCut (.quoted q body :: l)
  /-- Nothing stands behind a quote that is not closed. -/
  | unclosed {q : QuoteMark} {body : List Char} (hbody : Unclosed q body) :
    IsCut [.unclosed q body]

/-- The text of items. -/
def textOf (l : List Item) : List Char := l.flatMap Item.chars

@[simp] theorem textOf_nil : textOf [] = [] := rfl

@[simp] theorem textOf_cons (i : Item) (l : List Item) :
    textOf (i :: l) = i.chars ++ textOf l := by
  simp [textOf]

@[simp] theorem textOf_append (l m : List Item) : textOf (l ++ m) = textOf l ++ textOf m := by
  simp [textOf]

/-- The character of a mark is that mark. -/
theorem QuoteMark.ofChar?_char (q : QuoteMark) : ofChar? q.char = some q := by
  cases q <;> decide

/-- A character that is a mark is that mark's character. -/
theorem QuoteMark.char_of_ofChar? {c : Char} {q : QuoteMark} (h : ofChar? c = some q) :
    c = q.char := by
  grind [ofChar?, char]

/-- No quote is a blank. -/
theorem QuoteMark.isBlank_char (q : QuoteMark) : Text.isBlank q.char = false := by
  cases q <;> decide

/-- No blank is a quote. -/
theorem QuoteMark.ofChar?_of_isBlank {c : Char} (hc : Text.isBlank c = true) :
    ofChar? c = none := by
  rw [Option.eq_none_iff_forall_ne_some]
  intro q hq
  rw [char_of_ofChar? hq, isBlank_char] at hc
  cases hc

/-- A character that is no quote is an item of its own. -/
theorem items_of_ofChar?_none {c : Char} (hc : QuoteMark.ofChar? c = none) (s : List Char) :
    items (c :: s) = (if Text.isBlank c then .blank c else .plain c) :: items s := by
  rw [items, hc]

/-- A quote with its closing one is an item with what stands between them. -/
theorem items_quoted {q : QuoteMark} {body : List Char} (hbody : Between q body)
    (behind : List Char) :
    items (q.char :: (body ++ q.char :: behind)) = .quoted q body :: items behind := by
  rw [items, QuoteMark.ofChar?_char]
  simp only
  split
  · next h =>
    rw [hbody.cutQuoted_close] at h
    cases h
  · next h =>
    rw [hbody.cutQuoted_close] at h
    cases h
    rfl

/-- A quote that is not closed is the last item, with the rest of the text. -/
theorem items_unclosed {q : QuoteMark} {body : List Char} (hbody : Unclosed q body) :
    items (q.char :: body) = [.unclosed q body] := by
  rw [items, QuoteMark.ofChar?_char]
  simp only
  split
  · next h =>
    rw [hbody.cutQuoted_eq] at h
    cases h
    rfl
  · next h =>
    rw [hbody.cutQuoted_eq] at h
    cases h

/-- What was put together is cut into the same items again. -/
theorem IsCut.items_textOf {l : List Item} (hl : IsCut l) : items (textOf l) = l := by
  induction hl with
  | nil => rw [textOf_nil, items]
  | blank hc _ ih =>
    rw [textOf_cons, Item.chars, List.singleton_append,
      items_of_ofChar?_none (QuoteMark.ofChar?_of_isBlank hc), if_pos hc, ih]
  | plain hc hq _ ih =>
    rw [textOf_cons, Item.chars, List.singleton_append, items_of_ofChar?_none hq,
      if_neg (by simp [hc]), ih]
  | @quoted q body l hbody _ ih =>
    have htext : textOf (.quoted q body :: l) = q.char :: (body ++ q.char :: textOf l) := by
      simp [Item.chars]
    rw [htext, items_quoted hbody, ih]
  | unclosed hbody =>
    rw [textOf_cons, textOf_nil, List.append_nil, Item.chars, items_unclosed hbody]

/-- Every text is put together from its items. -/
theorem isCut_items (s : List Char) : IsCut (items s) ∧ textOf (items s) = s := by
  induction hn : s.length using Nat.strongRecOn generalizing s with
  | ind n ih =>
    subst hn
    match s with
    | [] =>
      rw [items]
      exact ⟨.nil, rfl⟩
    | c :: rest =>
      cases hc : QuoteMark.ofChar? c with
      | none =>
        obtain ⟨hcut, htext⟩ := ih rest.length (by simp) rest rfl
        rw [items_of_ofChar?_none hc]
        cases hblank : Text.isBlank c with
        | true => exact ⟨.blank hblank hcut, by simp [Item.chars, htext]⟩
        | false => exact ⟨.plain hblank hc hcut, by simp [Item.chars, htext]⟩
      | some q =>
        obtain rfl := QuoteMark.char_of_ofChar? hc
        rcases exists_between q rest with ⟨body, behind, hbody, rfl⟩ | hrest
        · obtain ⟨hcut, htext⟩ := ih behind.length (by simp; omega) behind rfl
          rw [items_quoted hbody]
          exact ⟨.quoted hbody hcut, by simp [Item.chars, htext]⟩
        · rw [items_unclosed hrest]
          exact ⟨.unclosed hrest, by simp [Item.chars]⟩

/-- **The items of a text are the only ones** of this form that it can be put together from. -/
theorem items_eq_iff {s : List Char} {l : List Item} : items s = l ↔ IsCut l ∧ textOf l = s := by
  constructor
  · rintro rfl
    exact isCut_items s
  · rintro ⟨hl, rfl⟩
    exact hl.items_textOf

end SqlBridge.Sql
