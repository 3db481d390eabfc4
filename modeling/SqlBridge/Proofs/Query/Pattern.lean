import SqlBridge.Proofs.Query.Pieces

/-!
# The pattern behind a clause

The seed of a chain is taken out by a replacement: where a clause begins with a keyword, `TRUE` and
`AND`, in any case of letters and with blanks behind each of them, only the keyword and a space are
left. `Condition.Finds` says where this pattern is found, without the functions that look for it,
and `Condition.replaces_dropSeed` that these put in its place what they should, in any text.

The text of a chain may hold anything, since raw SQL may be anything. Still the pattern is found in
it exactly when the first connective is `AND`, and then it is the seed with the blanks in front of
the conditions, and nothing behind these (`Condition.finds_seededChain_iff`). That gives both
clauses in closed form (`Condition.clauses_eq_body`).
-/

namespace SqlBridge.Condition

open Sql

/-! ## The pattern -/

/-- The word in any case of letters. -/
def IsWord (word s : List Char) : Prop := s.map Char.toUpper = word

/-- One blank or more. -/
structure IsGap (s : List Char) : Prop where
  ne_nil : s ≠ []
  blank : ∀ c ∈ s, Text.isBlank c = true

/-- What the pattern matches, with the keyword as it is written there. -/
inductive IsSeed (keyword : String) : (written matched : List Char) → Prop where
  | intro {k g t h a i : List Char} (hk : IsWord keyword.toList k) (hg : IsGap g)
      (ht : IsWord "TRUE".toList t) (hh : IsGap h) (ha : IsWord "AND".toList a) (hi : IsGap i) :
      IsSeed keyword k (k ++ (g ++ (t ++ (h ++ (a ++ i)))))

/-- The pattern is found where a text begins. Its last blanks are all that there are. -/
structure Finds (s written matched behind : List Char) : Prop where
  seed : ∃ keyword, (keyword = "WHERE" ∨ keyword = "HAVING") ∧ IsSeed keyword written matched
  eq : s = matched ++ behind
  greedy : ∀ c ∈ behind.head?, Text.isBlank c = false

/-- The text with the keyword and a space in place of the pattern, or as it is without one. -/
def Replaces (s t : List Char) : Prop :=
  (∃ written matched behind, Finds s written matched behind ∧ t = written ++ ' ' :: behind) ∨
    (∀ written matched behind, ¬Finds s written matched behind) ∧ t = s

/-! ## Words and blanks -/

/-- Blanks have no other case. -/
theorem toUpper_of_isBlank {c : Char} (h : Text.isBlank c = true) : c.toUpper = c := by
  simp only [Text.isBlank, Bool.or_eq_true, Bool.and_eq_true, decide_eq_true_eq, beq_iff_eq] at h
  have ha : 'a'.val.toNat = 97 := rfl
  have hz : 'z'.val.toNat = 122 := rfl
  have hc : c.toNat = c.val.toNat := rfl
  unfold Char.toUpper
  rw [dif_neg]
  simp only [UInt32.le_iff_toNat_le]
  omega

/-- No word begins with a blank. -/
theorem IsWord.dark {w : Char} (hw : Text.isBlank w = false) {word s : List Char}
    (h : IsWord (w :: word) s) : StartsDark s := by
  cases s with
  | nil => cases h
  | cons c s =>
    refine ⟨c, s, rfl, Bool.eq_false_iff.2 fun hc => ?_⟩
    have hletter : c.toUpper = w := (List.cons.inj h).1
    rw [← hletter, toUpper_of_isBlank hc, hc] at hw
    cases hw

/-- A word is passed over in any case of letters, and what is left stands behind it. -/
theorem behindWord?_eq_some_iff {word s r : List Char} :
    behindWord? word s = some r ↔ ∃ w, IsWord word w ∧ s = w ++ r := by
  induction word generalizing s with
  | nil => simp [behindWord?, IsWord, eq_comm]
  | cons v word ih =>
    cases s with
    | nil =>
      refine iff_of_false nofun ?_
      rintro ⟨w, hw, hs⟩
      obtain rfl := (List.append_eq_nil_iff.1 hs.symm).1
      cases hw
    | cons c s =>
      rw [behindWord?]
      constructor
      · intro h
        split at h
        · next hc =>
          obtain ⟨w, hw, rfl⟩ := ih.1 h
          exact ⟨c :: w, List.cons_eq_cons.2 ⟨hc, hw⟩, rfl⟩
        · cases h
      · rintro ⟨w, hw, hs⟩
        cases w with
        | nil => cases hw
        | cons d w =>
          obtain ⟨rfl, rfl⟩ := List.cons.inj hs
          obtain ⟨hc, hw⟩ := List.cons.inj hw
          rw [if_pos hc]
          exact ih.2 ⟨w, hw, rfl⟩

/-- Blanks are passed over up to the first other character. -/
theorem behindBlanks?_append {g r : List Char} (hg : IsGap g)
    (hr : ∀ c ∈ r.head?, Text.isBlank c = false) : behindBlanks? (g ++ r) = some r := by
  obtain ⟨c, g, rfl⟩ := List.exists_cons_of_ne_nil hg.ne_nil
  have hrest : r.dropWhile Text.isBlank = r := by
    cases r with
    | nil => rfl
    | cons d r => rw [List.dropWhile_cons_of_neg (by simp [hr d rfl])]
  rw [List.cons_append, behindBlanks?, if_pos (hg.blank c List.mem_cons_self),
    List.dropWhile_append_of_pos fun d hd => hg.blank d (List.mem_cons_of_mem c hd), hrest]

/-- The blanks that are passed over are all there are: what is left does not start with one. -/
theorem exists_of_behindBlanks? {s r : List Char} (h : behindBlanks? s = some r) :
    ∃ g, IsGap g ∧ s = g ++ r ∧ ∀ c ∈ r.head?, Text.isBlank c = false := by
  cases s with
  | nil => cases h
  | cons c s =>
    rw [behindBlanks?] at h
    split at h
    · next hc =>
      cases h
      refine ⟨c :: s.takeWhile Text.isBlank, ⟨by simp, ?_⟩, ?_, ?_⟩
      · exact List.forall_mem_cons.2 ⟨hc, List.all_eq_true.1 List.all_takeWhile⟩
      · rw [List.cons_append, List.takeWhile_append_dropWhile]
      · intro d hd
        have hhead := List.head?_dropWhile_not Text.isBlank s
        rw [Option.mem_def.1 hd] at hhead
        exact hhead
    · cases h

/-! ## The search for the pattern -/

/-- **The search finds the pattern and nothing else**, and gives what stands behind it. -/
theorem behindSeed?_eq_some_iff {keyword : String} {s r : List Char} :
    behindSeed? keyword.toList s = some r ↔
      (∃ written matched, IsSeed keyword written matched ∧ s = matched ++ r) ∧
        ∀ c ∈ r.head?, Text.isBlank c = false := by
  have htrue : Text.isBlank 'T' = false := by decide
  have hand : Text.isBlank 'A' = false := by decide
  constructor
  · intro h
    simp only [behindSeed?, Option.bind_eq_some_iff] at h
    obtain ⟨_, h₁, _, h₂, _, h₃, _, h₄, _, h₅, h₆⟩ := h
    obtain ⟨k, hk, rfl⟩ := behindWord?_eq_some_iff.1 h₁
    obtain ⟨g, hg, rfl, -⟩ := exists_of_behindBlanks? h₂
    obtain ⟨t, ht, rfl⟩ := behindWord?_eq_some_iff.1 h₃
    obtain ⟨h, hh, rfl, -⟩ := exists_of_behindBlanks? h₄
    obtain ⟨a, ha, rfl⟩ := behindWord?_eq_some_iff.1 h₅
    obtain ⟨i, hi, rfl, hr⟩ := exists_of_behindBlanks? h₆
    exact ⟨⟨k, _, .intro hk hg ht hh ha hi, by simp only [List.append_assoc]⟩, hr⟩
  · rintro ⟨⟨_, _, ⟨hk, hg, ht, hh, ha, hi⟩, rfl⟩, hr⟩
    have hwords : ∀ {w : List Char} (_ : StartsDark w) (r : List Char),
        ∀ c ∈ (w ++ r).head?, Text.isBlank c = false := by
      rintro _ ⟨c, w, rfl, hc⟩ r _ ⟨⟩
      exact hc
    simp only [behindSeed?, Option.bind_eq_some_iff, List.append_assoc]
    exact ⟨_, behindWord?_eq_some_iff.2 ⟨_, hk, rfl⟩,
      _, behindBlanks?_append hg (hwords (ht.dark htrue) _),
      _, behindWord?_eq_some_iff.2 ⟨_, ht, rfl⟩,
      _, behindBlanks?_append hh (hwords (ha.dark hand) _),
      _, behindWord?_eq_some_iff.2 ⟨_, ha, rfl⟩, behindBlanks?_append hi hr⟩

/-- The keyword is written where the pattern begins. -/
theorem IsSeed.take_append {keyword : String} {written matched : List Char}
    (h : IsSeed keyword written matched) (r : List Char) :
    (matched ++ r).take keyword.toList.length = written := by
  obtain ⟨hk, -, -, -, -, -⟩ := h
  rw [← hk, List.length_map, List.append_assoc, List.take_left]

/-- Where the pattern is found is where the search ends. -/
theorem finds_iff {s written matched behind : List Char} :
    Finds s written matched behind ↔
      ∃ keyword : String, (keyword = "WHERE" ∨ keyword = "HAVING") ∧
        behindSeed? keyword.toList s = some behind ∧
        written = s.take keyword.toList.length ∧ s = matched ++ behind := by
  constructor
  · rintro ⟨⟨keyword, hkw, hseed⟩, rfl, hgreedy⟩
    exact ⟨keyword, hkw, behindSeed?_eq_some_iff.2 ⟨⟨_, _, hseed, rfl⟩, hgreedy⟩,
      (hseed.take_append behind).symm, rfl⟩
  · rintro ⟨keyword, hkw, hsearch, rfl, hs⟩
    obtain ⟨⟨written, matched', hseed, hs'⟩, hgreedy⟩ := behindSeed?_eq_some_iff.1 hsearch
    obtain rfl := List.append_cancel_right (hs.symm.trans hs')
    rw [hs, hseed.take_append behind]
    exact ⟨⟨keyword, hkw, hseed⟩, rfl, hgreedy⟩

/-- **Of any text the pattern is replaced**, if it is found. -/
theorem replaces_dropSeed (s : List Char) : Replaces s (dropSeed s) := by
  have hfound (keyword : String) (hkw : keyword = "WHERE" ∨ keyword = "HAVING") {r : List Char}
      (h : behindSeed? keyword.toList s = some r) :
      Replaces s (s.take keyword.toList.length ++ ' ' :: r) := by
    obtain ⟨⟨written, matched, hseed, hs⟩, -⟩ := behindSeed?_eq_some_iff.1 h
    exact .inl ⟨_, matched, r, finds_iff.2 ⟨keyword, hkw, h, rfl, hs⟩, rfl⟩
  unfold dropSeed
  split
  · next r hwhere => exact hfound "WHERE" (.inl rfl) hwhere
  · next hwhere =>
    split
    · next r hhaving => exact hfound "HAVING" (.inr rfl) hhaving
    · next hhaving =>
      refine .inr ⟨fun written matched behind hfinds => ?_, rfl⟩
      obtain ⟨keyword, rfl | rfl, hsearch, -⟩ := finds_iff.1 hfinds
      · exact absurd (hwhere.symm.trans hsearch) nofun
      · exact absurd (hhaving.symm.trans hsearch) nofun

/-! ## Chains of conditions -/

/-- The conditions without the seed and its connective. -/
def body (first : Condition) (rest : List Condition) : String :=
  first.predicate.sql ++ String.join (rest.map sql)

/-- A seeded clause is the keyword, the seed with its connective, and the conditions without
them. -/
theorem toList_seededChain (keyword : String) (first : Condition) (rest : List Condition) :
    (seededChain keyword first rest).toList = keyword.toList ++
      ((match first.connective with
        | .and => " TRUE AND "
        | .or => " FALSE OR ").toList ++ (body first rest).toList) := by
  cases hc : first.connective with
  | and => simp [seededChain, body, sql, hc, Connective.seed, Connective.keyword]
  | or => simp [seededChain, body, sql, hc, Connective.seed, Connective.keyword]

/-- Where the search ends in a seeded chain. What the conditions are does not matter to it. -/
theorem behindSeed?_seededChain {keyword sought : String}
    (hkw : keyword = "WHERE" ∨ keyword = "HAVING") (hs : sought = "WHERE" ∨ sought = "HAVING")
    (first : Condition) (rest : List Condition) :
    behindSeed? sought.toList (seededChain keyword first rest).toList =
      if sought = keyword ∧ first.connective = .and then
        some ((body first rest).toList.dropWhile Text.isBlank)
      else none := by
  rw [toList_seededChain]
  cases first.connective with
  | and => rcases hkw with rfl | rfl <;> rcases hs with rfl | rfl <;> rfl
  | or => rcases hkw with rfl | rfl <;> rcases hs with rfl | rfl <;> rfl

/-- **In a seeded chain the pattern is found exactly when the first connective is `AND`**, whatever
the conditions are, and then as the seed with the blanks in front of the conditions. -/
theorem finds_seededChain_iff {keyword : String} (hkw : keyword = "WHERE" ∨ keyword = "HAVING")
    (first : Condition) (rest : List Condition) (written matched behind : List Char) :
    Finds (seededChain keyword first rest).toList written matched behind ↔
      first.connective = .and ∧ written = keyword.toList ∧
        matched = (keyword ++ " TRUE AND ").toList ++
          (body first rest).toList.takeWhile Text.isBlank ∧
        behind = (body first rest).toList.dropWhile Text.isBlank := by
  have hwritten : (seededChain keyword first rest).toList.take keyword.toList.length =
      keyword.toList := by
    rw [toList_seededChain, List.take_left]
  have htext (hand : first.connective = .and) : (seededChain keyword first rest).toList =
      ((keyword ++ " TRUE AND ").toList ++ (body first rest).toList.takeWhile Text.isBlank) ++
        (body first rest).toList.dropWhile Text.isBlank := by
    rw [toList_seededChain, hand, List.append_assoc, List.takeWhile_append_dropWhile,
      String.toList_append, List.append_assoc]
  rw [finds_iff]
  constructor
  · rintro ⟨sought, hs, hsearch, rfl, heq⟩
    rw [behindSeed?_seededChain hkw hs] at hsearch
    split at hsearch
    · next h =>
      obtain ⟨rfl, hand⟩ := h
      obtain rfl := Option.some.inj hsearch
      exact ⟨hand, hwritten, List.append_cancel_right (heq.symm.trans (htext hand)), rfl⟩
    · cases hsearch
  · rintro ⟨hand, rfl, rfl, rfl⟩
    refine ⟨keyword, hkw, ?_, hwritten.symm, htext hand⟩
    rw [behindSeed?_seededChain hkw hkw, if_pos ⟨rfl, hand⟩]

/-- **The clauses in closed form**, for any conditions: the keyword and the conditions without the
blanks in front of them when the first connective is `AND`, and `FALSE OR` between the two when it
is `OR`. The replacement of the pattern gives these, and it takes nothing away but the seed with the
blanks behind it. -/
theorem clauses_eq_body (first : Condition) (rest : List Condition) :
    let body := first.predicate.sql ++
      String.join (rest.map fun c => " " ++ c.connective.keyword ++ " " ++ c.predicate.sql)
    let bare := String.ofList (body.toList.dropWhile Text.isBlank)
    (whereClause (first :: rest) =
        match first.connective with
        | .and => "WHERE " ++ bare
        | .or => "WHERE FALSE OR " ++ body) ∧
      (havingClause (first :: rest) =
        match first.connective with
        | .and => "HAVING " ++ bare
        | .or => "HAVING FALSE OR " ++ body) ∧
      ∀ keyword, keyword = "WHERE" ∨ keyword = "HAVING" →
        Replaces (seededChain keyword first rest).toList
            (chain keyword (first :: rest)).toList ∧
          ∀ written matched behind,
            Finds (seededChain keyword first rest).toList written matched behind ↔
              first.connective = .and ∧ written = keyword.toList ∧
                matched = (keyword ++ " TRUE AND ").toList ++ body.toList.takeWhile Text.isBlank ∧
                behind = body.toList.dropWhile Text.isBlank := by
  intro body bare
  have hclause {keyword : String} (hkw : keyword = "WHERE" ∨ keyword = "HAVING") :=
    chain_eq_dropSeed hkw first rest
  refine ⟨?_, ?_, fun keyword hkw => ⟨?_, finds_seededChain_iff hkw first rest⟩⟩
  · refine (hclause (.inl rfl)).trans ?_
    cases first.connective <;> rfl
  · refine (hclause (.inr rfl)).trans ?_
    cases first.connective <;> rfl
  · rw [chain, String.toList_ofList]
    exact replaces_dropSeed _

/-- Raw predicates of blanks alone, of nothing, and of the words themselves in other letters. -/
def rawFirst : List Condition :=
  [⟨.and, .raw "\t \n"⟩, ⟨.and, .raw ""⟩, ⟨.or, .raw " where true and x"⟩]

/-- The blanks run on into the next connective, which stays, as do the words in raw SQL. -/
theorem clauses_eq_body_rawFirst :
    whereClause rawFirst = "WHERE AND  OR  where true and x" ∧
      havingClause (⟨.or, .raw "  TRUE AND y"⟩ :: rawFirst) =
        "HAVING FALSE OR   TRUE AND y AND \t \n AND  OR  where true and x" ∧
      Finds (seededChain "WHERE" ⟨.and, .raw "\t \n"⟩ rawFirst.tail).toList "WHERE".toList
        "WHERE TRUE AND \t \n ".toList "AND  OR  where true and x".toList := by
  obtain ⟨hwhere, -, hfinds⟩ := clauses_eq_body ⟨.and, .raw "\t \n"⟩ rawFirst.tail
  refine ⟨hwhere.trans (by decide +kernel), ?_, ?_⟩
  · exact (clauses_eq_body ⟨.or, .raw "  TRUE AND y"⟩ rawFirst).2.1
  · exact ((hfinds "WHERE" (.inl rfl)).2 _ _ _).2 ⟨rfl, rfl, by decide +kernel, by decide +kernel⟩

end SqlBridge.Condition
