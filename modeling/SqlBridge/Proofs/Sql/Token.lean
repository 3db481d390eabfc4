import SqlBridge.Sql.Whitespace
import SqlBridge.Text.Numeral

/-!
# Tokens of SQL text

How a server cuts SQL text into tokens. Text stands between apostrophes or double quotes, where
a backslash takes the next character with it, names stand between backticks, and a quote that is
written twice between its own kind stands for itself. Bytes are pairs of hexadecimal digits in
apostrophes behind an `X`, numbers are unsigned, words are keywords and names without quotes,
and everything else is punctuation, the longest sign first. Blanks are the six of ASCII, and a
comment counts as one: from two dashes with a blank behind them or from `#` to the end of the
line, or between `/*` and `*/`.

The reader is a machine (`Lexer`) with one step a character: `Lexer.step` is where the character
leads and which tokens it completes. `tokensFrom` has no result for a text that ends within a quote
or a block comment or whose digits of bytes are no pairs.

`tokensFrom_quoted` reads on to the closing quote, and `tokensFrom_pending` says that a token
which is complete but for the next character is delivered by a character that cannot belong to it.
-/

namespace SqlBridge.Sql

/-- A token of SQL text. -/
inductive Token where
  /-- A keyword or a name without quotes. -/
  | word (s : String)
  /-- A name between backticks. -/
  | name (s : String)
  /-- A text between apostrophes or double quotes, as it is meant. -/
  | text (s : String)
  /-- Bytes written as hexadecimal digits. -/
  | bytes (data : List UInt8)
  /-- A number without a sign. -/
  | number (s : String)
  /-- Punctuation. -/
  | sign (s : String)
  deriving DecidableEq, Repr

/-! ## Characters -/

/-- The blanks of the server: space and the controls from tab to carriage return. -/
def isSpace (c : Char) : Bool := c.toNat == 0x20 || (9 ≤ c.toNat && c.toNat ≤ 13)

/-- A control character of ASCII. -/
def isControl (c : Char) : Bool := c.toNat < 0x20 || c.toNat == 0x7F

/-- The characters of words. -/
def isWordChar (c : Char) : Bool := c.isAlphanum || c == '_' || c == '$' || 0x80 ≤ c.toNat

/-- The punctuation of more than one character. -/
def longSigns : List (List Char) :=
  [['<', '='], ['>', '='], ['!', '='], ['<', '>'], ['<', '=', '>'], [':', '='], ['|', '|'],
    ['&', '&'], ['<', '<'], ['>', '>'], ['-', '>'], ['-', '>', '>']]

/-- What a backslash and a character between quotes mean. -/
def unescape (c : Char) : List Char :=
  match c with
  | '0' => ['\x00']
  | 'n' => ['\n']
  | 'r' => ['\r']
  | 't' => ['\t']
  | 'b' => ['\x08']
  | 'Z' => ['\x1a']
  | '%' => ['\\', '%']
  | '_' => ['\\', '_']
  | c => [c]

/-- The bytes of pairs of hexadecimal digits. -/
def hexBytes? : List Char → Option (List UInt8)
  | [] => some []
  | [_] => none
  | a :: b :: rest =>
    match Numeral.hexDigit? a, Numeral.hexDigit? b, hexBytes? rest with
    | some high, some low, some data => some (UInt8.ofNat (high * 16 + low) :: data)
    | _, _, _ => none

/-- What was read between two quotes. -/
def QuoteMark.token (q : QuoteMark) (s : List Char) : Token :=
  match q with
  | backtick => .name (String.ofList s)
  | _ => .text (String.ofList s)

/-! ## The reader -/

/-- Where the reader stands, with what it has of the token that it is in. -/
inductive Lexer where
  /-- Between tokens. -/
  | between
  | word (w : List Char)
  /-- In the digits before the point of a number, or of a word that starts with digits. -/
  | digits (w : List Char)
  /-- In the digits behind the point of a number. -/
  | fraction (w : List Char)
  /-- Behind the mark of an exponent. -/
  | exponent (w : List Char)
  | sign (w : List Char)
  | quoted (q : QuoteMark) (w : List Char)
  /-- Between quotes, behind a backslash. -/
  | escaped (q : QuoteMark) (w : List Char)
  /-- Behind a quote that ends the token unless it is written twice. -/
  | closing (q : QuoteMark) (w : List Char)
  /-- In the digits of bytes. -/
  | hex (w : List Char)
  /-- Behind two dashes. -/
  | dashes
  | lineComment
  | blockComment
  /-- In a block comment, behind an asterisk. -/
  | blockStar
  /-- Behind something that is no token. -/
  | bad
  deriving DecidableEq, Repr

namespace Lexer

/-- The mark of an exponent was the last character. -/
def behindMark (w : List Char) : Bool := w.getLast? == some 'e' || w.getLast? == some 'E'

/-- The token that is complete if nothing belongs to it any more. -/
def pending : Lexer → List Token
  | word w => [.word (String.ofList w)]
  | digits w => [.number (String.ofList w)]
  | fraction w => [.number (String.ofList w)]
  | exponent w =>
    if (w.getLast?.any Char.isDigit) then [.number (String.ofList w)] else [.word (String.ofList w)]
  | sign w => [.sign (String.ofList w)]
  | closing q w => [q.token w]
  | _ => []

/-- Where a character leads that begins something new. -/
def start (c : Char) : Lexer :=
  if isSpace c then between
  else
    match QuoteMark.ofChar? c with
    | some q => quoted q []
    | none =>
      if c.isDigit then digits [c]
      else if isWordChar c then word [c]
      else if c = '#' then lineComment
      else sign [c]

/-- The character belongs to the token that is pending, and where it leads then. -/
def extend? (s : Lexer) (c : Char) : Option Lexer :=
  match s with
  | word w =>
    if isWordChar c then some (word (w ++ [c]))
    else if c = '\'' ∧ (w = ['X'] ∨ w = ['x']) then some (hex [])
    else none
  | digits w =>
    if c.isDigit then some (digits (w ++ [c]))
    else if c = '.' then some (fraction (w ++ [c]))
    else if c = 'e' ∨ c = 'E' then some (exponent (w ++ [c]))
    else if isWordChar c then some (word (w ++ [c]))
    else none
  | fraction w =>
    if c.isDigit then some (fraction (w ++ [c]))
    else if c = 'e' ∨ c = 'E' then some (exponent (w ++ [c]))
    else none
  | exponent w =>
    if c.isDigit then some (exponent (w ++ [c]))
    else if behindMark w ∧ (c = '+' ∨ c = '-') then some (exponent (w ++ [c]))
    else if behindMark w ∧ isWordChar c then some (word (w ++ [c]))
    else none
  | sign w =>
    if w = ['-'] ∧ c = '-' then some dashes
    else if w = ['/'] ∧ c = '*' then some blockComment
    else if longSigns.contains (w ++ [c]) then some (sign (w ++ [c]))
    else none
  | closing q w => if c = q.char then some (quoted q (w ++ [c])) else none
  | _ => none

/-- Where a character leads from a token that is pending, and the tokens that it completes. -/
def settle (s : Lexer) (c : Char) : List Token × Lexer :=
  match s.extend? c with
  | some t => ([], t)
  | none => (s.pending, start c)

/-- Where a character leads, and the tokens that it completes. -/
def step (s : Lexer) (c : Char) : List Token × Lexer :=
  match s with
  | quoted q w =>
    if c = '\\' ∧ q.hasEscapes then ([], escaped q w)
    else if c = q.char then ([], closing q w)
    else ([], quoted q (w ++ [c]))
  | escaped q w => ([], quoted q (w ++ unescape c))
  | hex w =>
    if c = '\'' then
      match hexBytes? w with
      | some data => ([.bytes data], between)
      | none => ([], bad)
    else ([], hex (w ++ [c]))
  | dashes =>
    if c = '\n' then ([], between)
    else if isSpace c || isControl c then ([], lineComment)
    else
      match (sign ['-']).settle c with
      | (ts, t) => (.sign "-" :: ts, t)
  | lineComment => ([], if c = '\n' then between else lineComment)
  | blockComment => ([], if c = '*' then blockStar else blockComment)
  | blockStar => ([], if c = '/' then between else if c = '*' then blockStar else blockComment)
  | bad => ([], bad)
  | s => s.settle c

/-- The last tokens, where the text may end. -/
def finish : Lexer → Option (List Token)
  | quoted .. => none
  | escaped .. => none
  | hex _ => none
  | blockComment => none
  | blockStar => none
  | bad => none
  | s => some s.pending

end Lexer

/-- Tokens in front of the ones that were read, if the rest could be read. -/
def prepend (ts : List Token) (rest : Option (List Token)) : Option (List Token) :=
  rest.map (ts ++ ·)

@[simp] theorem prepend_some (ts us : List Token) : prepend ts (some us) = some (ts ++ us) := rfl

@[simp] theorem prepend_nil (o : Option (List Token)) : prepend [] o = o := by
  cases o <;> rfl

@[simp] theorem prepend_prepend (ts us : List Token) (o : Option (List Token)) :
    prepend ts (prepend us o) = prepend (ts ++ us) o := by
  cases o <;> simp [prepend]

/-- The tokens that a text adds from where the reader stands. -/
def tokensFrom : Lexer → List Char → Option (List Token)
  | s, [] => s.finish
  | s, c :: rest => prepend (s.step c).1 (tokensFrom (s.step c).2 rest)

/-- The tokens of a text. -/
def tokens (s : String) : Option (List Token) := tokensFrom .between s.toList

/-! ## Tokens that are complete but for the next character -/

namespace Lexer

/-- The reader is in a token that may end here. -/
def isPending : Lexer → Bool
  | word _ => true
  | digits _ => true
  | fraction _ => true
  | exponent _ => true
  | sign _ => true
  | closing .. => true
  | _ => false

/-- A token that may end here is settled by the next character. -/
theorem step_of_isPending {s : Lexer} (hs : s.isPending) (c : Char) : s.step c = s.settle c := by
  cases s <;> first | rfl | cases hs

/-- At the end of the text, a token that may end here is complete. -/
theorem finish_of_isPending {s : Lexer} (hs : s.isPending) : s.finish = some s.pending := by
  cases s <;> first | rfl | cases hs

/-- Between tokens, a character starts the next one. -/
theorem step_between (c : Char) : between.step c = ([], start c) := rfl

/-- Between quotes, a character is kept unless it is the quote or starts an escape. -/
theorem step_quoted (q : QuoteMark) (w : List Char) (c : Char) :
    (quoted q w).step c =
      if c = '\\' ∧ q.hasEscapes then ([], escaped q w)
      else if c = q.char then ([], closing q w)
      else ([], quoted q (w ++ [c])) := rfl

/-- Behind a backslash, the character is read for what it stands for. -/
theorem step_escaped (q : QuoteMark) (w : List Char) (c : Char) :
    (escaped q w).step c = ([], quoted q (w ++ unescape c)) := rfl

/-- A character that belongs to the pending token leads on within it. -/
theorem step_of_extend? {s t : Lexer} {c : Char} (hs : s.isPending) (h : s.extend? c = some t) :
    s.step c = ([], t) := by
  rw [step_of_isPending hs, settle, h]

/-- A word goes on with any character of a word. -/
theorem extend?_word {c : Char} (hc : isWordChar c) (w : List Char) :
    (word w).extend? c = some (word (w ++ [c])) := if_pos hc

/-- A whole number goes on with digits. -/
theorem extend?_digits {c : Char} (hc : c.isDigit) (w : List Char) :
    (digits w).extend? c = some (digits (w ++ [c])) := if_pos hc

/-- The digits behind a point go on with digits. -/
theorem extend?_fraction {c : Char} (hc : c.isDigit) (w : List Char) :
    (fraction w).extend? c = some (fraction (w ++ [c])) := if_pos hc

end Lexer

@[simp] theorem tokensFrom_nil (s : Lexer) : tokensFrom s [] = s.finish := rfl

@[simp] theorem tokensFrom_cons (s : Lexer) (c : Char) (r : List Char) :
    tokensFrom s (c :: r) = prepend (s.step c).1 (tokensFrom (s.step c).2 r) := rfl

/-- Between tokens, a character leads where it begins something new. -/
theorem tokensFrom_between_cons (c : Char) (r : List Char) :
    tokensFrom .between (c :: r) = tokensFrom (.start c) r := by
  rw [tokensFrom_cons, Lexer.step_between, prepend_nil]

/-- A blank between tokens is nothing. -/
theorem tokensFrom_between_space (r : List Char) :
    tokensFrom .between (' ' :: r) = tokensFrom .between r := tokensFrom_between_cons ' ' r

/-- A character that belongs to the pending token leads on within it. -/
theorem tokensFrom_extend {s t : Lexer} {c : Char} (hs : s.isPending) (h : s.extend? c = some t)
    (r : List Char) : tokensFrom s (c :: r) = tokensFrom t r := by
  rw [tokensFrom_cons, Lexer.step_of_extend? hs h, prepend_nil]

/-- **A pending token is delivered** where the text ends or a character follows that does not
belong to it, and the rest is read as if nothing had been there. -/
theorem tokensFrom_pending {s : Lexer} (hs : s.isPending) {r : List Char}
    (hr : ∀ c ∈ r.head?, s.extend? c = none) :
    tokensFrom s r = prepend s.pending (tokensFrom .between r) := by
  cases r with
  | nil =>
    rw [tokensFrom_nil, Lexer.finish_of_isPending hs]
    exact congrArg some (List.append_nil _).symm
  | cons c r =>
    have hc : s.extend? c = none := hr c (by simp)
    rw [tokensFrom_cons, Lexer.step_of_isPending hs, Lexer.settle, hc, tokensFrom_between_cons]

/-! ## Runs of characters -/

/-- **Characters that are only gathered lead on within the same kind of token.** -/
theorem tokensFrom_run {f : List Char → Lexer} {cs : List Char}
    (h : ∀ c ∈ cs, ∀ w, (f w).step c = ([], f (w ++ [c]))) (w r : List Char) :
    tokensFrom (f w) (cs ++ r) = tokensFrom (f (w ++ cs)) r := by
  induction cs generalizing w with
  | nil => simp
  | cons c cs ih =>
    rw [List.cons_append, tokensFrom_cons, h c (by simp), ih fun x hx => h x (by simp [hx])]
    simp

/-- The characters of a word lead on within it. -/
theorem tokensFrom_word {cs : List Char} (hcs : ∀ c ∈ cs, isWordChar c) (w r : List Char) :
    tokensFrom (.word w) (cs ++ r) = tokensFrom (.word (w ++ cs)) r :=
  tokensFrom_run (f := .word)
    (fun c hc w => Lexer.step_of_extend? rfl (Lexer.extend?_word (hcs c hc) w)) w r

/-- Digits lead on within a number. -/
theorem tokensFrom_digits {cs : List Char} (hcs : ∀ c ∈ cs, c.isDigit) (w r : List Char) :
    tokensFrom (.digits w) (cs ++ r) = tokensFrom (.digits (w ++ cs)) r :=
  tokensFrom_run (f := .digits)
    (fun c hc w => Lexer.step_of_extend? rfl (Lexer.extend?_digits (hcs c hc) w)) w r

/-- Digits lead on within the fraction of a number. -/
theorem tokensFrom_fraction {cs : List Char} (hcs : ∀ c ∈ cs, c.isDigit) (w r : List Char) :
    tokensFrom (.fraction w) (cs ++ r) = tokensFrom (.fraction (w ++ cs)) r :=
  tokensFrom_run (f := .fraction)
    (fun c hc w => Lexer.step_of_extend? rfl (Lexer.extend?_fraction (hcs c hc) w)) w r

/-- Characters that are neither the quote nor a backslash stand for themselves. -/
theorem tokensFrom_quoted {q : QuoteMark} {cs : List Char}
    (hcs : ∀ c ∈ cs, c ≠ q.char ∧ ¬(c = '\\' ∧ q.hasEscapes)) (w r : List Char) :
    tokensFrom (.quoted q w) (cs ++ r) = tokensFrom (.quoted q (w ++ cs)) r :=
  tokensFrom_run (f := .quoted q)
    (fun c hc w => by
      obtain ⟨hq, hb⟩ := hcs c hc
      rw [Lexer.step_quoted, if_neg hb, if_neg hq]) w r

/-- Digits of bytes are gathered up to the apostrophe. -/
theorem tokensFrom_hex {cs : List Char} (hcs : '\'' ∉ cs) (w r : List Char) :
    tokensFrom (.hex w) (cs ++ r) = tokensFrom (.hex (w ++ cs)) r :=
  tokensFrom_run (f := .hex)
    (fun c hc w => by
      have hne : c ≠ '\'' := fun h => hcs (h ▸ hc)
      exact if_neg hne) w r

/-- The quote itself closes the token, or is its first half. -/
theorem tokensFrom_close {q : QuoteMark} (w r : List Char) :
    tokensFrom (.quoted q w) (q.char :: r) = tokensFrom (.closing q w) r := by
  have hc : (Lexer.quoted q w).step q.char = ([], .closing q w) := by
    cases q <;> rfl
  rw [tokensFrom_cons, hc, prepend_nil]

/-- Behind a backslash, a character stands for what it means there. -/
theorem tokensFrom_escape {q : QuoteMark} (hq : q.hasEscapes) (c : Char) (w r : List Char) :
    tokensFrom (.quoted q w) ('\\' :: c :: r) = tokensFrom (.quoted q (w ++ unescape c)) r := by
  have hb : (Lexer.quoted q w).step '\\' = ([], .escaped q w) := by
    rw [Lexer.step_quoted, if_pos ⟨rfl, hq⟩]
  rw [tokensFrom_cons, hb, tokensFrom_cons, Lexer.step_escaped, prepend_nil, prepend_nil]

/-! ## Lists -/

/-- What holds of a separator and of the entries' tokens holds of the tokens of the list. -/
theorem forall_mem_intercalate {p : Token → Prop} {sep : Token} (hsep : p sep)
    {l : List (List Token)} (h : ∀ ts ∈ l, ∀ t ∈ ts, p t) : ∀ t ∈ [sep].intercalate l, p t := by
  induction l with
  | nil => simp
  | cons ts l ih =>
    have hts := h ts (by simp)
    have hl := ih fun us hus => h us (by simp [hus])
    cases l with
    | nil => simpa using hts
    | cons us l =>
      rw [List.intercalate_cons_cons]
      intro t ht
      rcases List.mem_append.1 ht with ht | ht
      · rcases List.mem_append.1 ht with ht | ht
        · exact hts t ht
        · rw [List.mem_singleton.1 ht]
          exact hsep
      · exact hl t ht

end SqlBridge.Sql
