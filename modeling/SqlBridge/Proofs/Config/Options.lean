import Mathlib.Data.List.Nodup
import SqlBridge.Config.ConnectOptions
import SqlBridge.Proofs.Setters
import SqlBridge.Proofs.Value.Integer

/-!
# The order of options does not matter

The options of a connection come in no order that is known. They are applied one by one, but each
name sets a part of its own (`ConnectOptions.Sets`), so what comes out is told by the names alone
(`ConnectOptions.Follows`, `ConnectOptions.ofConfig_eq_ok_iff`): a part is what its option says, or
what it was before if there is none.

Three options have to be read, and a session is refused exactly if the value of one of them cannot
be (`ReadSetting.Reads`). If several cannot, the order decides which one is reported, and nothing
else (`ConnectOptions.ofConfig_anyOrder`).
-/

namespace SqlBridge

/-! ## What values mean -/

/-- Where no name stands twice, the value of a name is what stands with it. -/
theorem lookup_eq_some_iff_mem {α : Type} {l : List (String × α)} (hl : (l.map Prod.fst).Nodup)
    {name : String} {v : α} : l.lookup name = some v ↔ (name, v) ∈ l := by
  induction l with
  | nil => simp
  | cons e l ih =>
    obtain ⟨n, u⟩ := e
    rw [List.map_cons, List.nodup_cons] at hl
    rw [List.lookup_cons, List.mem_cons, Prod.mk.injEq]
    by_cases hn : name = n
    · subst hn
      have hnew : (name, v) ∉ l := fun hv => hl.1 (List.mem_map.2 ⟨_, hv, rfl⟩)
      simp [hnew, eq_comm]
    · simp only [beq_false_of_ne hn, hn, false_and, false_or]
      exact ih hl.2

/-- A word names a mode, in whatever case of letters. -/
def SslMode.Names (s : String) (m : SslMode) : Prop :=
  (String.ofList (s.toList.map Char.toLower), m) ∈ SslMode.words

/-- The words for the modes are read as these modes, and no other word is. -/
theorem SslMode.ofText?_eq_some_iff {s : String} {m : SslMode} :
    SslMode.ofText? s = some m ↔ SslMode.Names s m :=
  lookup_eq_some_iff_mem (by decide)

/-- A word names one mode at most. -/
theorem SslMode.Names.unique {s : String} {m m' : SslMode} (hm : SslMode.Names s m)
    (hm' : SslMode.Names s m') : m = m' :=
  Option.some.inj ((ofText?_eq_some_iff.2 hm).symm.trans (ofText?_eq_some_iff.2 hm'))

/-- A text writes a number of 64 bits. -/
def Numeral.Writes64 (s : String) (n : UInt64) : Prop := Numeral.WritesNat s.toList n.toNat

/-- Digits write one number at most. -/
theorem Numeral.WritesNat.unique {s : List Char} {m n : Nat} (hm : WritesNat s m)
    (hn : WritesNat s n) : m = n := by
  cases hm with
  | plus hs => exact (writesNat_plus_iff.1 hn).2
  | plain hs =>
    cases hn with
    | plain => rfl
    | plus => exact absurd rfl (hs.ne_cons (by decide))

/-- A text writes one word of 64 bits at most. -/
theorem Numeral.Writes64.unique {s : String} {m n : UInt64} (hm : Writes64 s m)
    (hn : Writes64 s n) : m = n :=
  UInt64.toNat_inj.1 (WritesNat.unique hm hn)

/-- The word for a truth value. -/
def truthWord (b : Bool) : String := if b then "true" else "false"

/-- The two truth values are written by different words. -/
theorem truthWord_inj {b b' : Bool} (h : truthWord b = truthWord b') : b = b' := by
  cases b <;> cases b' <;> first | rfl | exact absurd h (by decide)

/-- The value of a setting can be read: a word for a mode, a number of 64 bits, a truth value. -/
def ReadSetting.Reads : ReadSetting → String → Prop
  | .sslMode, s => ∃ m, SslMode.Names s m
  | .statementCacheCapacity, s => ∃ n, Numeral.Writes64 s n
  | .pipesAsConcat, s => ∃ b, s = truthWord b

namespace ConnectOptions

open Setters (Gives)

/-! ## One option -/

/-- The names of the options that are known. -/
def knownNames : List String :=
  ["charset", "collation", "timezone", "socket", "ssl_ca", "ssl_mode", "statement_cache_capacity",
    "pipes_as_concat"]

/-- An option that is known. -/
def isKnown (e : String × String) : Bool := knownNames.contains e.1

/-- What an option makes of the options so far: each name sets a part of its own. -/
inductive Sets (o : ConnectOptions) : String → String → ConnectOptions → Prop
  | charset (v : String) : Sets o "charset" v { o with charset := v }
  | collation (v : String) : Sets o "collation" v { o with collation := some v }
  | timezone (v : String) : Sets o "timezone" v { o with timezone := some v }
  | socket (v : String) : Sets o "socket" v { o with socket := some v }
  | sslCa (v : String) : Sets o "ssl_ca" v { o with sslCa := some v }
  | sslMode {v : String} {m : SslMode} (h : SslMode.Names v m) :
    Sets o "ssl_mode" v { o with sslMode := m }
  | statementCacheCapacity {v : String} {n : UInt64} (h : Numeral.Writes64 v n) :
    Sets o "statement_cache_capacity" v { o with statementCacheCapacity := n }
  | pipesAsConcat (b : Bool) : Sets o "pipes_as_concat" (truthWord b) { o with pipesAsConcat := b }
  | unknown {name : String} (h : name ∉ knownNames) (v : String) : Sets o name v o

/-- Why an option is refused: its value cannot be read. -/
inductive Refuses : String → String → Error → Prop
  | unreadable {s : ReadSetting} {v : String} (h : ¬s.Reads v) (fault : SettingFault) :
    Refuses s.name v (.config (.unreadable s v fault))

variable {o o' : ConnectOptions} {name v : String} {e : Error}

/-- A capacity that can be read is set, and nothing else is. -/
theorem sets_capacity {n : Nat} (h : Numeral.readNat UInt64.size v.toList = .ok n) :
    o.Sets "statement_cache_capacity" v { o with statementCacheCapacity := .ofNat n } := by
  obtain ⟨hwrites, hlt⟩ := (Numeral.readNat_eq_ok_iff (by decide)).1 h
  refine .statementCacheCapacity ?_
  rwa [Numeral.Writes64, UInt64.toNat_ofNat_of_lt' hlt]

/-- A capacity that cannot be read is not a value of its option. -/
theorem not_reads_capacity {fault : NumeralFault}
    (h : Numeral.readNat UInt64.size v.toList = .error fault) :
    ¬ReadSetting.statementCacheCapacity.Reads v := by
  rintro ⟨n, hn⟩
  have hok := (Numeral.readNat_eq_ok_iff (by decide)).2 ⟨hn, n.toNat_lt_size⟩
  rw [h] at hok
  cases hok

/-- **An option sets its part, or its value cannot be read.** -/
theorem apply_cases (o : ConnectOptions) (name v : String) :
    (∃ o', o.apply name v = .ok o' ∧ o.Sets name v o') ∨
      ∃ e, o.apply name v = .error e ∧ Refuses name v e := by
  fun_cases apply o name v with
  | case1 => exact .inl ⟨_, rfl, .charset v⟩
  | case2 => exact .inl ⟨_, rfl, .collation v⟩
  | case3 => exact .inl ⟨_, rfl, .timezone v⟩
  | case4 => exact .inl ⟨_, rfl, .socket v⟩
  | case5 => exact .inl ⟨_, rfl, .sslCa v⟩
  | case6 m hm => exact .inl ⟨_, rfl, .sslMode (SslMode.ofText?_eq_some_iff.1 hm)⟩
  | case7 hm =>
    refine .inr ⟨_, rfl, .unreadable (s := .sslMode) (fun ⟨m, hnames⟩ => ?_) _⟩
    rw [SslMode.ofText?_eq_some_iff.2 hnames] at hm
    cases hm
  | case8 n hn => exact .inl ⟨_, rfl, sets_capacity hn⟩
  | case9 fault hfault =>
    refine .inr ⟨_, rfl, .unreadable (s := .statementCacheCapacity) ?_ _⟩
    exact not_reads_capacity hfault
  | case10 htrue => exact .inl ⟨_, rfl, htrue ▸ .pipesAsConcat true⟩
  | case11 _ hfalse => exact .inl ⟨_, rfl, hfalse ▸ .pipesAsConcat false⟩
  | case12 htrue hfalse =>
    refine .inr ⟨_, rfl, .unreadable (s := .pipesAsConcat) (fun ⟨b, hb⟩ => ?_) _⟩
    cases b
    · exact hfalse hb
    · exact htrue hb
  | case13 => exact .inl ⟨_, rfl, .unknown (by simp_all [knownNames]) v⟩

/-- An option that is applied sets what belongs to its name. -/
theorem sets_of_apply (h : o.apply name v = .ok o') : o.Sets name v o' := by
  rcases o.apply_cases name v with ⟨o₁, ho, hsets⟩ | ⟨e, he, -⟩
  · rw [ho] at h
    exact Except.ok.inj h ▸ hsets
  · rw [he] at h
    cases h

/-- An option that is refused has an unreadable value. -/
theorem refuses_of_apply (h : o.apply name v = .error e) : Refuses name v e := by
  rcases o.apply_cases name v with ⟨o₁, ho, -⟩ | ⟨e', he, hrefuses⟩
  · rw [ho] at h
    cases h
  · rw [he] at h
    exact Except.error.inj h ▸ hrefuses

/-- The parts that no option sets. -/
def account (o : ConnectOptions) : String × UInt16 × String × String × Option String :=
  (o.host, o.port, o.username, o.database, o.password)

/-- No option changes the account: host, port, user, password and database. -/
theorem Sets.account (h : o.Sets name v o') : o'.account = o.account := by
  cases h <;> rfl

/-- An option that is not known is passed over. -/
theorem apply_of_not_isKnown (o : ConnectOptions) {entry : String × String}
    (h : isKnown entry = false) : o.apply entry.1 entry.2 = .ok o := by
  obtain ⟨name, v⟩ := entry
  have hname : name ∉ knownNames := by simpa [isKnown] using h
  rcases o.apply_cases name v with ⟨o', ho, hsets⟩ | ⟨e, -, hrefuses⟩
  · cases hsets with
    | unknown => exact ho
    | _ => exact absurd (by decide) hname
  · cases hrefuses with
    | @unreadable setting => exact absurd (by cases setting <;> decide) hname

/-! ## All options -/

/-- What a session is opened with follows from its settings: host, port, user, database and password
are given, and each of the other parts is what its option says. -/
structure Follows (c : ConnectionConfig) (o : ConnectOptions) : Prop where
  host : o.host = c.host
  port : o.port = c.port
  username : o.username = c.username
  database : o.database = c.database
  password : o.password = if c.password.isEmpty then none else some c.password
  charset : Gives c.options.entries "charset" (fun v a => a = v) "utf8mb4" o.charset
  collation : Gives c.options.entries "collation" (fun v a => a = some v) none o.collation
  socket : Gives c.options.entries "socket" (fun v a => a = some v) none o.socket
  sslMode : Gives c.options.entries "ssl_mode" SslMode.Names .preferred o.sslMode
  sslCa : Gives c.options.entries "ssl_ca" (fun v a => a = some v) none o.sslCa
  timezone : Gives c.options.entries "timezone" (fun v a => a = some v) (some "+00:00") o.timezone
  statementCacheCapacity : Gives c.options.entries "statement_cache_capacity" Numeral.Writes64 100
    o.statementCacheCapacity
  pipesAsConcat : Gives c.options.entries "pipes_as_concat" (fun v b => v = truthWord b) true
    o.pipesAsConcat

variable {c : ConnectionConfig}

/-- A part of the options that one name sets is what the value under that name means, or the
default. -/
theorem gives_of_ofConfig (h : ofConfig c = .ok o) {α : Type} {f : ConnectOptions → α}
    {means : String → α → Prop}
    (hpart : ∀ {o n v o'}, Sets o n v o' →
      (n = name → means v (f o')) ∧ (n ≠ name → f o' = f o)) :
    Gives c.options.entries name means (f (base c)) (f o) :=
  Setters.foldlM_gives (fun _ _ _ _ hset => hpart (sets_of_apply hset)) c.options.nodup h

/-- The account of what is built is that of the settings. -/
theorem account_of_ofConfig (h : ofConfig c = .ok o) : o.account = (base c).account :=
  Setters.foldlM_kept (fun _ _ _ hset => (sets_of_apply hset).account) h

/-- **The options of settings follow from them.** -/
theorem follows_of_ofConfig (h : ofConfig c = .ok o) : Follows c o where
  host := congrArg (·.1) (account_of_ofConfig h)
  port := congrArg (·.2.1) (account_of_ofConfig h)
  username := congrArg (·.2.2.1) (account_of_ofConfig h)
  database := congrArg (·.2.2.2.1) (account_of_ofConfig h)
  password := congrArg (·.2.2.2.2) (account_of_ofConfig h)
  charset := gives_of_ofConfig h (f := charset) fun hs => by cases hs <;> simp_all [knownNames]
  collation := gives_of_ofConfig h (f := collation)
    fun hs => by cases hs <;> simp_all [knownNames]
  socket := gives_of_ofConfig h (f := socket) fun hs => by cases hs <;> simp_all [knownNames]
  sslMode := gives_of_ofConfig h (f := sslMode) fun hs => by cases hs <;> simp_all [knownNames]
  sslCa := gives_of_ofConfig h (f := sslCa) fun hs => by cases hs <;> simp_all [knownNames]
  timezone := gives_of_ofConfig h (f := timezone) fun hs => by cases hs <;> simp_all [knownNames]
  statementCacheCapacity := gives_of_ofConfig h (f := statementCacheCapacity)
    fun hs => by cases hs <;> simp_all [knownNames]
  pipesAsConcat := gives_of_ofConfig h (f := pipesAsConcat)
    fun hs => by cases hs <;> simp_all [knownNames]

/-- **They follow in one way.** -/
theorem Follows.unique (ho : Follows c o) (ho' : Follows c o') : o = o' := by
  have hequal {α : Type} (f : String → α) (v : String) (a a' : α) (ha : a = f v)
      (ha' : a' = f v) : a = a' := ha.trans ha'.symm
  have hcharset := ho.charset.unique ho'.charset (hequal id)
  have hcollation := ho.collation.unique ho'.collation (hequal some)
  have hsocket := ho.socket.unique ho'.socket (hequal some)
  have hsslMode := ho.sslMode.unique ho'.sslMode fun _ _ _ => SslMode.Names.unique
  have hsslCa := ho.sslCa.unique ho'.sslCa (hequal some)
  have htimezone := ho.timezone.unique ho'.timezone (hequal some)
  have hcapacity := ho.statementCacheCapacity.unique ho'.statementCacheCapacity
    fun _ _ _ => Numeral.Writes64.unique
  have hpipes := ho.pipesAsConcat.unique ho'.pipesAsConcat
    fun _ _ _ hb hb' => truthWord_inj (hb.symm.trans hb')
  obtain ⟨⟩ := o
  obtain ⟨⟩ := o'
  rw [mk.injEq]
  exact ⟨ho.host.trans ho'.host.symm, ho.port.trans ho'.port.symm,
    ho.username.trans ho'.username.symm, ho.database.trans ho'.database.symm,
    ho.password.trans ho'.password.symm, hcharset, hcollation, hsocket, hsslMode, hsslCa, htimezone,
    hcapacity, hpipes⟩

/-- What is given under names alone matters, and what is known of it. -/
theorem Follows.of_filter_perm (ho : Follows c o) {options : Named String}
    (h : (options.entries.filter isKnown).Perm (c.options.entries.filter isKnown)) :
    Follows { c with options } o := by
  have hmem {name : String} (hname : name ∈ knownNames) (v : String) :
      (name, v) ∈ options.entries ↔ (name, v) ∈ c.options.entries := by
    have hknown : isKnown (name, v) = true := List.contains_iff_mem.2 hname
    have hboth := h.mem_iff (a := (name, v))
    rwa [List.mem_filter, List.mem_filter, and_iff_left hknown, and_iff_left hknown] at hboth
  exact {
    ho with
    charset := ho.charset.of_mem_iff (hmem (by decide))
    collation := ho.collation.of_mem_iff (hmem (by decide))
    socket := ho.socket.of_mem_iff (hmem (by decide))
    sslMode := ho.sslMode.of_mem_iff (hmem (by decide))
    sslCa := ho.sslCa.of_mem_iff (hmem (by decide))
    timezone := ho.timezone.of_mem_iff (hmem (by decide))
    statementCacheCapacity := ho.statementCacheCapacity.of_mem_iff (hmem (by decide))
    pipesAsConcat := ho.pipesAsConcat.of_mem_iff (hmem (by decide)) }

/-- Of options that were all followed each value can be read. -/
theorem Follows.reads (ho : Follows c o) {setting : ReadSetting}
    (hv : (setting.name, v) ∈ c.options.entries) : setting.Reads v := by
  cases setting with
  | sslMode => exact ⟨_, ho.sslMode.named v hv⟩
  | statementCacheCapacity => exact ⟨_, ho.statementCacheCapacity.named v hv⟩
  | pipesAsConcat => exact ⟨_, ho.pipesAsConcat.named v hv⟩

/-- An option has a value that cannot be read. -/
def HasUnreadable (c : ConnectionConfig) (setting : ReadSetting) (v : String) : Prop :=
  (setting.name, v) ∈ c.options.entries ∧ ¬setting.Reads v

/-- **Settings are refused for a value that cannot be read**, and the error names it. -/
theorem exists_unreadable_of_ofConfig (h : ofConfig c = .error e) :
    ∃ setting v fault, e = .config (.unreadable setting v fault) ∧ HasUnreadable c setting v := by
  obtain ⟨⟨name, v⟩, hmem, o, hrefused⟩ := Setters.exists_of_foldlM_error h
  cases refuses_of_apply hrefused with
  | @unreadable setting _ hreads fault => exact ⟨setting, v, fault, rfl, hmem, hreads⟩

/-- **What a session is opened with is told by the names of its options**, and by no order. -/
theorem ofConfig_eq_ok_iff : ofConfig c = .ok o ↔ Follows c o := by
  refine ⟨follows_of_ofConfig, fun ho => ?_⟩
  cases h : ofConfig c with
  | ok o' => rw [(follows_of_ofConfig h).unique ho]
  | error e =>
    obtain ⟨setting, v, -, -, hmem, hreads⟩ := exists_unreadable_of_ofConfig h
    exact absurd (ho.reads hmem) hreads

/-- The same options, or a fault of the configuration on both sides. -/
def Agree : Except Error ConnectOptions → Except Error ConnectOptions → Prop
  | .ok o, .ok o' => o = o'
  | .error (.config _), .error (.config _) => True
  | _, _ => False

/-- What agrees with a success is the same success. -/
theorem Agree.eq_ok {r : Except Error ConnectOptions} (h : Agree r (.ok o)) : r = .ok o := by
  cases r with
  | ok o' => exact congrArg Except.ok h
  | error e => cases e <;> cases h

/-- What agrees with an error is an error about the settings, if perhaps for another option. -/
theorem Agree.eq_error {r : Except Error ConnectOptions} (h : Agree r (.error e)) :
    ∃ fault, r = .error (.config fault) := by
  cases r with
  | ok o' => cases h
  | error e' =>
    cases e' with
    | config fault => exact ⟨fault, rfl⟩
    | _ => cases h

/-- Options in another order, and unknown ones among them, give the same or an error on both
sides. -/
theorem agree_of_filter_perm {options : Named String}
    (h : (options.entries.filter isKnown).Perm (c.options.entries.filter isKnown)) :
    Agree (ofConfig { c with options }) (ofConfig c) := by
  cases hafter : ofConfig { c with options } with
  | ok o =>
    -- the settings with the options in the other order are those that were given
    have hgiven : Follows c o := (ofConfig_eq_ok_iff.1 hafter).of_filter_perm h.symm
    rw [ofConfig_eq_ok_iff.2 hgiven]
    rfl
  | error e =>
    obtain ⟨setting, v, fault, rfl, -⟩ := exists_unreadable_of_ofConfig hafter
    cases hbefore : ofConfig c with
    | ok o =>
      rw [ofConfig_eq_ok_iff.2 ((ofConfig_eq_ok_iff.1 hbefore).of_filter_perm h)] at hafter
      cases hafter
    | error e =>
      obtain ⟨setting', v', fault', rfl, -⟩ := exists_unreadable_of_ofConfig hbefore
      trivial

/-- Options that are not known change nothing, also not which fault is reported. -/
theorem ofConfig_of_filter_eq {options : Named String}
    (h : options.entries.filter isKnown = c.options.entries.filter isKnown) :
    ofConfig { c with options } = ofConfig c := by
  have hset (o : ConnectOptions) (entry : String × String) (hunknown : isKnown entry = false) :
      o.apply entry.1 entry.2 = .ok o := o.apply_of_not_isKnown hunknown
  rw [ofConfig, ← Setters.foldlM_filter hset, h, Setters.foldlM_filter hset]
  rfl

/-- **The order of options does not matter.** Two orders lead to the same, or both are refused as a
fault of the configuration; and they are refused exactly if a mode, a number or a truth value among
them cannot be read, which the error names. What is not known never changes the result. -/
theorem ofConfig_anyOrder (c : ConnectionConfig) :
    (∀ options : Named String, options.entries.Perm c.options.entries →
      Agree (ofConfig { c with options }) (ofConfig c)) ∧
    ((∃ e, ofConfig c = .error e) ↔ ∃ setting v, HasUnreadable c setting v) ∧
    (∀ e, ofConfig c = .error e → ∃ setting v fault,
      e = .config (.unreadable setting v fault) ∧ HasUnreadable c setting v) ∧
    ∀ options : Named String,
      options.entries.filter isKnown = c.options.entries.filter isKnown →
        ofConfig { c with options } = ofConfig c := by
  refine ⟨fun options (h : options.entries.Perm _) => agree_of_filter_perm (h.filter isKnown),
    ⟨?_, ?_⟩, fun e => exists_unreadable_of_ofConfig, fun options => ofConfig_of_filter_eq⟩
  · rintro ⟨e, he⟩
    obtain ⟨setting, v, -, -, hunreadable⟩ := exists_unreadable_of_ofConfig he
    exact ⟨setting, v, hunreadable⟩
  · rintro ⟨setting, v, hmem, hreads⟩
    cases h : ofConfig c with
    | ok o => exact absurd ((ofConfig_eq_ok_iff.1 h).reads hmem) hreads
    | error e => exact ⟨e, rfl⟩

/-- Settings with these options. -/
def optioned (options : Named String) : ConnectionConfig :=
  { ConnectionConfig.ofNames "localhost" "root" "test" with options }

/-- The same options in the opposite order. -/
def reversed (options : Named String) : Named String where
  entries := options.entries.reverse
  nodup := by
    rw [List.map_reverse]
    exact List.nodup_reverse.2 options.nodup

/-- Options that are known and can be read, and one that is not known. -/
def readable : Named String :=
  .ofList [("ssl_mode", "Verify_CA"), ("charset", "latin1"), ("color", "red"),
    ("statement_cache_capacity", "+007")]

/-- What they lead to. -/
def opened : ConnectOptions :=
  { base (optioned readable) with
    sslMode := .verifyCa, charset := "latin1", statementCacheCapacity := 7 }

/-- Options of which two cannot be read. -/
def unreadable : Named String :=
  .ofList [("pipes_as_concat", "TRUE"), ("charset", "latin1"), ("ssl_mode", "verify-ca")]

/-- Four options and their reverse give the same, and two unreadable ones an error in both
orders. -/
theorem ofConfig_anyOrder_reversed :
    ofConfig (optioned readable) = .ok opened ∧
      ofConfig (optioned (reversed readable)) = .ok opened ∧
      ofConfig (optioned unreadable) =
        .error (.config (.unreadable .pipesAsConcat "TRUE" .notTruthValue)) ∧
      ∃ fault, ofConfig (optioned (reversed unreadable)) = .error (.config fault) := by
  have hopened : ofConfig (optioned readable) = .ok opened := by decide +kernel
  have hrefused : ofConfig (optioned unreadable) =
      .error (.config (.unreadable .pipesAsConcat "TRUE" .notTruthValue)) := by decide +kernel
  obtain ⟨hreadable, -⟩ := ofConfig_anyOrder (optioned readable)
  obtain ⟨hunreadable, -⟩ := ofConfig_anyOrder (optioned unreadable)
  have hsame := hreadable (reversed readable) (List.reverse_perm readable.entries)
  have hfault := hunreadable (reversed unreadable) (List.reverse_perm unreadable.entries)
  rw [hopened] at hsame
  rw [hrefused] at hfault
  exact ⟨hopened, hsame.eq_ok, hrefused, hfault.eq_error⟩

end ConnectOptions

end SqlBridge
