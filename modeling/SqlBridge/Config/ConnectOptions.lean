import SqlBridge.Config

/-!
# Options for opening a session

The options of the settings are taken over by name. Three of them are read: the mode of
encryption, the number of cached statements, and whether two bars concatenate. A value that
cannot be read is refused; an option that is not known is passed over. The options apply in
the order in which they are given, and as each changes a field of its own the order only
decides which of two unreadable values is reported.
-/

namespace SqlBridge

/-- How far a session is encrypted. -/
inductive SslMode where
  | disabled
  | preferred
  | required
  | verifyCa
  | verifyIdentity
  deriving DecidableEq, Repr

namespace SslMode

/-- The name by which a mode is shown. -/
def name : SslMode → String
  | disabled => "Disabled"
  | preferred => "Preferred"
  | required => "Required"
  | verifyCa => "VerifyCa"
  | verifyIdentity => "VerifyIdentity"

/-- The modes by the words for them, in lower case. -/
def words : List (String × SslMode) :=
  [("disabled", disabled), ("preferred", preferred), ("required", required),
    ("verify_ca", verifyCa), ("verify_identity", verifyIdentity)]

/-- The mode that a word in any case names. -/
def ofText? (s : String) : Option SslMode :=
  words.lookup (String.ofList (s.toList.map Char.toLower))

end SslMode

/-- What a session is opened with. -/
structure ConnectOptions where
  host : String
  port : UInt16
  username : String
  database : String
  /-- The password, unless it is empty. -/
  password : Option String
  charset : String
  collation : Option String
  socket : Option String
  sslMode : SslMode
  sslCa : Option String
  timezone : Option String
  statementCacheCapacity : UInt64
  pipesAsConcat : Bool
  deriving DecidableEq, Repr

namespace ConnectOptions

/-- The name of the driver that takes these options. -/
def driverName : String := "mysql"

/-- The options before those of the settings are applied. -/
def base (c : ConnectionConfig) : ConnectOptions :=
  { host := c.host
    port := c.port
    username := c.username
    database := c.database
    password := if c.password.isEmpty then none else some c.password
    charset := "utf8mb4"
    collation := none
    socket := none
    sslMode := .preferred
    sslCa := none
    timezone := some "+00:00"
    statementCacheCapacity := 100
    pipesAsConcat := true }

/-- A value that cannot be read. -/
def refuse {α : Type} (setting : ReadSetting) (value : String) (fault : SettingFault) :
    Except Error α :=
  .error (.config (.unreadable setting value fault))

/-- Applies one option. -/
def apply (o : ConnectOptions) (name value : String) : Except Error ConnectOptions :=
  match name with
  | "charset" => .ok { o with charset := value }
  | "collation" => .ok { o with collation := some value }
  | "timezone" => .ok { o with timezone := some value }
  | "socket" => .ok { o with socket := some value }
  | "ssl_ca" => .ok { o with sslCa := some value }
  | "ssl_mode" =>
    match SslMode.ofText? value with
    | some mode => .ok { o with sslMode := mode }
    | none => refuse .sslMode value (.unknownMode value)
  | "statement_cache_capacity" =>
    match Numeral.readNat UInt64.size value.toList with
    | .ok n => .ok { o with statementCacheCapacity := UInt64.ofNat n }
    | .error fault => refuse .statementCacheCapacity value (.notNumeral fault)
  | "pipes_as_concat" =>
    if value = "true" then .ok { o with pipesAsConcat := true }
    else if value = "false" then .ok { o with pipesAsConcat := false }
    else refuse .pipesAsConcat value .notTruthValue
  | _ => .ok o

/-- The options that open a session with these settings. -/
def ofConfig (c : ConnectionConfig) : Except Error ConnectOptions :=
  c.options.entries.foldlM (fun o entry => o.apply entry.1 entry.2) (base c)

/-- The options that open a session, after a check of the settings themselves. -/
def ofValidConfig (c : ConnectionConfig) : Except Error ConnectOptions := do
  c.validate
  ofConfig c

end ConnectOptions

end SqlBridge
