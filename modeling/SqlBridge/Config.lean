import SqlBridge.Named
import SqlBridge.Error
import SqlBridge.Text.Characters

/-!
# Connection settings

What it takes to open a session: where the server is, who connects, which database, and
options for the backend by name. Host, user and database have to be given and the port must
not be zero. A password is never shown: in the URL and in the printed settings, stars stand
for it.
-/

namespace SqlBridge

/-- A setting of a document that may be left out. -/
def optionalField {δ α : Type} (read : δ → Option α) (absent : α) : Option δ → Option α
  | some d => read d
  | none => some absent

/-- The settings of a connection. -/
structure ConnectionConfig where
  host : String
  username : String
  password : String
  port : UInt16
  database : String
  /-- Options of the backend by name. -/
  options : Named String

/-- The settings of a connection and of what is logged on it. -/
structure AdapterConfig where
  connection : ConnectionConfig
  /-- Every statement of a user is logged with its time. -/
  logQueries : Bool

namespace ConnectionConfig

/-- The port that is taken when none is given. -/
def defaultPort : UInt16 := 3306

/-- Settings without a password, at the default port, without options. -/
def ofNames (host username database : String) : ConnectionConfig :=
  ⟨host, username, "", defaultPort, database, .empty⟩

/-- What is shown for a password. -/
def maskedPassword (c : ConnectionConfig) : String := if c.password.isEmpty then "" else "****"

/-- The address of the server as it may be shown. -/
def url (c : ConnectionConfig) : String :=
  let credentials := if c.password.isEmpty then c.username else c.username ++ ":****"
  "mysql://" ++ credentials ++ "@" ++ c.host ++ ":" ++ toString c.port.toNat ++ "/" ++ c.database

/-- Refuses settings that no connection can be opened with; the first fault is reported. -/
def validate (c : ConnectionConfig) : Except Error Unit :=
  if Text.isAllBlank c.host then .error (.config (.blank .host))
  else if Text.isAllBlank c.username then .error (.config (.blank .username))
  else if Text.isAllBlank c.database then .error (.config (.blank .database))
  else if c.port = 0 then .error (.config .zeroPort)
  else .ok ()

/-- One option as it is printed. -/
def optionDescription (o : String × String) : String := Text.quote o.1 ++ ": " ++ Text.quote o.2

/-- The settings as they are printed, the options in their order. -/
def description (c : ConnectionConfig) : String :=
  "ConnectionConfig \x7b host: " ++ Text.quote c.host ++
    ", username: " ++ Text.quote c.username ++
    ", password: " ++ Text.quote c.maskedPassword ++
    ", port: " ++ toString c.port.toNat ++
    ", database: " ++ Text.quote c.database ++
    ", options: \x7b" ++ ", ".intercalate (c.options.entries.map optionDescription) ++ "\x7d \x7d"

end ConnectionConfig

/-! ## Building settings step by step -/

/-- Settings of which some may still be missing. -/
structure ConfigBuilder where
  host : Option String
  username : Option String
  password : String
  port : UInt16
  database : Option String
  options : Named String

namespace ConfigBuilder

/-- Nothing is set yet but the port. -/
def empty : ConfigBuilder := ⟨none, none, "", ConnectionConfig.defaultPort, none, .empty⟩

/-- One step. -/
inductive Step where
  | host (s : String)
  | username (s : String)
  | password (s : String)
  | port (n : UInt16)
  | database (s : String)
  | option (name value : String)
  deriving DecidableEq, Repr

/-- Applies a step. -/
def apply (b : ConfigBuilder) : Step → ConfigBuilder
  | .host s => { b with host := some s }
  | .username s => { b with username := some s }
  | .password s => { b with password := s }
  | .port n => { b with port := n }
  | .database s => { b with database := some s }
  | .option name value =>
    { b with options := b.options.insert name value }

/-- A setting that has to be there. -/
def require (setting : RequiredSetting) : Option String → Except Error String
  | some s => .ok s
  | none => .error (.config (.missing setting))

/-- The settings, if nothing is missing and they are valid. -/
def build (b : ConfigBuilder) : Except Error ConnectionConfig := do
  let host ← require .host b.host
  let username ← require .username b.username
  let database ← require .database b.database
  let config : ConnectionConfig := ⟨host, username, b.password, b.port, database, b.options⟩
  config.validate
  return config

/-- The settings after all steps. -/
def ofSteps (steps : List Step) : Except Error ConnectionConfig :=
  (steps.foldl apply empty).build

end ConfigBuilder

end SqlBridge
