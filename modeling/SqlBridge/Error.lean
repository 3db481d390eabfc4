import SqlBridge.Text.Numeral
import SqlBridge.Text.Characters

/-!
# Errors

Each kind of error says what went wrong as data; the wording is in `Error.message` and the
functions it calls. What a backend or the operating system reports is passed on as the text
that it is. Errors of the readers of JSON and TOML documents carry no text.

Only a lost session is transient: a fresh connection may help.
-/

namespace SqlBridge

/-- Why there is no connection to work with. -/
inductive ConnectionFault where
  /-- Nothing was ever opened. -/
  | neverOpened
  /-- There is no current connection. -/
  | noneActive
  /-- There are no settings yet to connect with again. -/
  | neverConnected
  /-- What somebody else reported. -/
  | reported (text : String)
  deriving DecidableEq, Repr

/-- Why a query cannot be built. -/
inductive QueryFault where
  /-- The text is no row limit. -/
  | badLimit (text : String)
  /-- A row without fields was to be written. -/
  | noFields (table : String)
  /-- A table without columns was to be created. -/
  | noColumns (table : String)
  /-- An index without columns was to be created. -/
  | noIndexColumns (table : String)
  /-- An index was to be removed of which neither name nor columns are known. -/
  | unnamedIndex
  /-- What somebody else reported. -/
  | reported (text : String)
  deriving DecidableEq, Repr

/-- Why a column cannot be defined. -/
inductive ColumnFault where
  | zeroLimit
  | zeroPrecision
  | scaleExceedsPrecision (scale precision : UInt32)
  /-- The suffix would end the statement. -/
  | suffixSeparator (suffix : String)
  /-- What somebody else reported. -/
  | reported (text : String)
  deriving DecidableEq, Repr

/-- The settings of a connection that have to be there. -/
inductive RequiredSetting where
  | host
  | username
  | database
  deriving DecidableEq, Repr

/-- The settings of a connection whose text has to be read. -/
inductive ReadSetting where
  | sslMode
  | statementCacheCapacity
  | pipesAsConcat
  deriving DecidableEq, Repr

/-- Why such a text cannot be read. -/
inductive SettingFault where
  /-- It is none of the known modes. -/
  | unknownMode (text : String)
  /-- It is no number. -/
  | notNumeral (fault : NumeralFault)
  /-- It is neither `true` nor `false`. -/
  | notTruthValue
  deriving DecidableEq, Repr

/-- What is wrong with a configuration. -/
inductive ConfigFault where
  | blank (setting : RequiredSetting)
  | zeroPort
  | missing (setting : RequiredSetting)
  | unreadable (setting : ReadSetting) (text : String) (fault : SettingFault)
  | unreadableFile (path reason : String)
  /-- What somebody else reported. -/
  | reported (text : String)
  deriving DecidableEq, Repr

/-- Everything that can go wrong. -/
inductive Error where
  | notConnected (fault : ConnectionFault)
  /-- The backend refused a connection. -/
  | connection (text : String)
  /-- The backend lost the session. -/
  | transientBackend (code : Option Nat) (text : String)
  /-- The backend refused a statement. -/
  | backend (code : Option Nat) (text : String)
  | unknownType (tag : String)
  | invalidQuery (fault : QueryFault)
  | invalidColumn (fault : ColumnFault)
  | config (fault : ConfigFault)
  | io (text : String)
  | json
  | toml
  deriving DecidableEq, Repr

/-! ## Wording -/

/-- The wording of the fault. -/
def ConnectionFault.message : ConnectionFault → String
  | .neverOpened => "No connection has been opened"
  | .noneActive => "No active database connection"
  | .neverConnected => "Cannot reconnect before the first connect"
  | .reported text => text

/-- The wording of the fault. -/
def QueryFault.message : QueryFault → String
  | .badLimit text => "Invalid limit '" ++ text ++ "'"
  | .noFields table => "No fields given for write to '" ++ table ++ "'"
  | .noColumns table => "Table '" ++ table ++ "' needs at least one column"
  | .noIndexColumns table => "Index on '" ++ table ++ "' needs at least one column"
  | .unnamedIndex => "Removing an index needs a name or its columns"
  | .reported text => text

/-- The wording of the fault. -/
def ColumnFault.message : ColumnFault → String
  | .zeroLimit => "Column limit must be greater than zero"
  | .zeroPrecision => "Column precision must be greater than zero"
  | .scaleExceedsPrecision scale precision =>
    "Column scale " ++ toString scale.toNat ++ " exceeds precision " ++ toString precision.toNat
  | .suffixSeparator suffix => "Column suffix may not contain ';': " ++ suffix
  | .reported text => text

/-- The name of the setting. -/
def RequiredSetting.name : RequiredSetting → String
  | .host => "host"
  | .username => "username"
  | .database => "database"

/-- The name of the setting. -/
def ReadSetting.name : ReadSetting → String
  | .sslMode => "ssl_mode"
  | .statementCacheCapacity => "statement_cache_capacity"
  | .pipesAsConcat => "pipes_as_concat"

/-- The wording of the fault. -/
def SettingFault.message : SettingFault → String
  | .unknownMode text =>
    "error with configuration: unknown value " ++ Text.quote text ++ " for `ssl_mode`"
  | .notNumeral fault => fault.message
  | .notTruthValue => "provided string was not `true` or `false`"

/-- The wording of the fault. -/
def ConfigFault.message : ConfigFault → String
  | .blank setting => setting.name ++ " must not be empty"
  | .zeroPort => "port must not be 0"
  | .missing setting => setting.name ++ " is required"
  | .unreadable setting text fault =>
    "Invalid " ++ setting.name ++ " '" ++ text ++ "': " ++ fault.message
  | .unreadableFile path reason => "Failed to read config file " ++ path ++ ": " ++ reason
  | .reported text => text

namespace Error

/-- The backend's number in brackets, if it gave one. -/
def codeText : Option Nat → String
  | some code => " (" ++ toString code ++ ")"
  | none => ""

/-- The wording of the error. -/
def message : Error → String
  | .notConnected fault => "Not connected: " ++ fault.message
  | .connection text => "Database connection error: " ++ text
  | .transientBackend code text => "Transient backend error" ++ codeText code ++ ": " ++ text
  | .backend code text => "Backend error" ++ codeText code ++ ": " ++ text
  | .unknownType tag => "Unknown column type: " ++ tag
  | .invalidQuery fault => "Invalid query: " ++ fault.message
  | .invalidColumn fault => "Invalid column definition: " ++ fault.message
  | .config fault => "Configuration error: " ++ fault.message
  | .io text => "IO error: " ++ text
  | .json => "JSON error"
  | .toml => "TOML error"

/-! ## Classification -/

/-- The session is lost and a fresh one may help. -/
def isTransient : Error → Bool
  | .transientBackend .. => true
  | _ => false

/-- An error is worth a second attempt when it is transient. -/
def isRetryable (e : Error) : Bool := e.isTransient

/-- The backend's number for the error. -/
def backendCode : Error → Option Nat
  | .transientBackend code _ => code
  | .backend code _ => code
  | _ => none

/-- A short identifier of the kind. -/
def identifier : Error → String
  | .notConnected _ => "NOT_CONNECTED"
  | .connection _ => "CONNECTION_ERROR"
  | .transientBackend .. => "TRANSIENT_BACKEND_ERROR"
  | .backend .. => "BACKEND_ERROR"
  | .unknownType _ => "UNKNOWN_TYPE"
  | .invalidQuery _ => "INVALID_QUERY"
  | .invalidColumn _ => "INVALID_COLUMN"
  | .config _ => "CONFIG_ERROR"
  | .io _ => "IO_ERROR"
  | .json => "JSON_ERROR"
  | .toml => "CONFIG_ERROR"

/-- The numbers by which a server says that the session is gone: gone away, lost during a
query, lost in the extended form, shut down, and closed for inactivity. -/
def transientCodes : List Nat := [2006, 2013, 2055, 1053, 4031]

/-- The number means that the session is gone. -/
def isTransientCode (code : Nat) : Bool := transientCodes.contains code

end Error

end SqlBridge
