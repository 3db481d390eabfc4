import SqlBridge.Config
import SqlBridge.Json.Fields

/-!
# Settings in JSON

Settings are read as they stand; whether a connection can be opened with them is not asked.
The password, the port, the options and the choice to log may be left out.
-/

namespace SqlBridge

/-- An option of the backend. -/
def optionOfMember? (m : Option String × JsonDocument) : Option (String × String) :=
  match m.1, m.2.string? with
  | some name, some value => some (name, value)
  | _, _ => none

/-- The options of the backend. -/
def optionsOfDocument? (budget : Nat) (d : JsonDocument) : Option (Named String) :=
  match d with
  | .object members =>
    (JsonDocument.enter budget).bind fun _ =>
      (members.mapM optionOfMember?).map Named.ofList
  | _ => none

/-- A port. -/
def portOfDocument? (d : JsonDocument) : Option UInt16 :=
  (d.intBetween? 0 0xFFFF).map fun n => UInt16.ofNat n.toNat

/-- The connection settings of a document. -/
def ConnectionConfig.ofDocument? (budget : Nat) (d : JsonDocument) : Option ConnectionConfig :=
  match d.fieldsOf ["host", "username", "password", "port", "database", "options"] budget with
  | some ([some host, some username, password, port, some database, options], inner) => do
    let host ← host.string?
    let username ← username.string?
    let password ← optionalField JsonDocument.string? "" password
    let port ← optionalField portOfDocument? ConnectionConfig.defaultPort port
    let database ← database.string?
    let options ← optionalField (optionsOfDocument? inner) .empty options
    return ⟨host, username, password, port, database, options⟩
  | _ => none

/-- The settings of a document. -/
def AdapterConfig.ofDocument? (budget : Nat) (d : JsonDocument) : Option AdapterConfig :=
  match d.fieldsOf ["connection", "log_queries"] budget with
  | some ([some connection, logQueries], inner) => do
    let connection ← ConnectionConfig.ofDocument? inner connection
    let logQueries ← optionalField JsonDocument.bool? false logQueries
    return ⟨connection, logQueries⟩
  | _ => none

/-- The settings of a JSON text. -/
def AdapterConfig.ofJsonText (s : String) : Except Error AdapterConfig :=
  match (JsonDocument.ofText? s).bind (AdapterConfig.ofDocument? JsonDocument.nesting) with
  | some c => .ok c
  | none => .error .json

end SqlBridge
