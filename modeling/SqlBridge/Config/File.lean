import SqlBridge.Config
import SqlBridge.Toml.Parser

/-!
# Settings in files

Settings are read from a TOML document with a table `connection`, and then have to be such that a
connection can be opened with them. The fields of a record may also be given as an array, in
their order. A date or a time in the place of a table counts as a table with one entry, its
text under `momentKey`.

Entries that nothing asks for are passed over, but their numbers have to be readable. Items
behind the last field of an array are not looked at.

A file with settings holds such a document. What keeps a file from being read is a `FileFault`.

Of the file system only `FileTree.system` is known, the part that every system has: what its
paths lead to is read or refused, and every other name names nothing. A path is followed name by
name, and the first name at which it fails decides the fault.
-/

namespace SqlBridge

/-! ## Settings in TOML -/

namespace Toml

/-- A string. -/
def string? : Toml → Option String
  | .string s => some s
  | _ => none

/-- A truth value. -/
def bool? : Toml → Option Bool
  | .bool b => some b
  | _ => none

/-- A port. -/
def port? : Toml → Option UInt16
  | .integer n => if 0 ≤ n ∧ n < UInt16.size then some (UInt16.ofNat n.toNat) else none
  | _ => none

/-- The values that stand for the named fields of a record. -/
def fields? (names : List String) : Toml → Option (List (Option Toml))
  | .table _ entries =>
    if entriesAreReadable entries then some (names.map fun name => entries.lookup name)
    else none
  | .array _ items => some ((List.range names.length).map fun i => items[i]?)
  | _ => none

/-- The name under which a date or a time stands when a table is wanted. -/
def momentKey : String := "$__toml_private_datetime"

/-- The options of the backend. -/
def options? : Toml → Option (Named String)
  | .moment written => some (Named.ofList [(momentKey, written)])
  | .table _ entries =>
    (entries.mapM fun (e : String × Toml) => e.2.string?.map fun s => (e.1, s)).map Named.ofList
  | _ => none

end Toml

/-- The connection settings of a value. -/
def ConnectionConfig.ofToml? (d : Toml) : Option ConnectionConfig :=
  match d.fields? ["host", "username", "password", "port", "database", "options"] with
  | some [some host, some username, password, port, some database, options] => do
    let host ← host.string?
    let username ← username.string?
    let password ← optionalField Toml.string? "" password
    let port ← optionalField Toml.port? ConnectionConfig.defaultPort port
    let database ← database.string?
    let options ← optionalField Toml.options? .empty options
    return ⟨host, username, password, port, database, options⟩
  | _ => none

/-- The settings of a table. -/
def AdapterConfig.ofEntries? (entries : Toml.Entries) : Option AdapterConfig :=
  match entries.lookup "connection" with
  | some connection => do
    guard (Toml.entriesAreReadable (entries.filter fun e => e.1 != "connection"))
    let connection ← ConnectionConfig.ofToml? connection
    let logQueries ← optionalField Toml.bool? false (entries.lookup "log_queries")
    return ⟨connection, logQueries⟩
  | none => none

/-- The settings of a TOML text, if a connection can be opened with them. -/
def AdapterConfig.ofTomlText (s : String) : Except Error AdapterConfig :=
  match (Toml.ofText? s).bind AdapterConfig.ofEntries? with
  | some c => (fun _ => c) <$> c.connection.validate
  | none => .error .toml

/-! ## Files -/

/-- Why a file cannot be read. -/
inductive FileFault where
  /-- Nothing has the path. -/
  | missing
  /-- The path goes on behind a file. -/
  | notDirectory
  /-- The path leads to a directory. -/
  | directory
  /-- The path, or a name on it, has too many bytes. -/
  | longName
  /-- The path holds the character that ends it. -/
  | nulByte
  /-- The bytes of the file are no UTF-8 text. -/
  | notText
  deriving DecidableEq, Repr

/-- The wording of the fault. -/
def FileFault.message : FileFault → String
  | .missing => "No such file or directory (os error 2)"
  | .notDirectory => "Not a directory (os error 20)"
  | .directory => "Is a directory (os error 21)"
  | .longName => "File name too long (os error 36)"
  | .nulByte => "file name contained an unexpected NUL byte"
  | .notText => "stream did not contain valid UTF-8"

/-- A part of a file system. -/
inductive FileTree where
  /-- A directory with its entries. -/
  | directory (entries : List (String × FileTree))
  /-- A file with a text, or with how its text begins. -/
  | text (content : String)
  /-- A file whose bytes are no text. -/
  | program

namespace FileTree

/-- Directories of which nothing further is known. -/
def directories (names : List String) : List (String × FileTree) :=
  names.map fun name => (name, .directory [])

/-- Programs with these names. -/
def programs (names : List String) : List (String × FileTree) :=
  names.map fun name => (name, .program)

/-- What every system has below its root. -/
def system : List (String × FileTree) :=
  let tools := programs ["bash", "cat", "cp", "echo", "env", "false", "ls", "sh", "true"]
  let process := .directory
    (directories ["fd", "ns", "task"] ++
      [("cwd", .directory []), ("root", .directory []), ("exe", .program),
       ("status", .text "Name:\t"), ("maps", .text "0")])
  let shared := directories ["bin", "etc", "include", "lib", "sbin", "share", "src"]
  directories
      ["boot", "home", "lib", "media", "mnt", "opt", "root", "run", "sbin", "srv", "sys", "tmp"] ++
    [("bin", .directory tools),
     ("dev", .directory (("null", .text "") :: directories ["fd", "pts", "shm"])),
     ("etc", .directory
       [("fstab", .text "# "), ("group", .text "root:x:0:"), ("hostname", .text "localhost"),
        ("hosts", .text "127.0.0.1\tlocalhost"), ("os-release", .text "ID=linux"),
        ("passwd", .text "root:x:0:0:root:/root:"), ("resolv.conf", .text "nameserver "),
        ("shadow", .text "root:*:")]),
     ("proc", .directory
       (directories ["net", "sys"] ++
         [("1", process), ("self", process), ("cpuinfo", .text "processor\t: 0"),
          ("meminfo", .text "MemTotal:"), ("mounts", .text "overlay / "),
          ("version", .text "Linux version ")])),
     ("usr", .directory
       (directories ["include", "lib", "sbin", "share", "src"] ++
         [("bin", .directory tools), ("local", .directory shared)])),
     ("var", .directory
       (directories ["cache", "lib", "local", "lock", "log", "mail", "opt", "run", "spool",
         "tmp"]))]

/-- The greatest length of a path in bytes. -/
def longestPath : Nat := 4095

/-- The greatest length of a name on a path in bytes. -/
def longestName : Nat := 255

/-- Follows names from the directory on top of a stack, which lies in the others; an empty stack
is a directory of which nothing is known. The result is the text of the file. -/
def follow : List (List (String × FileTree)) → List String → Except FileFault String
  | _, [] => .error .directory
  | stack, name :: rest =>
    if name = "" ∨ name = "." then follow stack rest
    else if name = ".." then
      match stack with
      | _ :: above :: more => follow (above :: more) rest
      | _ => follow stack rest
    else if longestName < name.utf8ByteSize then .error .longName
    else
      match stack.head?.bind fun entries => entries.lookup name with
      | none => .error .missing
      | some (.directory entries) => follow (entries :: stack) rest
      | some (.text content) => if rest = [] then .ok content else .error .notDirectory
      | some .program => .error (if rest = [] then .notText else .notDirectory)

/-- The text of the file that a path leads to. -/
def read (path : String) : Except FileFault String :=
  if path.toList.contains '\x00' then .error .nulByte
  else if longestPath < path.utf8ByteSize then .error .longName
  else if path.isEmpty then .error .missing
  else follow (if path.toList.head? = some '/' then [system] else []) (path.splitOn "/")

end FileTree

/-- The report of a file that cannot be read. -/
def AdapterConfig.unreadable (path : String) (fault : FileFault) : Error :=
  .config (.unreadableFile path fault.message)

/-- The settings of a file with these bytes. -/
def AdapterConfig.ofFile (path : String) (content : List UInt8) : Except Error AdapterConfig :=
  match String.fromUTF8? (ByteArray.mk content.toArray) with
  | some s => AdapterConfig.ofTomlText s
  | none => .error (AdapterConfig.unreadable path .notText)

/-- The settings of the file that a path leads to. -/
def AdapterConfig.ofPath (path : String) : Except Error AdapterConfig :=
  match FileTree.read path with
  | .ok s => AdapterConfig.ofTomlText s
  | .error fault => .error (AdapterConfig.unreadable path fault)

end SqlBridge
