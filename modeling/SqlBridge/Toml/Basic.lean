/-!
# TOML tables

A TOML document is a table. It is filled from the top: a header opens a table, dotted keys
open tables on their way, and a table that was closed is not opened again. So every table
remembers how it came to be (`TomlOrigin`), and `descend` is the one place where that decides
whether a path may be followed: a dotted key does not lead into a table that has a header, and
nothing leads into a table that was written in braces.

Numbers with a fraction are kept as they are written. A number may be well formed and yet
spell none that can be held; it is refused only where it is read (`isReadable`), so that a
place that nobody reads may hold one.
-/

namespace SqlBridge

/-- How a table came to be. -/
inductive TomlOrigin where
  /-- On the way to the table of a header. -/
  | passed
  /-- By a header of its own. -/
  | header
  /-- On the way of a dotted key. -/
  | dotted
  /-- Written in braces. -/
  | braces
  deriving DecidableEq, Repr

/-- A value of a TOML document. -/
inductive Toml where
  | string (s : String)
  | integer (n : Int)
  /-- A number with a fraction or an exponent, as written but for a plus sign. -/
  | float (written : String)
  /-- A number too large to be held, or one whose digits are none. -/
  | unreadable
  | bool (b : Bool)
  /-- A date, a time, or both. -/
  | moment (text : String)
  /-- An array; `ofTables` when its items come from headers in double brackets. -/
  | array (ofTables : Bool) (items : List Toml)
  | table (origin : TomlOrigin) (entries : List (String × Toml))
  deriving Repr, Inhabited

namespace Toml

mutual
/-- Every number within the value can be held. -/
def isReadable : Toml → Bool
  | .unreadable => false
  | .array _ items => areReadable items
  | .table _ entries => entriesAreReadable entries
  | _ => true

/-- Every number within the values can be held. -/
def areReadable : List Toml → Bool
  | [] => true
  | item :: rest => item.isReadable && areReadable rest

/-- Every number within the entries can be held. -/
def entriesAreReadable : List (String × Toml) → Bool
  | [] => true
  | (_, value) :: rest => value.isReadable && entriesAreReadable rest
end

/-- The entries of a table while it is filled. -/
abbrev Entries := List (String × Toml)

/-- Puts another value in the place of a key. -/
def replace (key : String) (value : Toml) : Entries → Entries
  | [] => []
  | (k, v) :: rest => if k = key then (k, value) :: rest else (k, v) :: replace key value rest

/-- Follows a path into tables, opening those that are missing, and changes the last one. An
array of tables stands for its last item. -/
def descend (byDots : Bool) (change : TomlOrigin → Entries → Option (TomlOrigin × Entries)) :
    List String → TomlOrigin → Entries → Option (TomlOrigin × Entries)
  | [], origin, entries => change origin entries
  | key :: path, origin, entries =>
    match entries.lookup key with
    | none =>
      (descend byDots change path (if byDots then .dotted else .passed) []).map fun t =>
        (origin, entries ++ [(key, .table t.1 t.2)])
    | some (.table inner innerEntries) =>
      if inner = .braces ∨ (byDots ∧ inner = .header) then none
      else
        (descend byDots change path inner innerEntries).map fun t =>
          (origin, replace key (.table t.1 t.2) entries)
    | some (.array true items) =>
      match items.getLast? with
      | some (.table inner innerEntries) =>
        (descend byDots change path inner innerEntries).map fun t =>
          (origin, replace key (.array true (items.dropLast ++ [.table t.1 t.2])) entries)
      | _ => none
    | some _ => none

/-- Adds an entry below a path of dotted keys. -/
def addEntry (path : List String) (key : String) (value : Toml) :
    TomlOrigin → Entries → Option (TomlOrigin × Entries) :=
  descend true
    (fun origin entries =>
      if path ≠ [] ∧ origin ≠ .dotted then none
      else if (entries.lookup key).isSome then none
      else some (origin, entries ++ [(key, value)]))
    path

/-- Opens the table of a header. -/
def openTable (path : List String) (key : String) :
    TomlOrigin → Entries → Option (TomlOrigin × Entries) :=
  descend false
    (fun origin entries =>
      match entries.lookup key with
      | none => some (origin, entries ++ [(key, .table .header [])])
      | some (.table .passed inner) => some (origin, replace key (.table .header inner) entries)
      | some _ => none)
    path

/-- Opens another table of a header in double brackets. -/
def openItem (path : List String) (key : String) :
    TomlOrigin → Entries → Option (TomlOrigin × Entries) :=
  descend false
    (fun origin entries =>
      match entries.lookup key with
      | none => some (origin, entries ++ [(key, .array true [.table .header []])])
      | some (.array true items) =>
        some (origin, replace key (.array true (items ++ [.table .header []])) entries)
      | some _ => none)
    path

/-- Adds an entry to the table that the last header opened. -/
def addUnder (current : List String) (path : List String) (key : String) (value : Toml) :
    TomlOrigin → Entries → Option (TomlOrigin × Entries) :=
  descend false (addEntry path key value) current

end Toml

end SqlBridge
