import SqlBridge.Json.Document

/-!
# Records in JSON documents

A record with named fields is read from an object or, its fields in order, from an array. An
object may hold other members besides, which are skipped unread, but none of its own fields
twice; an array may be shorter than the record and not longer. `fieldsOf` gives for each field
the document that stands for it, if there is one, together with what is left of the nesting
budget inside the record.
-/

namespace SqlBridge.JsonDocument

/-- What is left of a budget inside one more array or object. -/
def enter (budget : Nat) : Option Nat := if budget ≤ 1 then none else some (budget - 1)

/-- The values of all members with the key. -/
def membersNamed (key : String) (members : List (Option String × JsonDocument)) :
    List JsonDocument :=
  (members.filter fun m => m.1 == some key).map Prod.snd

/-- One field out of the members: absent, there once, or refused when repeated. -/
def fieldOf (members : List (Option String × JsonDocument)) (key : String) :
    Option (Option JsonDocument) :=
  match membersNamed key members with
  | [] => some none
  | [value] => some (some value)
  | _ => none

/-- The documents that stand for the named fields of a record. -/
def fieldsOf (names : List String) (budget : Nat) (d : JsonDocument) :
    Option (List (Option JsonDocument) × Nat) :=
  match d with
  | .object members =>
    (enter budget).bind fun inner =>
      if members.any (fun m => m.1.isNone) then none
      else (names.mapM (fieldOf members)).map fun fields => (fields, inner)
  | .array items =>
    (enter budget).bind fun inner =>
      if names.length < items.length then none
      else
        some (items.map some ++ List.replicate (names.length - items.length) none, inner)
  | _ => none

/-! ## Simple contents -/

/-- A string. -/
def string? : JsonDocument → Option String
  | .string s => s
  | _ => none

/-- A truth value. -/
def bool? : JsonDocument → Option Bool
  | .bool b => some b
  | _ => none

/-- A whole number that fits 64 bits. -/
def int? : JsonDocument → Option Int
  | .number l =>
    match l.value? with
    | some (.integer n _) => some n
    | _ => none
  | _ => none

/-- A whole number from `low` up to `high`. -/
def intBetween? (low high : Int) (d : JsonDocument) : Option Int :=
  d.int?.bind fun n => if low ≤ n ∧ n ≤ high then some n else none

/-- The null. -/
def isNull : JsonDocument → Bool
  | .null => true
  | _ => false

end SqlBridge.JsonDocument
