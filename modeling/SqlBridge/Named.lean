/-!
# Values by name

A list of named values in which each name stands once, in the order in which the names were
first given. Giving a name a second value replaces the first one in its place.
-/

namespace SqlBridge

/-- Values by name, each name once, in the order of their first mention. -/
structure Named (α : Type) where
  entries : List (String × α)
  nodup : (entries.map Prod.fst).Nodup

namespace Named

variable {α : Type}

/-- No values. -/
def empty : Named α := ⟨[], .nil⟩

instance : Inhabited (Named α) := ⟨empty⟩

/-- Gives a name its value, in its old place or at the end. -/
def put (name : String) (v : α) : List (String × α) → List (String × α)
  | [] => [(name, v)]
  | (n, w) :: rest => if n = name then (n, v) :: rest else (n, w) :: put name v rest

/-- The names are the old ones and the one that was given its value. -/
theorem mem_names_put {name x : String} {v : α} {entries : List (String × α)} :
    x ∈ (put name v entries).map Prod.fst ↔ x = name ∨ x ∈ entries.map Prod.fst := by
  induction entries with
  | nil => simp [put]
  | cons e rest ih =>
    obtain ⟨n, w⟩ := e
    by_cases h : n = name
    · simp [put, h]
    · simp only [put, h, if_false, List.map_cons, List.mem_cons, ih]
      grind

/-- No name stands twice. -/
theorem nodup_put {name : String} {v : α} {entries : List (String × α)}
    (h : (entries.map Prod.fst).Nodup) : ((put name v entries).map Prod.fst).Nodup := by
  induction entries with
  | nil => simp [put]
  | cons e rest ih =>
    obtain ⟨n, w⟩ := e
    simp only [List.map_cons, List.nodup_cons] at h
    by_cases hn : n = name
    · simp only [put, hn, if_true, List.map_cons, List.nodup_cons]
      exact ⟨hn ▸ h.1, h.2⟩
    · simp only [put, hn, if_false, List.map_cons, List.nodup_cons]
      exact ⟨fun hm => (mem_names_put.1 hm).elim hn h.1, ih h.2⟩

/-- Gives a name its value, in its old place or at the end. -/
def insert (m : Named α) (name : String) (v : α) : Named α :=
  ⟨put name v m.entries, nodup_put m.nodup⟩

/-- The values given one after the other. -/
def ofList (l : List (String × α)) : Named α :=
  l.foldl (fun m e => m.insert e.1 e.2) empty

/-- There are no values. -/
def isEmpty (m : Named α) : Bool := m.entries.isEmpty

/-- The names in order. -/
def names (m : Named α) : List String := m.entries.map Prod.fst

/-- The values in order. -/
def values (m : Named α) : List α := m.entries.map Prod.snd

@[simp] theorem entries_empty : (empty : Named α).entries = [] := rfl

@[simp] theorem entries_insert (m : Named α) (name : String) (v : α) :
    (m.insert name v).entries = put name v m.entries := rfl

end Named

end SqlBridge
