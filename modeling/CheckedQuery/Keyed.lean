/-!
# Entries in order of first arrival

Declarations by key: the shapes of an object, the entries of a projection, the
fields a query declares.  A key keeps the position at which it first arrived
and holds the value that arrived last.
-/

namespace CheckedQuery

/-- Entries with distinct keys, in a fixed order. -/
structure Keyed (α : Type) where
  entries : List (String × α)
  distinct : (entries.map Prod.fst).Nodup

namespace Keyed

variable {α β : Type}

/-- Replace the value at `key` where it stands, or append a new last entry. -/
def put (key : String) (value : α) : List (String × α) → List (String × α)
  | [] => [(key, value)]
  | (found, old) :: rest =>
      if found = key then (key, value) :: rest
      else (found, old) :: put key value rest

theorem keys_put (key : String) (value : α) (entries : List (String × α)) :
    (put key value entries).map Prod.fst =
      if key ∈ entries.map Prod.fst then entries.map Prod.fst
      else entries.map Prod.fst ++ [key] := by
  induction entries with
  | nil => simp [put]
  | cons entry rest induction =>
      obtain ⟨found, old⟩ := entry
      by_cases same : found = key
      · simp [put, same]
      · have other : ¬key = found := fun equality => same equality.symm
        by_cases present : key ∈ rest.map Prod.fst
        · simp [put, same, induction, present]
        · simp [put, same, other, induction, present]

theorem nodup_keys_put (key : String) (value : α) {entries : List (String × α)}
    (distinct : (entries.map Prod.fst).Nodup) :
    ((put key value entries).map Prod.fst).Nodup := by
  rw [keys_put]
  split
  · exact distinct
  · next absent =>
      refine List.nodup_append.mpr ⟨distinct, by simp, ?_⟩
      intro found membership last lastMembership equality
      rw [List.mem_singleton.mp lastMembership] at equality
      exact absent (equality ▸ membership)

def empty : Keyed α :=
  { entries := []
    distinct := List.nodup_nil }

def insert (keyed : Keyed α) (key : String) (value : α) : Keyed α :=
  { entries := put key value keyed.entries
    distinct := nodup_keys_put key value keyed.distinct }

def ofList (arrivals : List (String × α)) : Keyed α :=
  arrivals.foldl (fun keyed arrival => keyed.insert arrival.1 arrival.2) empty

def keys (keyed : Keyed α) : List String :=
  keyed.entries.map Prod.fst

def size (keyed : Keyed α) : Nat :=
  keyed.entries.length

def isEmpty (keyed : Keyed α) : Bool :=
  keyed.entries.isEmpty

def find? (key : String) : List (String × α) → Option α
  | [] => none
  | (found, value) :: rest => if found = key then some value else find? key rest

def get? (keyed : Keyed α) (key : String) : Option α :=
  find? key keyed.entries

/-- Change every value and no key. -/
def map (change : String → α → β) (keyed : Keyed α) : Keyed β :=
  { entries := keyed.entries.map (fun entry => (entry.1, change entry.1 entry.2))
    distinct := by simpa [List.map_map, Function.comp_def] using keyed.distinct }

theorem keys_insert (keyed : Keyed α) (key : String) (value : α) :
    (keyed.insert key value).keys =
      if key ∈ keyed.keys then keyed.keys else keyed.keys ++ [key] :=
  keys_put key value keyed.entries

end Keyed

end CheckedQuery
