import CheckedQuery.Json.Members
import CheckedQuery.Keyed

/-!
# Entries by key

Laws of declarations by key and of members of an object that hold for every kind
of value: which entries a list of arrivals leaves, and which value a stack of
members shows at a key.
-/

namespace CheckedQuery

namespace Keyed

variable {α β : Type}

@[ext] theorem ext {left right : Keyed α} (same : left.entries = right.entries) :
    left = right := by
  cases left
  cases right
  simpa using same

private theorem put_of_absent {key : String} (value : α) {entries : List (String × α)}
    (absent : key ∉ entries.map Prod.fst) :
    put key value entries = entries ++ [(key, value)] := by
  induction entries with
  | nil => rfl
  | cons entry rest induction =>
      obtain ⟨found, old⟩ := entry
      simp only [List.map_cons, List.mem_cons, not_or] at absent
      have other : ¬found = key := fun equality => absent.1 equality.symm
      simp [put, other, induction absent.2]

private theorem mem_of_mem_put {key : String} {value : α} {entries : List (String × α)}
    {entry : String × α} (membership : entry ∈ put key value entries) :
    entry = (key, value) ∨ entry ∈ entries := by
  induction entries with
  | nil => simpa [put] using membership
  | cons first rest induction =>
      obtain ⟨found, old⟩ := first
      by_cases same : found = key
      · simp only [put, same, if_true, List.mem_cons] at membership
        rcases membership with new | later
        · exact .inl new
        · exact .inr (List.mem_cons_of_mem _ later)
      · simp only [put, same, if_false, List.mem_cons] at membership
        rcases membership with first | later
        · exact .inr (first ▸ List.mem_cons_self)
        · rcases induction later with new | old
          · exact .inl new
          · exact .inr (List.mem_cons_of_mem _ old)

private theorem put_map (change : String → α → β) (key : String) (value : α)
    (entries : List (String × α)) :
    put key (change key value) (entries.map fun entry => (entry.1, change entry.1 entry.2)) =
      (put key value entries).map fun entry => (entry.1, change entry.1 entry.2) := by
  induction entries with
  | nil => rfl
  | cons entry rest induction =>
      obtain ⟨found, old⟩ := entry
      by_cases same : found = key
      · simp [put, same]
      · simp [put, same, induction]

theorem ofList_entries_of_nodup {arrivals : List (String × α)}
    (distinct : (arrivals.map Prod.fst).Nodup) : (ofList arrivals).entries = arrivals := by
  suffices every : ∀ (keyed : Keyed α) (arrivals : List (String × α)),
      ((keyed.entries ++ arrivals).map Prod.fst).Nodup →
        (arrivals.foldl (fun keyed arrival => keyed.insert arrival.1 arrival.2) keyed).entries =
          keyed.entries ++ arrivals from
    every empty arrivals (by simpa [empty] using distinct)
  intro keyed arrivals
  induction arrivals generalizing keyed with
  | nil => simp
  | cons arrival arrivals induction =>
      intro distinct
      have absent : arrival.1 ∉ keyed.entries.map Prod.fst := by
        rw [List.map_append, List.nodup_append] at distinct
        intro membership
        exact distinct.2.2 _ membership _ (by simp) rfl
      have inserted : (keyed.insert arrival.1 arrival.2).entries = keyed.entries ++ [arrival] :=
        put_of_absent arrival.2 absent
      rw [List.foldl_cons, induction _ (by simpa [inserted] using distinct), inserted]
      simp

theorem mem_of_mem_ofList {arrivals : List (String × α)} {entry : String × α}
    (membership : entry ∈ (ofList arrivals).entries) : entry ∈ arrivals := by
  suffices every : ∀ (keyed : Keyed α) (arrivals : List (String × α)),
      entry ∈ (arrivals.foldl (fun keyed arrival => keyed.insert arrival.1 arrival.2)
        keyed).entries → entry ∈ keyed.entries ∨ entry ∈ arrivals by
    rcases every empty arrivals membership with none | found
    · cases none
    · exact found
  intro keyed arrivals
  induction arrivals generalizing keyed with
  | nil => exact .inl
  | cons arrival arrivals induction =>
      intro membership
      rcases induction _ membership with early | late
      · rcases mem_of_mem_put early with new | old
        · exact .inr (new ▸ List.mem_cons_self)
        · exact .inl old
      · exact .inr (List.mem_cons_of_mem _ late)

theorem mem_keys_ofList_iff {arrivals : List (String × α)} {key : String} :
    key ∈ (ofList arrivals).keys ↔ key ∈ arrivals.map Prod.fst := by
  suffices every : ∀ (keyed : Keyed α) (arrivals : List (String × α)),
      key ∈ (arrivals.foldl (fun keyed arrival => keyed.insert arrival.1 arrival.2)
        keyed).keys ↔ key ∈ keyed.keys ∨ key ∈ arrivals.map Prod.fst by
    have all := every empty arrivals
    simp only [keys, empty, List.map_nil, List.not_mem_nil, false_or] at all
    exact all
  intro keyed arrivals
  induction arrivals generalizing keyed with
  | nil => simp
  | cons arrival arrivals induction =>
      rw [List.foldl_cons, induction, keys_insert]
      split
      · next present =>
          simp only [List.map_cons, List.mem_cons]
          constructor
          · rintro (early | late)
            · exact .inl early
            · exact .inr (.inr late)
          · rintro (early | rfl | late)
            · exact .inl early
            · exact .inl present
            · exact .inr late
      · simp [or_assoc]

/-- Changing the values before or after they are put together is the same. -/
theorem ofList_map (change : String → α → β) (arrivals : List (String × α)) :
    ofList (arrivals.map fun arrival => (arrival.1, change arrival.1 arrival.2)) =
      (ofList arrivals).map change := by
  suffices every : ∀ (keyed : Keyed α) (arrivals : List (String × α)),
      (arrivals.map fun arrival => (arrival.1, change arrival.1 arrival.2)).foldl
          (fun keyed arrival => keyed.insert arrival.1 arrival.2) (keyed.map change) =
        (arrivals.foldl (fun keyed arrival => keyed.insert arrival.1 arrival.2) keyed).map
          change from every empty arrivals
  intro keyed arrivals
  induction arrivals generalizing keyed with
  | nil => rfl
  | cons arrival arrivals induction =>
      have inserted : (keyed.map change).insert arrival.1 (change arrival.1 arrival.2) =
          (keyed.insert arrival.1 arrival.2).map change :=
        ext (put_map change arrival.1 arrival.2 keyed.entries)
      rw [List.map_cons, List.foldl_cons, List.foldl_cons, inserted, induction]

theorem mem_of_find? {key : String} {value : α} {entries : List (String × α)}
    (found : find? key entries = some value) : (key, value) ∈ entries := by
  induction entries with
  | nil => cases found
  | cons entry rest induction =>
      obtain ⟨name, old⟩ := entry
      by_cases same : name = key
      · simp only [find?, same, if_true, Option.some.injEq] at found
        simp [same, found]
      · simp only [find?, same, if_false] at found
        exact List.mem_cons_of_mem _ (induction found)

theorem find?_eq_none_iff {key : String} {entries : List (String × α)} :
    find? key entries = none ↔ key ∉ entries.map Prod.fst := by
  induction entries with
  | nil => simp [find?]
  | cons entry rest induction =>
      obtain ⟨name, old⟩ := entry
      by_cases same : name = key
      · simp [find?, same]
      · have other : ¬key = name := fun equality => same equality.symm
        simp [find?, same, other, induction]

theorem find?_of_mem {key : String} {value : α} {entries : List (String × α)}
    (distinct : (entries.map Prod.fst).Nodup) (membership : (key, value) ∈ entries) :
    find? key entries = some value := by
  induction entries with
  | nil => cases membership
  | cons entry rest induction =>
      obtain ⟨name, old⟩ := entry
      rw [List.map_cons, List.nodup_cons] at distinct
      rcases List.mem_cons.mp membership with first | later
      · cases first
        simp [find?]
      · have other : ¬name = key := by
          intro equality
          subst equality
          exact distinct.1 (List.mem_map.mpr ⟨(name, value), later, rfl⟩)
        simp [find?, other, induction distinct.2 later]

theorem get?_isSome_ofList_iff {arrivals : List (String × α)} {key : String} :
    ((ofList arrivals).get? key).isSome = true ↔ key ∈ arrivals.map Prod.fst := by
  rw [← mem_keys_ofList_iff, Option.isSome_iff_ne_none]
  exact (not_congr find?_eq_none_iff).trans Decidable.not_not

theorem find?_map (change : String → α → β) (key : String) (entries : List (String × α)) :
    find? key (entries.map fun entry => (entry.1, change entry.1 entry.2)) =
      (find? key entries).map (change key) := by
  induction entries with
  | nil => rfl
  | cons entry rest induction =>
      obtain ⟨name, old⟩ := entry
      by_cases same : name = key
      · simp [find?, same]
      · simp [find?, same, induction]

theorem find?_map_pair {γ : Type} (name : γ → String) (value : γ → α) (key : String)
    (items : List γ) :
    find? key (items.map fun item => (name item, value item)) =
      (items.find? fun item => name item = key).map value := by
  induction items with
  | nil => rfl
  | cons item items induction =>
      by_cases same : name item = key
      · simp [find?, same]
      · simp [find?, same, induction]

end Keyed

/-- A selection that keeps keys keeps them distinct. -/
theorem nodup_keys_filterMap {α β γ : Type} {key : α → γ} {selectedKey : β → γ}
    {select : α → Option β} (kept : ∀ item selected, select item = some selected →
      selectedKey selected = key item)
    {items : List α} (distinct : (items.map key).Nodup) :
    ((items.filterMap select).map selectedKey).Nodup := by
  refine List.Nodup.sublist ?_ distinct
  clear distinct
  induction items with
  | nil => exact .slnil
  | cons item items induction =>
      cases selection : select item with
      | none =>
          rw [List.filterMap_cons_none selection]
          exact .cons _ induction
      | some selected =>
          rw [List.filterMap_cons_some selection, List.map_cons, List.map_cons,
            kept item selected selection]
          exact .cons_cons _ induction

namespace Members

variable {α : Type}

/-- Members laid over each other, the later ones winning every key. -/
def stack (layers : List (Members α)) : Members α :=
  layers.foldl merge empty

@[simp] theorem get?_empty (name : String) : (empty : Members α).get? name = none :=
  rfl

@[simp] theorem merge_empty (members : Members α) : members.merge empty = members :=
  rfl

@[simp] theorem empty_merge (members : Members α) : empty.merge members = members := by
  refine MembersAbove.ext_get? fun name => ?_
  rw [get?_merge, get?_empty, Option.or_none]

@[simp] theorem merge_merge_self (members added : Members α) :
    (members.merge added).merge added = members.merge added := by
  refine MembersAbove.ext_get? fun name => ?_
  simp only [get?_merge, ← Option.or_assoc, Option.or_self]

private theorem get?_foldl_merge (layers : List (Members α)) (members : Members α)
    (name : String) :
    (layers.foldl merge members).get? name =
      (layers.reverse.findSome? fun layer => layer.get? name).or (members.get? name) := by
  induction layers generalizing members with
  | nil => rfl
  | cons layer layers induction =>
      rw [List.foldl_cons, induction, get?_merge, List.reverse_cons, List.findSome?_append]
      simp [Option.or_assoc]

theorem get?_stack (layers : List (Members α)) (name : String) :
    (stack layers).get? name = layers.reverse.findSome? fun layer => layer.get? name := by
  rw [stack, get?_foldl_merge, get?_empty, Option.or_none]

end Members

end CheckedQuery
