/-!
# Members of an object

Members are kept in the order of their keys, compared by code point, and no key
occurs twice.  The order is part of the type, so members that answer every
look-up alike are equal.
-/

namespace CheckedQuery

/-- A key that may stand after `low`, or first when there is no `low`. -/
inductive Above : Option String → String → Prop where
  | first (key : String) : Above none key
  | after {low key : String} (less : low < key) : Above (some low) key

/-- Members whose keys increase and all lie above a bound. -/
inductive MembersAbove (α : Type) : Option String → Type where
  | nil {low : Option String} : MembersAbove α low
  | cons {low : Option String} (key : String) (above : Above low key) (value : α)
      (rest : MembersAbove α (some key)) : MembersAbove α low

/-- Members of an object, in the order of their keys. -/
abbrev Members (α : Type) : Type :=
  MembersAbove α none

namespace MembersAbove

variable {α : Type} {low : Option String}

def get? (name : String) {low : Option String} : MembersAbove α low → Option α
  | .nil => none
  | .cons key _ value rest => if key = name then some value else get? name rest

def insertAbove (key : String) (value : α) {low : Option String} (above : Above low key) :
    MembersAbove α low → MembersAbove α low
  | .nil => .cons key above value .nil
  | .cons found foundAbove old rest =>
      if before : key < found then
        .cons key above value (.cons found (.after before) old rest)
      else if after : found < key then
        .cons found foundAbove old (insertAbove key value (.after after) rest)
      else
        .cons found foundAbove value rest

def toList {low : Option String} : MembersAbove α low → List (String × α)
  | .nil => []
  | .cons key _ value rest => (key, value) :: toList rest

def size {low : Option String} : MembersAbove α low → Nat
  | .nil => 0
  | .cons _ _ _ rest => size rest + 1

private theorem eq_of_not_lt {left right : String}
    (notBefore : ¬left < right) (notAfter : ¬right < left) : left = right :=
  String.le_antisymm (String.not_lt.mp notAfter) (String.not_lt.mp notBefore)

private theorem ne_of_lt {left right : String} (less : left < right) : ¬left = right :=
  fun equality => String.lt_irrefl right (equality ▸ less)

/-- A name at or below the bound is no key. -/
theorem get?_eq_none_of_le {bound name : String} (le : ¬bound < name)
    (members : MembersAbove α (some bound)) : members.get? name = none := by
  suffices every : ∀ {low : Option String} (members : MembersAbove α low) (bound : String),
      low = some bound → ¬bound < name → members.get? name = none from
    every members bound rfl le
  intro low members
  induction members with
  | nil => intro _ _ _; rfl
  | cons key above value rest induction =>
      intro bound isBound le
      subst isBound
      cases above with
      | after less =>
          have notBelow : ¬key < name := fun keyLess => le (String.lt_trans less keyLess)
          have other : ¬key = name := fun equality => le (equality ▸ less)
          simp [get?, other, induction key rfl notBelow]

theorem get?_insertAbove {low : Option String} (key name : String) (value : α)
    (above : Above low key) (members : MembersAbove α low) :
    (members.insertAbove key value above).get? name =
      if key = name then some value else members.get? name := by
  induction members with
  | nil => simp [insertAbove, get?]
  | cons found foundAbove old rest induction =>
      by_cases before : key < found
      · simp [insertAbove, before, get?]
      · by_cases after : found < key
        · by_cases isFound : found = name
          · subst isFound
            have other : ¬key = found := fun equality => ne_of_lt after equality.symm
            simp [insertAbove, before, after, get?, other]
          · simp [insertAbove, before, after, get?, isFound, induction]
        · have same : key = found := eq_of_not_lt before after
          subst same
          by_cases wanted : key = name
          · subst wanted
            simp [insertAbove, get?]
          · simp [insertAbove, get?, wanted]

/-- Members that answer every look-up alike are the same members. -/
theorem ext_get? {low : Option String} {left right : MembersAbove α low}
    (alike : ∀ name, left.get? name = right.get? name) : left = right := by
  induction left with
  | nil =>
      cases right with
      | nil => rfl
      | cons key above value rest => simpa [get?] using alike key
  | cons key above value rest induction =>
      cases right with
      | nil => simpa [get?] using alike key
      | cons other otherAbove otherValue otherRest =>
          have same : key = other := by
            refine eq_of_not_lt (fun before => ?_) (fun after => ?_)
            · have absent := get?_eq_none_of_le
                (fun less => String.lt_irrefl key (String.lt_trans before less)) otherRest
              have different : ¬other = key := fun equality => ne_of_lt before equality.symm
              simpa [get?, different, absent] using alike key
            · have absent := get?_eq_none_of_le
                (fun less => String.lt_irrefl other (String.lt_trans after less)) rest
              have different : ¬key = other := fun equality => ne_of_lt after equality.symm
              simpa [get?, different, absent] using alike other
          subst same
          have sameValue : value = otherValue := by simpa [get?] using alike key
          subst sameValue
          have sameRest : rest = otherRest := by
            refine induction fun name => ?_
            by_cases isKey : key = name
            · subst isKey
              rw [get?_eq_none_of_le (String.lt_irrefl key) rest,
                get?_eq_none_of_le (String.lt_irrefl key) otherRest]
            · simpa [get?, isKey] using alike name
          subst sameRest
          rfl

end MembersAbove

namespace Members

variable {α : Type}

def empty : Members α :=
  .nil

def insert (members : Members α) (key : String) (value : α) : Members α :=
  members.insertAbove key value (.first key)

/-- Members from a list of arrivals; the last value given to a key stays. -/
def ofList (arrivals : List (String × α)) : Members α :=
  arrivals.foldl (fun members arrival => members.insert arrival.1 arrival.2) empty

/-- Add all of `added`, which wins every key that both have. -/
def merge (members added : Members α) : Members α :=
  added.toList.foldl (fun merged member => merged.insert member.1 member.2) members

theorem get?_insert (members : Members α) (key name : String) (value : α) :
    (members.insert key value).get? name =
      if key = name then some value else members.get? name :=
  MembersAbove.get?_insertAbove key name value (.first key) members

theorem get?_foldl_insert {low : Option String} (added : MembersAbove α low)
    (members : Members α) (name : String) :
    (added.toList.foldl (fun merged member => merged.insert member.1 member.2) members).get? name =
      (added.get? name).or (members.get? name) := by
  induction added generalizing members with
  | nil => rfl
  | cons key above value rest induction =>
      simp only [MembersAbove.toList, List.foldl_cons, MembersAbove.get?]
      rw [induction, get?_insert]
      by_cases isKey : key = name
      · subst isKey
        simp [MembersAbove.get?_eq_none_of_le (String.lt_irrefl key) rest]
      · simp [isKey]

theorem get?_merge (members added : Members α) (name : String) :
    (members.merge added).get? name = (added.get? name).or (members.get? name) :=
  get?_foldl_insert added members name

end Members

end CheckedQuery
