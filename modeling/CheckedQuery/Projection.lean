import CheckedQuery.Condition.Branch
import CheckedQuery.Query

/-!
# Projections

A projection declares the keys of a result, each with the fragment of the query
that it stands for or the validator of what comes back.  Two kinds of key are
reserved: one spreads all fields of the source underneath the named ones, and
the keys of conditional groups start with a mark.
-/

namespace CheckedQuery

mutual

/-- The declarations in the order in which they were made.  A key that is
declared again keeps its place and takes the later value. -/
inductive Projection where
  | declare (declarations : List (String × FieldValue))

/-- What a key can be declared as. -/
inductive FieldValue where
  | flag (truth : Bool)
  | path (path : String)
  | pathWith (path : String) (validator : Validator)
  | validator (validator : Validator)
  | query (query : Query)
  | conditional (group : ConditionalGroup)

/-- Projections under conditions, in the order in which they were declared. -/
inductive ConditionalGroup where
  | make (name : String) (branches : List (String × Projection))
      (policy : BranchPolicy) (exhaustive : Bool)

end

def spreadKey : String :=
  "..."

/-- What the key of a conditional group starts with. -/
def conditionalMark : String :=
  "[Conditional] "

namespace ConditionalGroup

/-- A group without branches, whose applicable branches are merged. -/
def merge (name : String) : ConditionalGroup :=
  .make name [] .mergeAll false

/-- A group without branches, of which the first applicable one is taken. -/
def select (name : String) : ConditionalGroup :=
  .make name [] .firstMatch false

def branches : ConditionalGroup → List (String × Projection)
  | .make _ branches _ _ => branches

def policy : ConditionalGroup → BranchPolicy
  | .make _ _ policy _ => policy

def isExhaustive : ConditionalGroup → Bool
  | .make _ _ _ exhaustive => exhaustive

def key : ConditionalGroup → String
  | .make name _ _ _ => conditionalMark ++ name

def branch (condition : String) (projection : Projection) : ConditionalGroup → ConditionalGroup
  | .make name branches policy exhaustive =>
      .make name (branches ++ [(condition, projection)]) policy exhaustive

def typeCondition (typeName : String) : String :=
  "_type == " ++ Text.quote typeName

def typeBranch (typeName : String) (projection : Projection) (group : ConditionalGroup) :
    ConditionalGroup :=
  group.branch (typeCondition typeName) projection

def exhaustive : ConditionalGroup → ConditionalGroup
  | .make name branches policy _ => .make name branches policy true

end ConditionalGroup

namespace Projection

def empty : Projection :=
  .declare []

def declarations : Projection → List (String × FieldValue)
  | .declare declarations => declarations

/-- The declarations in effect. -/
def entries (projection : Projection) : Keyed FieldValue :=
  .ofList projection.declarations

def field (projection : Projection) (key : String) (value : FieldValue) : Projection :=
  .declare (projection.declarations ++ [(key, value)])

def spread (projection : Projection) : Projection :=
  projection.field spreadKey (.flag true)

def spreadWith (projection : Projection) (validator : Validator) : Projection :=
  projection.field spreadKey (.validator validator)

def conditional (projection : Projection) (group : ConditionalGroup) : Projection :=
  projection.field group.key (.conditional group)

end Projection

/-- A declaration that its key allows. -/
inductive FieldSpec where
  | copied
  | path (path : String)
  | pathWith (path : String) (validator : Validator)
  | validator (validator : Validator)
  | nested (query : Query)
  | spread (validator : Option Validator)
  | conditional (group : ConditionalGroup)

namespace FieldSpec

def isCopied : FieldSpec → Bool
  | .copied => true
  | _ => false

def ofSpread? : FieldValue → Option FieldSpec
  | .flag true => some (.spread none)
  | .validator supplied => some (.spread (some supplied))
  | _ => none

def ofGroup? : FieldValue → Option FieldSpec
  | .conditional group => some (.conditional group)
  | _ => none

def ofNamed? : FieldValue → Option FieldSpec
  | .flag true => some .copied
  | .flag false => none
  | .path fragment => some (.path fragment)
  | .pathWith fragment supplied => some (.pathWith fragment supplied)
  | .validator supplied => some (.validator supplied)
  | .query query => some (.nested query)
  | .conditional _ => none

def isGroupKey (key : String) : Bool :=
  conditionalMark.toList.isPrefixOf key.toList

/-- Read a declaration by its key. -/
def classify (key : String) (value : FieldValue) : Except ConfigError FieldSpec :=
  let spec :=
    if key = spreadKey then ofSpread? value
    else if isGroupKey key then ofGroup? value
    else ofNamed? value
  match spec with
  | some spec => .ok spec
  | none => .error (.unexpectedProjectionValue key)

end FieldSpec

/-- An entry with a name of its own: the fragment of the query behind it and the
validator of what comes back. -/
structure NamedField where
  key : String
  fragment : String
  validator : Option Validator

namespace NamedField

/-- The named entry of a declaration, unless it is a spread or a group. -/
def ofSpec? (key : String) : FieldSpec → Option NamedField
  | .copied => some { key := key, fragment := key, validator := none }
  | .path path => some { key := key, fragment := path, validator := none }
  | .pathWith path validator =>
      some { key := key, fragment := path, validator := some validator }
  | .validator validator =>
      some { key := key, fragment := key, validator := some validator }
  | .nested query =>
      some { key := key, fragment := query.text, validator := query.validator }
  | .spread _ => none
  | .conditional _ => none

/-- A fragment that is its own key is written once. -/
def text (field : NamedField) : String :=
  if field.key = field.fragment then field.key
  else Text.quote field.key ++ ": " ++ field.fragment

end NamedField

end CheckedQuery
