import CheckedQuery.ConfigError
import CheckedQuery.Keyed
import CheckedQuery.Validator.Items

/-!
# Queries

A query is its text so far together with the validator of what that text
returns.  Growing the text with `extend` keeps the validator, because the shape of
the result stays; growing it with `chain` replaces the validator, and is refused
once there is one.
-/

namespace CheckedQuery

structure Query where
  text : String
  validator : Option Validator
  cardinality : Cardinality
  /-- Whether everything the query returns has to be validated. -/
  validationRequired : Bool
  /-- The fields that may be included as they are, if they are declared. -/
  knownFields : Option (Keyed Unit)

/-- What goes wrong between a query and its validated result. -/
inductive QueryError where
  | config (error : ConfigError)
  | data (report : Report)
  | transport (message : String)

def QueryError.message : QueryError → String
  | .config error => error.message
  | .data report => report.message
  | .transport message => "query transport failed: " ++ message

namespace Query

def start (validationRequired : Bool) : Query :=
  { text := ""
    validator := none
    cardinality := .one
    validationRequired := validationRequired
    knownFields := none }

/-- An empty query under the same requirement. -/
def subquery (query : Query) : Query :=
  start query.validationRequired

def withKnownFields (query : Query) (fields : List String) : Query :=
  { query with knownFields := some (.ofList (fields.map fun field => (field, ()))) }

def withCardinality (query : Query) (cardinality : Cardinality) : Query :=
  { query with cardinality := cardinality }

def mayInclude (query : Query) (field : String) : Bool :=
  match query.knownFields with
  | none => true
  | some fields => field ∈ fields.keys

/-- Grow the text and keep the validator. -/
def extend (query : Query) (text : String) : Query :=
  { query with text := query.text ++ text }

/-- Grow the text and replace validator and cardinality. -/
def chainAs (query : Query) (text : String) (validator : Option Validator)
    (cardinality : Cardinality) : Except ConfigError Query :=
  match query.validator with
  | some _ => .error (.chainAfterValidator text)
  | none =>
      .ok { query with
        text := query.text ++ text
        validator := validator
        cardinality := cardinality }

/-- Grow the text and replace the validator. -/
def chain (query : Query) (text : String) (validator : Option Validator) :
    Except ConfigError Query :=
  query.chainAs text validator query.cardinality

/-- The validated result that a raw one amounts to. -/
def parse (query : Query) (raw : Value) : Except QueryError Value :=
  match query.validator with
  | some validator =>
      match validator.validate raw with
      | .ok output => .ok output
      | .error report => .error (.data report)
  | none =>
      if query.validationRequired then .error (.config .validationRequired) else .ok raw

/-- Hand the text and its parameters to a store, and validate what comes back. -/
def run {m : Type → Type} [Monad m]
    (fetch : String → Members Value → m (Except String Value))
    (query : Query) (parameters : Members Value) : m (Except QueryError Value) := do
  match ← fetch query.text parameters with
  | .ok raw => return query.parse raw
  | .error message => return .error (.transport message)

end Query

end CheckedQuery
