import CheckedQuery.Query.Building

/-!
# Operations

Every way to make a query of another one, as data.  A list of operations is a
script that builds a query step by step.
-/

namespace CheckedQuery

inductive Operation where
  | star
  | filter (condition : String)
  | filterByType (types : List String)
  | order (fields : List (String × Direction))
  | slice (first last : Nat)
  | sliceOne (position : Nat)
  | dereference
  | field (path : String) (validator : Option Validator)
  | raw (text : String) (validator : Option Validator)
  | passthrough (text : String)
  | extend (text : String)
  | chain (text : String) (validator : Option Validator)
  | project (projection : Projection)
  | select (arms : List (String × Query)) (fallback : Option Query)
  | count
  | subquery
  | withKnownFields (fields : List String)
  | withCardinality (cardinality : Cardinality)

def Operation.apply (query : Query) : Operation → Except ConfigError Query
  | .star => .ok query.star
  | .filter condition => .ok (query.filter condition)
  | .filterByType types => .ok (query.filterByType types)
  | .order fields => .ok (query.order fields)
  | .slice first last => query.slice first last
  | .sliceOne position => query.sliceOne position
  | .dereference => query.dereference
  | .field path validator => query.field path validator
  | .raw text validator => query.raw text validator
  | .passthrough text => .ok (query.passthrough text)
  | .extend text => .ok (query.extend text)
  | .chain text validator => query.chain text validator
  | .project projection => query.project projection
  | .select arms fallback => query.select arms fallback
  | .count => query.count
  | .subquery => .ok query.subquery
  | .withKnownFields fields => .ok (query.withKnownFields fields)
  | .withCardinality cardinality => .ok (query.withCardinality cardinality)

end CheckedQuery
