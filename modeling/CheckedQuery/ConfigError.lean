/-!
# Configuration errors

Mistakes made while a query or a validator is put together, before any document
is looked at.
-/

namespace CheckedQuery

inductive ConfigError where
  /-- An entry of a projection holds a value that its key does not allow. -/
  | unexpectedProjectionValue (key : String)
  /-- A field that the query does not declare is included as it is. -/
  | unknownField (key : String)
  /-- Text that changes the shape was added behind a validator. -/
  | chainAfterValidator (text : String)
  /-- Validation is required and these entries have no validator. -/
  | missingValidation (keys : List String)
  /-- Some branches have a validator, and these have none. -/
  | partialBranchValidation (branches : List String)
  /-- Validation is required and the query has no validator. -/
  | validationRequired
  /-- A pattern breaks the grammar of patterns. -/
  | invalidPattern (pattern message : String)
  deriving DecidableEq

namespace ConfigError

def message : ConfigError → String
  | .unexpectedProjectionValue key =>
      "Unexpected value for projection key \"" ++ key ++ "\""
  | .unknownField key =>
      "Unknown field \"" ++ key ++ "\" cannot be included as-is"
  | .chainAfterValidator text =>
      "cannot chain \"" ++ text ++
        "\" after a validator has been attached; " ++
        "use a passthrough operation to keep the existing validator"
  | .missingValidation keys =>
      "validation is required, but no validator was supplied for: " ++ ", ".intercalate keys
  | .partialBranchValidation branches =>
      "either every branch must supply a validator or none may; unvalidated branches: " ++
        ", ".intercalate branches
  | .validationRequired =>
      "validation is required, but the query has no validator attached"
  | .invalidPattern pattern message =>
      "invalid pattern '" ++ pattern ++ "': " ++ message

end ConfigError

end CheckedQuery
