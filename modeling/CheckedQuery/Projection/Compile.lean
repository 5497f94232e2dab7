import CheckedQuery.Projection
import CheckedQuery.Validator.Fields

/-!
# Compiled projections

Compiling a projection for a query gives the text of the projection and, if any
part of it is validated, the validator of one result.  The spread is the lowest
layer of that validator, the named entries come above it, and the conditional
groups on top.
-/

namespace CheckedQuery

structure Compiled where
  text : String
  validator : Option Validator

def Compiled.empty : Compiled :=
  { text := ""
    validator := none }

/-- One entry of a projection, ready to be put together. -/
inductive Part where
  | spread (validator : Option Validator)
  | named (field : NamedField) (copied : Bool)
  | group (compiled : Except ConfigError Compiled)

namespace Part

/-- The part of an entry.  An entry without a name of its own is a spread or a
group, and `compiled` is what the group compiles to. -/
def ofSpec (key : String) (compiled : Except ConfigError Compiled) (spec : FieldSpec) : Part :=
  match NamedField.ofSpec? key spec with
  | some field => .named field spec.isCopied
  | none =>
      match spec with
      | .spread validator => .spread validator
      | _ => .group compiled

def spread? : Part → Option (Option Validator)
  | .spread validator => some validator
  | _ => none

def named? : Part → Option NamedField
  | .named field _ => some field
  | _ => none

def group? : Part → Option (Except ConfigError Compiled)
  | .group compiled => some compiled
  | _ => none

def copied? : Part → Option String
  | .named field true => some field.key
  | _ => none

end Part

structure CompiledBranch where
  condition : String
  keys : List String
  compiled : Compiled

namespace CompiledBranch

def text (branch : CompiledBranch) : String :=
  branch.condition ++ " => " ++ branch.compiled.text

/-- The discriminator of the branch.  Its field is carried if the branch declares
it. -/
def discriminator? (branch : CompiledBranch) : Option Discriminator :=
  (Discriminator.ofCondition? branch.condition).map fun discriminator =>
    { discriminator with carried := branch.keys.contains discriminator.field }

end CompiledBranch

/-- A conditional group is a list of branches, or one choice among them. -/
def groupText (policy : BranchPolicy) (branches : List CompiledBranch) : String :=
  let texts := ", ".intercalate (branches.map CompiledBranch.text)
  match policy with
  | .mergeAll => texts
  | .firstMatch => "...select(" ++ texts ++ ")"

def assembleGroup (policy : BranchPolicy) (exhaustive : Bool) (branches : List CompiledBranch) :
    Except ConfigError Compiled := do
  let covered ← Branch.cover (branches.map fun branch =>
    (branch.condition, branch.compiled.validator))
  return {
    text := groupText policy branches
    validator := covered.map fun covered =>
      let decided := List.zipWith
        (fun (branch : Branch) (compiled : CompiledBranch) =>
          { branch with discriminator := compiled.discriminator? })
        covered branches
      Branch.resolve decided policy exhaustive }

/-- The keys that have to be validated and are not. -/
def unvalidatedKeys (spread : Option (Option Validator)) (named : List NamedField) :
    List String :=
  let bare := match spread with
    | some none => [spreadKey]
    | _ => []
  bare ++ (named.filter fun field => field.validator.isNone).map NamedField.key

/-- The layers of a validator, from the lowest up. -/
def layers (spread : Option (Option Validator)) (named : List NamedField)
    (groups : List Validator) : List Validator :=
  let base := match spread with
    | some validator => [validator.getD .anyObject]
    | none => []
  let fields :=
    if named.isEmpty then []
    else [FieldShape.validator
      (.ofList (named.map fun field => (field.key, field.validator)))]
  base ++ fields ++ groups

def bracedText (texts : List String) : String :=
  if texts.isEmpty then "\x7b\x7d" else "\x7b " ++ ", ".intercalate texts ++ " \x7d"

/-- The first field that is copied although the query does not declare it. -/
def unknownField? (query : Query) (parts : List Part) : Option String :=
  (parts.filterMap Part.copied?).find? fun key => !query.mayInclude key

/-- Put the entries of a projection together.  Entries that their keys do not
allow come first among the mistakes, then fields that are not declared, then
missing validators, then the mistakes inside the groups. -/
def assemble (query : Query) (entries : List (String × Except ConfigError Part)) :
    Except ConfigError Compiled := do
  let parts ← entries.mapM Prod.snd
  if let some key := unknownField? query parts then
    throw (.unknownField key)
  let spread := parts.findSome? Part.spread?
  let named := parts.filterMap Part.named?
  let unvalidated := unvalidatedKeys spread named
  if query.validationRequired && !unvalidated.isEmpty then
    throw (.missingValidation unvalidated)
  let groups ← (parts.filterMap Part.group?).mapM id
  let groupValidators := groups.filterMap Compiled.validator
  let spreadTexts := if spread.isSome then [spreadKey] else []
  let validated :=
    named.any (fun field => field.validator.isSome) || !groupValidators.isEmpty ||
      (spread.map Option.isSome).getD false
  return {
    text := bracedText
      (spreadTexts ++ named.map NamedField.text ++ groups.map Compiled.text)
    validator :=
      if validated then some (.layered (layers spread named groupValidators)) else none }

mutual

def Projection.compile (query : Query) : Projection → Except ConfigError Compiled
  | .declare declarations =>
      assemble query (Keyed.ofList (Projection.prepareEach query declarations)).entries

def Projection.prepareEach (query : Query) :
    List (String × FieldValue) → List (String × Except ConfigError Part)
  | [] => []
  | (key, value) :: rest => (key, value.prepare query key) :: Projection.prepareEach query rest

def FieldValue.prepare (query : Query) (key : String) : FieldValue → Except ConfigError Part
  | .conditional group =>
      (FieldSpec.classify key (.conditional group)).map (Part.ofSpec key (group.compile query))
  | value => (FieldSpec.classify key value).map (Part.ofSpec key (.ok .empty))

def ConditionalGroup.compile (query : Query) : ConditionalGroup → Except ConfigError Compiled
  | .make _ branches policy exhaustive =>
      match ConditionalGroup.compileBranches query branches with
      | .ok compiled => assembleGroup policy exhaustive compiled
      | .error error => .error error

def ConditionalGroup.compileBranches (query : Query) :
    List (String × Projection) → Except ConfigError (List CompiledBranch)
  | [] => .ok []
  | (condition, projection) :: rest =>
      match projection.compile query with
      | .error error => .error error
      | .ok compiled =>
          match ConditionalGroup.compileBranches query rest with
          | .error error => .error error
          | .ok others =>
              .ok ({ condition := condition
                     keys := projection.declarations.map Prod.fst
                     compiled := compiled } :: others)

end

end CheckedQuery
