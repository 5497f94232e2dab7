import CheckedQuery.Proofs.FinalValidator
import CheckedQuery.Proofs.Stripping
import Mathlib.Data.List.Forall2

/-!
# Validation never changes the query

Two scripts may differ in the validators that they attach and in whether they require
validation at all.  Where both get through, the queries that they make step by step
have the same text, the same cardinality and the same known fields: what is left of a
query without its validators is decided by what is left of the script.
-/

namespace CheckedQuery

/-- Two queries that ask for the same and may validate it differently. -/
structure Query.SameUpToValidation (left right : Query) : Prop where
  text : left.text = right.text
  cardinality : left.cardinality = right.cardinality
  knownFields : left.knownFields = right.knownFields

theorem Query.sameUpToValidation_of_stripped_eq {left right : Query}
    (same : left.stripped = right.stripped) : left.SameUpToValidation right := by
  simp only [stripped, Query.mk.injEq, true_and] at same
  exact ⟨same.1, same.2.1, same.2.2⟩

/-- A field that is copied, or validated where it stands. -/
def FieldValue.included : Option Validator → FieldValue
  | none => .flag true
  | some supplied => .validator supplied

/-- A field behind a path, validated or not. -/
def FieldValue.drawn (path : String) : Option Validator → FieldValue
  | none => .path path
  | some supplied => .pathWith path supplied

section Alike

/-! Two projections, operations or scripts are alike if they differ in nothing but
validators.  `together` says which queries stand for each other in them. -/

variable (together : Query → Query → Prop)

mutual

inductive Projection.Alike : Projection → Projection → Prop where
  | declare {left right : List (String × FieldValue)}
      (declarations : Projection.EachAlike left right) :
      Projection.Alike (.declare left) (.declare right)

inductive Projection.EachAlike :
    List (String × FieldValue) → List (String × FieldValue) → Prop where
  | nil : Projection.EachAlike [] []
  | cons (key : String) {left right : FieldValue}
      {leftRest rightRest : List (String × FieldValue)} (value : FieldValue.Alike left right)
      (rest : Projection.EachAlike leftRest rightRest) :
      Projection.EachAlike ((key, left) :: leftRest) ((key, right) :: rightRest)

inductive FieldValue.Alike : FieldValue → FieldValue → Prop where
  | excluded : FieldValue.Alike (.flag false) (.flag false)
  | included (left right : Option Validator) :
      FieldValue.Alike (.included left) (.included right)
  | drawn (path : String) (left right : Option Validator) :
      FieldValue.Alike (.drawn path left) (.drawn path right)
  | query {left right : Query} (nested : together left right) :
      FieldValue.Alike (.query left) (.query right)
  | conditional {left right : ConditionalGroup} (group : ConditionalGroup.Alike left right) :
      FieldValue.Alike (.conditional left) (.conditional right)

inductive ConditionalGroup.Alike : ConditionalGroup → ConditionalGroup → Prop where
  | make (name : String) (policy : BranchPolicy) (exhaustive : Bool)
      {left right : List (String × Projection)}
      (branches : ConditionalGroup.BranchesAlike left right) :
      ConditionalGroup.Alike (.make name left policy exhaustive)
        (.make name right policy exhaustive)

inductive ConditionalGroup.BranchesAlike :
    List (String × Projection) → List (String × Projection) → Prop where
  | nil : ConditionalGroup.BranchesAlike [] []
  | cons (condition : String) {left right : Projection}
      {leftRest rightRest : List (String × Projection)}
      (projection : Projection.Alike left right)
      (rest : ConditionalGroup.BranchesAlike leftRest rightRest) :
      ConditionalGroup.BranchesAlike ((condition, left) :: leftRest)
        ((condition, right) :: rightRest)

end

/-- Whether the operation takes no validator and no other query. -/
def Operation.isPlain : Operation → Bool
  | .field _ _ | .raw _ _ | .chain _ _ | .project _ | .select _ _ => false
  | _ => true

inductive Operation.Alike : Operation → Operation → Prop where
  | plain {operation : Operation} (isPlain : operation.isPlain = true) :
      Operation.Alike operation operation
  | field (path : String) (left right : Option Validator) :
      Operation.Alike (.field path left) (.field path right)
  | raw (text : String) (left right : Option Validator) :
      Operation.Alike (.raw text left) (.raw text right)
  | chain (text : String) (left right : Option Validator) :
      Operation.Alike (.chain text left) (.chain text right)
  | project {left right : Projection} (projection : Projection.Alike together left right) :
      Operation.Alike (.project left) (.project right)
  | select {left right : List (String × Query)} {leftFallback rightFallback : Option Query}
      (arms : List.Forall₂
        (fun leftArm rightArm => leftArm.1 = rightArm.1 ∧ together leftArm.2 rightArm.2)
        left right)
      (fallback : Option.Rel together leftFallback rightFallback) :
      Operation.Alike (.select left leftFallback) (.select right rightFallback)

end Alike

/-- Queries that stand for each other differ in nothing but what they validate. -/
def AgreeStripped (together : Query → Query → Prop) : Prop :=
  ∀ ⦃left right⦄, together left right → left.stripped = right.stripped

section Stripped

variable {together : Query → Query → Prop}

mutual

theorem Projection.Alike.stripped_eq (agree : AgreeStripped together)
    {left right : Projection} (alike : Projection.Alike together left right) :
    left.stripped = right.stripped := by
  cases alike with
  | declare declarations =>
      rw [Projection.stripped, Projection.stripped, declarations.stripEach_eq agree]

theorem Projection.EachAlike.stripEach_eq (agree : AgreeStripped together)
    {left right : List (String × FieldValue)}
    (alike : Projection.EachAlike together left right) :
    Projection.stripEach left = Projection.stripEach right := by
  cases alike with
  | nil => rfl
  | cons key value rest =>
      rw [Projection.stripEach, Projection.stripEach, value.stripped_eq agree,
        rest.stripEach_eq agree]

theorem FieldValue.Alike.stripped_eq (agree : AgreeStripped together)
    {left right : FieldValue} (alike : FieldValue.Alike together left right) :
    left.stripped = right.stripped := by
  match alike with
  | .excluded => rfl
  | .included left right => cases left <;> cases right <;> rfl
  | .drawn path left right => cases left <;> cases right <;> rfl
  | .query nested => rw [FieldValue.stripped, FieldValue.stripped, agree nested]
  | .conditional group =>
      rw [FieldValue.stripped, FieldValue.stripped, group.stripped_eq agree]

theorem ConditionalGroup.Alike.stripped_eq (agree : AgreeStripped together)
    {left right : ConditionalGroup} (alike : ConditionalGroup.Alike together left right) :
    left.stripped = right.stripped := by
  cases alike with
  | make name policy exhaustive branches =>
      rw [ConditionalGroup.stripped, ConditionalGroup.stripped,
        branches.stripBranches_eq agree]

theorem ConditionalGroup.BranchesAlike.stripBranches_eq (agree : AgreeStripped together)
    {left right : List (String × Projection)}
    (alike : ConditionalGroup.BranchesAlike together left right) :
    ConditionalGroup.stripBranches left = ConditionalGroup.stripBranches right := by
  cases alike with
  | nil => rfl
  | cons condition projection rest =>
      rw [ConditionalGroup.stripBranches, ConditionalGroup.stripBranches,
        projection.stripped_eq agree, rest.stripBranches_eq agree]

end

end Stripped

namespace Query

/-- The query that has grown by a text that changes the shape of the result. -/
def grown (query : Query) (text : String) (cardinality : Cardinality) : Query :=
  { query with
    text := query.text ++ text
    cardinality := cardinality }

variable {query next : Query}

theorem stripped_of_chainAs {text : String} {validator : Option Validator}
    {cardinality : Cardinality}
    (success : query.chainAs text validator cardinality = .ok next) :
    next.stripped = query.stripped.grown text cardinality := by
  rw [eq_of_chainAs success]
  rfl

theorem stripped_of_field {path : String} {validator : Option Validator}
    (success : query.field path validator = .ok next) :
    next.stripped = query.stripped.grown
      (if query.stripped.text.isEmpty then path else "." ++ path)
      (if endsWithItems path then .many else query.stripped.cardinality) :=
  stripped_of_chainAs success

theorem stripped_of_project {projection : Projection}
    (success : query.project projection = .ok next) :
    ∃ compiled, projection.compile query = .ok compiled ∧
      next.stripped = query.stripped.grown compiled.text query.stripped.cardinality := by
  obtain ⟨compiled, compiles, chained⟩ := bind_eq_ok_iff.mp success
  exact ⟨compiled, compiles, stripped_of_chainAs chained⟩

/-- The text of the arms of a choice, with its fallback. -/
def armsText (arms : List (String × Query)) (fallback : Option Query) : String :=
  ", ".intercalate
    ((arms.map fun arm => arm.1 ++ " => " ++ arm.2.text) ++ fallback.toList.map text)

theorem stripped_of_select {arms : List (String × Query)} {fallback : Option Query}
    (success : query.select arms fallback = .ok next) :
    next.stripped = query.stripped.grown ("select(" ++ armsText arms fallback ++ ")") .one := by
  obtain ⟨covered, -, chained⟩ := bind_eq_ok_iff.mp success
  exact stripped_of_chainAs chained

end Query

namespace Operation

/-- An operation that takes neither validators nor queries does the same without what the
query validates. -/
theorem apply_stripped_of_isPlain {operation : Operation} {query next : Query}
    (isPlain : operation.isPlain = true) (success : operation.apply query = .ok next) :
    (operation.apply query.stripped).map Query.stripped = .ok next.stripped := by
  cases operation with
  | star | filter | filterByType | order | passthrough | extend | subquery | withKnownFields
  | withCardinality =>
      cases success
      rfl
  | slice | sliceOne | dereference =>
      rw [Query.stripped_of_chainAs success]
      rfl
  | count =>
      simp only [apply, Query.count] at success
      split at success
      · cases success
      · cases success
        rfl
  | field | raw | chain | project | select => cases isPlain

variable {together : Query → Query → Prop} {query leftQuery rightQuery leftNext rightNext : Query}

private theorem armsText_eq {left right : List (String × Query)}
    {leftFallback rightFallback : Option Query} (agree : AgreeStripped together)
    (arms : List.Forall₂
      (fun leftArm rightArm => leftArm.1 = rightArm.1 ∧ together leftArm.2 rightArm.2)
      left right)
    (fallback : Option.Rel together leftFallback rightFallback) :
    Query.armsText left leftFallback = Query.armsText right rightFallback := by
  have texts : ∀ {left right : Query}, together left right → left.text = right.text :=
    fun paired => (Query.sameUpToValidation_of_stripped_eq (agree paired)).text
  have conditions : left.map (fun arm => arm.1 ++ " => " ++ arm.2.text) =
      right.map fun arm => arm.1 ++ " => " ++ arm.2.text := by
    induction arms with
    | nil => rfl
    | cons arm rest induction => rw [List.map_cons, List.map_cons, arm.1, texts arm.2, induction]
  have last : leftFallback.toList.map Query.text = rightFallback.toList.map Query.text := by
    cases fallback with
    | none => rfl
    | some paired => simp [texts paired]
  rw [Query.armsText, Query.armsText, conditions, last]

/-- What alike operations make of queries that differ in nothing but what they validate
differs in nothing else either. -/
theorem Alike.stripped_eq {left right : Operation} (agree : AgreeStripped together)
    (alike : left.Alike together right) (same : leftQuery.stripped = rightQuery.stripped)
    (leftSucceeds : left.apply leftQuery = .ok leftNext)
    (rightSucceeds : right.apply rightQuery = .ok rightNext) :
    leftNext.stripped = rightNext.stripped := by
  cases alike with
  | plain isPlain =>
      have leftStripped := apply_stripped_of_isPlain isPlain leftSucceeds
      rw [same, apply_stripped_of_isPlain isPlain rightSucceeds] at leftStripped
      exact (Except.ok.inj leftStripped).symm
  | field =>
      rw [Query.stripped_of_field leftSucceeds, Query.stripped_of_field rightSucceeds, same]
  | raw | chain =>
      rw [Query.stripped_of_chainAs leftSucceeds, Query.stripped_of_chainAs rightSucceeds, same,
        (Query.sameUpToValidation_of_stripped_eq same).cardinality]
  | project projection =>
      obtain ⟨leftCompiled, leftCompiles, leftGrown⟩ := Query.stripped_of_project leftSucceeds
      obtain ⟨rightCompiled, rightCompiles, rightGrown⟩ :=
        Query.stripped_of_project rightSucceeds
      rw [leftGrown, rightGrown, same, Projection.text_eq_of_stripped_eq
        (projection.stripped_eq agree) leftCompiles rightCompiles]
  | select arms fallback =>
      rw [Query.stripped_of_select leftSucceeds, Query.stripped_of_select rightSucceeds, same,
        armsText_eq agree arms fallback]

end Operation

/-- A step of a script makes a new query, or applies an operation to one that is there. -/
inductive Step where
  | start (validationRequired : Bool)
  | apply (query : Query) (operation : Operation)

namespace Step

def make : Step → Except ConfigError Query
  | .start validationRequired => .ok (.start validationRequired)
  | .apply query operation => operation.apply query

inductive Alike (together : Query → Query → Prop) : Step → Step → Prop where
  | start (left right : Bool) : Alike together (.start left) (.start right)
  | apply {leftQuery rightQuery : Query} {left right : Operation}
      (query : together leftQuery rightQuery) (operation : left.Alike together right) :
      Alike together (.apply leftQuery left) (.apply rightQuery right)

variable {together : Query → Query → Prop} {left right : Step} {leftNext rightNext : Query}

theorem Alike.stripped_eq (agree : AgreeStripped together) (alike : left.Alike together right)
    (leftSucceeds : left.make = .ok leftNext) (rightSucceeds : right.make = .ok rightNext) :
    leftNext.stripped = rightNext.stripped := by
  cases alike with
  | start =>
      cases leftSucceeds
      cases rightSucceeds
      rfl
  | apply query operation =>
      exact operation.stripped_eq agree (agree query) leftSucceeds rightSucceeds

end Step

/-- A script makes one query after another. -/
abbrev Script : Type :=
  List Step

/-- The queries that two scripts made at the same step. -/
def MadeTogether (leftMade rightMade : List Query) (left right : Query) : Prop :=
  ∃ position : Nat, leftMade[position]? = some left ∧ rightMade[position]? = some right

namespace Script

/-- Two scripts are alike, after what they have made so far, if they are alike step by
step.  A query stands for another if both were made at the same step. -/
inductive AlikeAfter : List Query → List Query → Script → Script → Prop where
  | nil {leftMade rightMade : List Query} : AlikeAfter leftMade rightMade [] []
  | cons {leftMade rightMade : List Query} {left right : Step} {leftRest rightRest : Script}
      (step : left.Alike (MadeTogether leftMade rightMade) right)
      (rest : ∀ leftNext rightNext, left.make = .ok leftNext → right.make = .ok rightNext →
        AlikeAfter (leftMade ++ [leftNext]) (rightMade ++ [rightNext]) leftRest rightRest) :
      AlikeAfter leftMade rightMade (left :: leftRest) (right :: rightRest)

/-- Scripts that are equal but for the validators that they attach and for whether they
require validation. -/
def Alike (left right : Script) : Prop :=
  AlikeAfter [] [] left right

theorem agreeStripped_madeTogether {leftMade rightMade : List Query}
    (same : leftMade.map Query.stripped = rightMade.map Query.stripped) :
    AgreeStripped (MadeTogether leftMade rightMade) := by
  rintro left right ⟨position, inLeft, inRight⟩
  have here := congrArg (fun made : List Query => made[position]?) same
  simpa [inLeft, inRight] using here

/-- A run keeps what two scripts have made alike. -/
theorem AlikeAfter.stripped_eq {leftMade rightMade leftNew rightNew : List Query}
    {left right : Script} (alike : AlikeAfter leftMade rightMade left right)
    (same : leftMade.map Query.stripped = rightMade.map Query.stripped)
    (leftSucceeds : left.mapM Step.make = .ok leftNew)
    (rightSucceeds : right.mapM Step.make = .ok rightNew) :
    leftNew.map Query.stripped = rightNew.map Query.stripped := by
  -- Step by step, with all queries made so far agreeing in pairs.
  induction alike generalizing leftNew rightNew with
  | nil =>
      cases leftSucceeds
      cases rightSucceeds
      rfl
  | cons step rest induction =>
      rw [List.mapM_cons, bind_eq_ok_iff] at leftSucceeds rightSucceeds
      obtain ⟨leftNext, leftMakes, leftSucceeds⟩ := leftSucceeds
      obtain ⟨rightNext, rightMakes, rightSucceeds⟩ := rightSucceeds
      obtain ⟨leftLater, leftRuns, leftSame⟩ := bind_eq_ok_iff.mp leftSucceeds
      obtain ⟨rightLater, rightRuns, rightSame⟩ := bind_eq_ok_iff.mp rightSucceeds
      cases leftSame
      cases rightSame
      have next := step.stripped_eq (agreeStripped_madeTogether same) leftMakes rightMakes
      have later := induction leftNext rightNext leftMakes rightMakes
        (by simp [same, next]) leftRuns rightRuns
      rw [List.map_cons, List.map_cons, next, later]

/-- Validators and the requirement of validation decide which scripts get through and
what results are accepted, and nothing about the queries. -/
theorem sameUpToValidation_of_alike {left right : Script} {leftMade rightMade : List Query}
    (alike : left.Alike right) (leftSucceeds : left.mapM Step.make = .ok leftMade)
    (rightSucceeds : right.mapM Step.make = .ok rightMade) :
    List.Forall₂ Query.SameUpToValidation leftMade rightMade := by
  have same := alike.stripped_eq rfl leftSucceeds rightSucceeds
  rw [← List.forall₂_eq_eq_eq, List.forall₂_map_left_iff, List.forall₂_map_right_iff] at same
  exact same.imp fun _ _ => Query.sameUpToValidation_of_stripped_eq

/-- All documents with their titles and tags. -/
def tagged (validationRequired : Bool) (supplied : Option Validator) : Script :=
  let root := Query.start validationRequired
  let tags : Query :=
    { root with
      text := "tags[]"
      validator := supplied.map Cardinality.many.wrap
      cardinality := .many }
  [.start validationRequired, .apply root (.field "tags[]" supplied), .apply root .star,
    .apply root.star (.project (.declare
      [("title", .included supplied), ("tags", .query tags)]))]

theorem sameUpToValidation_of_alike_tagged :
    ∃ leftMade rightMade,
      (tagged true (some .unknown)).mapM Step.make = .ok leftMade ∧
      (tagged false none).mapM Step.make = .ok rightMade ∧
      leftMade.map Query.text = ["", "tags[]", "*", "*\x7b title, \"tags\": tags[] \x7d"] ∧
      List.Forall₂ Query.SameUpToValidation leftMade rightMade := by
  have alike : (tagged true (some .unknown)).Alike (tagged false none) := by
    refine .cons (.start true false) fun leftRoot rightRoot leftStarts rightStarts => ?_
    cases leftStarts
    cases rightStarts
    refine .cons (.apply ⟨0, rfl, rfl⟩ (.field "tags[]" (some .unknown) none))
      fun leftTags rightTags leftDraws rightDraws => ?_
    cases leftDraws
    cases rightDraws
    refine .cons (.apply ⟨0, rfl, rfl⟩ (.plain rfl))
      fun leftAll rightAll leftSelects rightSelects => ?_
    cases leftSelects
    cases rightSelects
    refine .cons (.apply ⟨2, rfl, rfl⟩ (.project (.declare ?_))) fun _ _ _ _ => .nil
    exact .cons "title" (.included (some .unknown) none)
      (.cons "tags" (.query ⟨1, rfl, rfl⟩) .nil)
  have leftRuns : ∃ made, (tagged true (some .unknown)).mapM Step.make = .ok made ∧
      made.map Query.text = ["", "tags[]", "*", "*\x7b title, \"tags\": tags[] \x7d"] :=
    ⟨_, rfl, by decide⟩
  have rightRuns : ∃ made, (tagged false none).mapM Step.make = .ok made :=
    ⟨_, rfl⟩
  obtain ⟨leftMade, leftSucceeds, texts⟩ := leftRuns
  obtain ⟨rightMade, rightSucceeds⟩ := rightRuns
  exact ⟨leftMade, rightMade, leftSucceeds, rightSucceeds, texts,
    sameUpToValidation_of_alike alike leftSucceeds rightSucceeds⟩

end Script

end CheckedQuery
