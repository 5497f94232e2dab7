import CheckedQuery.Validator

/-!
# Outcomes and their issues

An outcome is settled by its issues and, when there are none, by its document.
Every joining validator gathers issues first and asks at the end whether there are
any, so the laws of the joining validators are equations between collectors.
-/

namespace CheckedQuery

theorem toOption_eq_some_iff {α ε : Type} {computed : Except ε α} {result : α} :
    computed.toOption = some result ↔ computed = .ok result := by
  cases computed <;> simp [Except.toOption]

namespace Outcome

/-- What an outcome reports, in order; nothing if it is a document. -/
def issues : Outcome → List Issue
  | .ok _ => []
  | .error report => report.issues

def members? : Outcome → Option (Members Value)
  | .ok (.object members) => some members
  | _ => none

@[simp] theorem issues_ok (value : Value) : issues (.ok value) = [] :=
  rfl

@[simp] theorem issues_error (report : Report) : issues (.error report) = report.issues :=
  rfl

@[simp] theorem members?_error (report : Report) : members? (.error report) = none :=
  rfl

theorem members?_eq_some_iff {outcome : Outcome} {members : Members Value} :
    outcome.members? = some members ↔ outcome = .ok (.object members) := by
  cases outcome with
  | error report => simp
  | ok output => cases output <;> simp [members?]

theorem issues_eq_nil_iff {outcome : Outcome} :
    outcome.issues = [] ↔ ∃ output, outcome = .ok output := by
  cases outcome with
  | ok output => simp
  | error report => simpa using report.nonempty

/-- A report is its list of issues. -/
theorem eq_error_iff {outcome : Outcome} {report : Report} :
    outcome = .error report ↔ outcome.issues = report.issues := by
  cases outcome with
  | ok output => simpa using report.nonempty.symm
  | error found =>
      constructor
      · intro equality
        cases equality
        rfl
      · intro same
        exact congrArg Except.error (Report.ext same)

theorem issues_eq_nil_of_isOk {outcome : Outcome} (accepted : outcome.isOk = true) :
    outcome.issues = [] := by
  cases outcome with
  | ok output => rfl
  | error report => cases accepted

end Outcome

/-- Validators that do the same with every document are the same. -/
@[ext] theorem Validator.ext {left right : Validator}
    (same : ∀ value, left.validate value = right.validate value) : left = right := by
  cases left
  cases right
  exact congrArg Validator.mk (funext same)

namespace Collector

@[simp] theorem issues_add (collector : Collector) (report : Report) :
    (collector.add none report).issues = collector.issues ++ report.issues :=
  rfl

@[simp] theorem issues_add_under (collector : Collector) (segment : Segment)
    (report : Report) :
    (collector.add (some segment) report).issues =
      collector.issues ++ report.issues.map (Issue.under segment) :=
  rfl

@[simp] theorem issues_addIssue (collector : Collector) (value : Value)
    (message code : String) :
    (collector.addIssue none value message code).issues =
      collector.issues ++ [.atRoot value message code] :=
  rfl

@[simp] theorem issues_finish (collector : Collector) (output : Value) :
    (collector.finish output).issues = collector.issues := by
  obtain ⟨issues⟩ := collector
  cases issues <;> rfl

theorem exists_error_of_issues_ne_nil {issues : List Issue} (output : Value)
    (found : issues ≠ []) :
    ∃ report, finish { issues := issues } output = .error report ∧ report.issues = issues :=
  ⟨{ issues := issues, nonempty := found }, finish_eq_error_iff.mpr rfl, rfl⟩

end Collector

/-- The issue of a document of the wrong kind. -/
def Issue.ofKind (expected : String) (value : Value) : Issue :=
  .atRoot value (mismatchMessage expected value) "invalid_type"

/-- The same issue seen from several layers further out. -/
def Issue.within (above : List Segment) (issue : Issue) : Issue :=
  { issue with path := { segments := above ++ issue.path.segments } }

theorem Issue.within_under (above : List Segment) (segment : Segment) (issue : Issue) :
    (issue.under segment).within above = issue.within (above ++ [segment]) := by
  simp [within, under, Path.prepend]

end CheckedQuery
