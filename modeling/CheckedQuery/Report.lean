import CheckedQuery.Json.Value
import CheckedQuery.Path

/-!
# Reports

What is wrong with a document.  An issue names one place in it; a report holds
the issues of a document that was refused, at least one; a collector gathers them
while the document is walked.
-/

namespace CheckedQuery

/-- Something wrong at one place of a document. -/
structure Issue where
  path : Path
  value : Value
  message : String
  code : String

namespace Issue

def defaultCode : String :=
  "validation_error"

def atRoot (value : Value) (message : String) (code : String) : Issue :=
  { path := .root
    value := value
    message := message
    code := code }

/-- The same issue seen from one layer further out. -/
def under (segment : Segment) (issue : Issue) : Issue :=
  { issue with path := issue.path.prepend segment }

def text (issue : Issue) : List Char :=
  "result".toList ++ issue.path.text ++ ':' :: ' ' :: issue.message.toList

end Issue

/-- The issues of a refused document, in the order in which they were found. -/
structure Report where
  issues : List Issue
  nonempty : issues ≠ []

namespace Report

@[ext] theorem ext {left right : Report} (issues : left.issues = right.issues) :
    left = right := by
  cases left
  cases right
  simpa using issues

def single (issue : Issue) : Report :=
  { issues := [issue]
    nonempty := List.cons_ne_nil issue [] }

/-- A report, if there is anything to report. -/
def ofList? : List Issue → Option Report
  | [] => none
  | issue :: issues =>
      some { issues := issue :: issues
             nonempty := List.cons_ne_nil issue issues }

def first (report : Report) : Issue :=
  report.issues.head report.nonempty

def size (report : Report) : Nat :=
  report.issues.length

def under (segment : Segment) (report : Report) : Report :=
  { issues := report.issues.map (Issue.under segment)
    nonempty := by simpa using report.nonempty }

def append (report more : Report) : Report :=
  { issues := report.issues ++ more.issues
    nonempty := by simp [report.nonempty] }

instance : Append Report :=
  ⟨append⟩

@[simp] theorem issues_append (report more : Report) :
    (report ++ more).issues = report.issues ++ more.issues :=
  rfl

@[simp] theorem issues_under (segment : Segment) (report : Report) :
    (report.under segment).issues = report.issues.map (Issue.under segment) :=
  rfl

def atPath (report : Report) (path : Path) : List Issue :=
  report.issues.filter (fun issue => issue.path = path)

def withCode (report : Report) (code : String) : List Issue :=
  report.issues.filter (fun issue => issue.code = code)

/-- The number of issues, and each issue on a line of its own. -/
def text (report : Report) : List Char :=
  let heading := if report.size = 1 then " Parsing Error:" else " Parsing Errors:"
  Nat.toDigits 10 report.size ++ heading.toList ++
    report.issues.flatMap (fun issue => '\n' :: issue.text)

def message (report : Report) : String :=
  String.ofList report.text

end Report

/-- The document that a validator makes of its input, or what is wrong with the
input. -/
abbrev Outcome : Type :=
  Except Report Value

structure Collector where
  issues : List Issue

namespace Collector

def empty : Collector :=
  { issues := [] }

/-- Add a report from one layer further in, or from the same layer. -/
def add (collector : Collector) (segment : Option Segment) (report : Report) : Collector :=
  match segment with
  | none => { issues := collector.issues ++ report.issues }
  | some segment => { issues := collector.issues ++ (report.under segment).issues }

/-- Add an issue at the root, or one layer further in. -/
def addIssue (collector : Collector) (segment : Option Segment)
    (value : Value) (message code : String) : Collector :=
  let issue := Issue.atRoot value message code
  match segment with
  | none => { issues := collector.issues ++ [issue] }
  | some segment => { issues := collector.issues ++ [issue.under segment] }

def size (collector : Collector) : Nat :=
  collector.issues.length

def report? (collector : Collector) : Option Report :=
  Report.ofList? collector.issues

/-- Accept `output` if nothing was found. -/
def finish (collector : Collector) (output : Value) : Outcome :=
  match collector.report? with
  | none => .ok output
  | some report => .error report

theorem finish_eq_ok_iff {collector : Collector} {output result : Value} :
    collector.finish output = .ok result ↔ collector.issues = [] ∧ output = result := by
  obtain ⟨issues⟩ := collector
  cases issues <;> simp [finish, report?, Report.ofList?]

theorem finish_eq_error_iff {collector : Collector} {output : Value} {report : Report} :
    collector.finish output = .error report ↔ collector.issues = report.issues := by
  obtain ⟨issues⟩ := collector
  obtain ⟨reported, nonempty⟩ := report
  cases issues with
  | nil => simpa [finish, report?, Report.ofList?] using nonempty.symm
  | cons issue issues => simp [finish, report?, Report.ofList?]

end Collector

end CheckedQuery
