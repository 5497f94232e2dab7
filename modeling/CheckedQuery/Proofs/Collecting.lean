import CheckedQuery.Proofs.Outcomes
import Mathlib.Algebra.Ring.Nat

/-!
# Collecting

A collector is handed findings one after the other: reports of the layer below, and single
issues of its own layer.  It takes them up issue by issue.  Reports can also be put under a
segment and one after the other as wholes, and both ways lead to the same report.  So it makes
no difference whether findings pass through a collector of their own on the way.
-/

namespace CheckedQuery

namespace Report

theorem append_assoc (first second third : Report) :
    first ++ second ++ third = first ++ (second ++ third) :=
  Report.ext (List.append_assoc first.issues second.issues third.issues)

theorem under_append (segment : Segment) (first second : Report) :
    (first ++ second).under segment = first.under segment ++ second.under segment :=
  Report.ext List.map_append

/-- Reports one after the other, if there are any. -/
def joined? : List Report → Option Report
  | [] => none
  | first :: others => some (others.foldl (· ++ ·) first)

theorem issues_foldl_append (first : Report) (others : List Report) :
    (others.foldl (· ++ ·) first).issues = first.issues ++ others.flatMap issues := by
  induction others generalizing first with
  | nil => exact (List.append_nil first.issues).symm
  | cons other others induction =>
      rw [List.foldl_cons, induction, issues_append, List.flatMap_cons, List.append_assoc]

theorem ofList?_eq_none_iff {issues : List Issue} : ofList? issues = none ↔ issues = [] := by
  cases issues <;> simp [ofList?]

theorem ofList?_eq_some_iff {issues : List Issue} {report : Report} :
    ofList? issues = some report ↔ report.issues = issues := by
  cases issues with
  | nil => simpa [ofList?] using report.nonempty
  | cons issue issues =>
      rw [ofList?, Option.some.injEq]
      exact ⟨fun same => same ▸ rfl, fun same => Report.ext same.symm⟩

theorem ofList?_flatMap (reports : List Report) :
    ofList? (reports.flatMap issues) = joined? reports := by
  cases reports with
  | nil => rfl
  | cons first others =>
      rw [joined?, List.flatMap_cons, ofList?_eq_some_iff, issues_foldl_append]

theorem joined?_map_under (segment : Segment) (reports : List Report) :
    joined? (reports.map (under segment)) = (joined? reports).map (under segment) := by
  cases reports with
  | nil => rfl
  | cons first others =>
      have each : ∀ report other : Report,
          report.under segment ++ other.under segment = (report ++ other).under segment :=
        fun report other => (under_append segment report other).symm
      rw [List.map_cons, joined?, joined?, Option.map_some, List.foldl_map]
      exact congrArg some (List.foldl_hom (under segment) each)

end Report

/-- What a collector is handed at one time: a report of the layer below, or an issue. -/
inductive Finding where
  | reported (segment : Option Segment) (report : Report)
  | noted (segment : Option Segment) (value : Value) (message code : String)

namespace Finding

/-- The issues that a finding adds, each at its place in the layer of the collector. -/
def issues : Finding → List Issue
  | .reported segment report => report.issues.map (Issue.within segment.toList)
  | .noted segment value message code =>
      [(Issue.atRoot value message code).within segment.toList]

/-- A finding as a report of the layer of the collector. -/
def report : Finding → Report
  | .reported none report => report
  | .reported (some segment) report => report.under segment
  | .noted segment value message code =>
      .single
        { path := { segments := segment.toList }
          value := value
          message := message
          code := code }

def size : Finding → Nat
  | .reported _ report => report.size
  | .noted _ _ _ _ => 1

/-- The same finding seen from one layer further out, or from the same layer. -/
def inside (segment : Option Segment) (finding : Finding) : Finding :=
  .reported segment finding.report

/-- What a collector hands to the one around it. -/
def ofCollector? (segment : Option Segment) (collector : Collector) : Option Finding :=
  collector.report?.map (.reported segment)

theorem issues_report (finding : Finding) : finding.report.issues = finding.issues := by
  cases finding with
  | reported segment report =>
      cases segment with
      | none => exact (List.map_id report.issues).symm
      | some segment => rfl
  | noted segment value message code => cases segment <;> rfl

theorem issues_ne_nil (finding : Finding) : finding.issues ≠ [] :=
  issues_report finding ▸ finding.report.nonempty

theorem length_issues (finding : Finding) : finding.issues.length = finding.size := by
  cases finding with
  | reported segment report => exact List.length_map _
  | noted segment value message code => rfl

theorem issues_inside (segment : Option Segment) (finding : Finding) :
    (finding.inside segment).issues = finding.issues.map (Issue.within segment.toList) := by
  rw [inside, issues, issues_report]

theorem flatMap_issues_eq_nil_iff {findings : List Finding} :
    findings.flatMap issues = [] ↔ findings = [] := by
  constructor
  · intro silent
    rw [List.flatMap_eq_nil_iff] at silent
    exact List.eq_nil_iff_forall_not_mem.mpr fun finding membership =>
      finding.issues_ne_nil (silent finding membership)
  · rintro rfl
    rfl

end Finding

namespace Collector

def absorb (collector : Collector) : Finding → Collector
  | .reported segment report => collector.add segment report
  | .noted segment value message code => collector.addIssue segment value message code

/-- The collector that has been handed findings, the first one first. -/
def gather (findings : List Finding) : Collector :=
  findings.foldl absorb empty

theorem issues_absorb (collector : Collector) (finding : Finding) :
    (collector.absorb finding).issues = collector.issues ++ finding.issues := by
  cases finding with
  | reported segment report =>
      rw [← Finding.issues_report]
      cases segment <;> rfl
  | noted segment value message code => cases segment <;> rfl

theorem foldl_absorb (collector : Collector) (findings : List Finding) :
    findings.foldl absorb collector =
      { issues := collector.issues ++ findings.flatMap Finding.issues } := by
  induction findings generalizing collector with
  | nil => rw [List.foldl_nil, List.flatMap_nil, List.append_nil]
  | cons finding findings induction =>
      rw [List.foldl_cons, induction, issues_absorb, List.flatMap_cons, List.append_assoc]

theorem gather_eq (findings : List Finding) :
    gather findings = { issues := findings.flatMap Finding.issues } :=
  foldl_absorb empty findings

example (first second third : Value) :
    (gather
        [.reported (some (.field "outer"))
            ((Report.single (.atRoot first "a" "custom")).under (.field "x") ++
              .single (.atRoot second "b" "custom")),
          .noted none third "c" "custom"]).issues.map
        (fun issue => (issue.path.text, issue.message)) =
      [(".outer.x".toList, "a"), (".outer".toList, "b"), ([], "c")] :=
  rfl

theorem report?_gather (findings : List Finding) :
    (gather findings).report? = Report.joined? (findings.map Finding.report) := by
  rw [gather_eq, report?, ← Report.ofList?_flatMap, List.flatMap_map]
  simp only [Finding.issues_report]

/-- A segment in front of every finding is in front of the report as a whole. -/
theorem report?_gather_inside (segment : Segment) (findings : List Finding) :
    (gather (findings.map (Finding.inside (some segment)))).report? =
      (gather findings).report?.map (Report.under segment) := by
  rw [report?_gather, report?_gather, ← Report.joined?_map_under, List.map_map, List.map_map]
  rfl

theorem size_gather (findings : List Finding) :
    (gather findings).size = (findings.map Finding.size).sum := by
  rw [gather_eq, size, List.length_flatMap]
  simp only [Finding.length_issues]

/-- What a collector hands on is what it was handed, put under the segment as a whole. -/
theorem flatMap_issues_ofCollector? (segment : Option Segment) (findings : List Finding) :
    (Finding.ofCollector? segment (gather findings)).toList.flatMap Finding.issues =
      (findings.map (Finding.inside segment)).flatMap Finding.issues := by
  have inside : (findings.map (Finding.inside segment)).flatMap Finding.issues =
      (gather findings).issues.map (Issue.within segment.toList) := by
    simp only [gather_eq, List.flatMap_map, List.map_flatMap, Finding.issues_inside]
  rw [inside, Finding.ofCollector?]
  -- An empty collector hands on nothing at all, not an empty report.
  cases handed : (gather findings).report? with
  | none =>
      rw [Report.ofList?_eq_none_iff.mp handed]
      rfl
  | some report =>
      rw [← Report.ofList?_eq_some_iff.mp handed]
      exact List.flatMap_singleton Finding.issues (.reported segment report)

theorem gather_passedOn (segment : Option Segment) (before findings after : List Finding) :
    gather (before ++ (Finding.ofCollector? segment (gather findings)).toList ++ after) =
      gather (before ++ findings.map (Finding.inside segment) ++ after) := by
  simp only [gather_eq, List.flatMap_append]
  rw [← gather_eq, flatMap_issues_ofCollector?]

end Collector

/-- What a collector makes of the findings that it was handed. -/
structure Gathered (findings : List Finding) : Prop where
  /-- Every issue is there once, in order, with the segment of its finding in front. -/
  issues : (Collector.gather findings).issues = findings.flatMap Finding.issues
  /-- There is nothing to report exactly if nothing was found. -/
  silent : (Collector.gather findings).report? = none ↔ findings = []
  /-- The report is that of the findings one after the other, each as a report. -/
  report : (Collector.gather findings).report? =
    Report.joined? (findings.map Finding.report)
  size : (Collector.gather findings).size = (findings.map Finding.size).sum
  accepted : ∀ output result,
    (Collector.gather findings).finish output = .ok result ↔ findings = [] ∧ output = result
  refused : ∀ output report,
    (Collector.gather findings).finish output = .error report ↔
      Report.joined? (findings.map Finding.report) = some report
  /-- A segment in front of every finding is in front of the report as a whole. -/
  under : ∀ segment,
    (Collector.gather (findings.map (Finding.inside (some segment)))).report? =
      (Collector.gather findings).report?.map (Report.under segment)
  /-- A collector in between makes no difference, whatever is found before and after. -/
  passedOn : ∀ segment before after,
    Collector.gather
        (before ++ (Finding.ofCollector? segment (Collector.gather findings)).toList ++ after) =
      Collector.gather (before ++ findings.map (Finding.inside segment) ++ after)

theorem gathered (findings : List Finding) : Gathered findings := by
  have reported := Collector.report?_gather findings
  constructor
  case issues => rw [Collector.gather_eq]
  case silent =>
    rw [Collector.gather_eq]
    exact Report.ofList?_eq_none_iff.trans Finding.flatMap_issues_eq_nil_iff
  case report => exact reported
  case size => exact Collector.size_gather findings
  case accepted =>
    intro output result
    rw [Collector.finish_eq_ok_iff, Collector.gather_eq, Finding.flatMap_issues_eq_nil_iff]
  case refused =>
    intro output report
    rw [Collector.finish_eq_error_iff, ← reported, Collector.report?,
      Report.ofList?_eq_some_iff, eq_comm]
  case under =>
    intro segment
    exact Collector.report?_gather_inside segment findings
  case passedOn =>
    intro segment before after
    exact Collector.gather_passedOn segment before findings after

/-- Collectors agree with whole reports, which may be put one after the other in any grouping
and under a segment before or after. -/
theorem gathered_as_joined (findings : List Finding) (segment : Segment)
    (first second third : Report) :
    Gathered findings ∧
      first ++ second ++ third = first ++ (second ++ third) ∧
      (first ++ second).under segment = first.under segment ++ second.under segment :=
  ⟨gathered findings, Report.append_assoc first second third,
    Report.under_append segment first second⟩

end CheckedQuery
