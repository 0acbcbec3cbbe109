import BrowserScript.Baseline.Report
import BrowserScript.Proofs.Json.ReadBack

/-!
# Reports as data

A report that holds only texts and nulls is written as data and read back without loss: every entry
with its selector and its issues, every issue with its eight fields in their order, and every table
of browser versions, whatever characters the texts consist of.
-/

namespace BrowserScript.Baseline

open Json

/-- An issue whose feature holds only texts and nulls, and different names in its table of versions. -/
structure Issue.IsTextual (issue : Issue) : Prop where
  id : ∃ text, issue.feature.id = optionalText text
  description : ∃ text, issue.feature.description = optionalText text
  versions : ∃ table : List (String × Option String), (table.map (·.1)).Nodup ∧
    issue.feature.versions = table.map fun row => (.str row.1, optionalText row.2)

theorem isTextual_optionalText (text : Option String) : isTextual (optionalText text) = true := by
  cases text <;> rfl

theorem areTextual_map {α : Type} {items : List α} {toValue : α → Value}
    (each : ∀ item ∈ items, isTextual (toValue item) = true) :
    areTextual (items.map toValue) = true := by
  induction items with
  | nil => rfl
  | cons item items ih =>
      obtain ⟨first, others⟩ := List.forall_mem_cons.1 each
      exact Bool.and_eq_true_iff.2 ⟨first, ih others⟩

/-- A mapping from different names to textual values is textual. -/
theorem isTextual_record {fields : List (String × Value)} (names : (fields.map (·.1)).Nodup)
    (each : ∀ field ∈ fields, isTextual field.2 = true) :
    isTextual (.map (fields.map fun field => (.str field.1, field.2))) = true := by
  refine Bool.and_eq_true_iff.2 ⟨?_, decide_eq_true ?_⟩
  · clear names
    induction fields with
    | nil => rfl
    | cons field fields ih =>
        obtain ⟨first, others⟩ := List.forall_mem_cons.1 each
        exact Bool.and_eq_true_iff.2 ⟨first, ih others⟩
  · rw [List.Nodup, List.pairwise_map] at names
    rw [List.pairwise_map]
    refine names.imp fun differ => Bool.eq_false_iff.2 fun same => differ ?_
    exact Value.str.inj (Value.isText_iff.1 same)

theorem isTextual_versions {issue : Issue} (textual : issue.IsTextual) :
    isTextual (.map issue.feature.versions) = true := by
  obtain ⟨table, names, same⟩ := textual.versions
  have record : issue.feature.versions =
      (table.map fun row => (row.1, optionalText row.2)).map fun field => (.str field.1, field.2) := by
    rw [same, List.map_map]
    rfl
  rw [record]
  refine isTextual_record ?_ ?_
  · rw [List.map_map]
    exact names
  · intro field member
    obtain ⟨row, _, rfl⟩ := List.mem_map.1 member
    exact isTextual_optionalText row.2

theorem isTextual_issue {issue : Issue} (textual : issue.IsTextual) :
    isTextual issue.toValue = true := by
  obtain ⟨id, isId⟩ := textual.id
  obtain ⟨description, isDescription⟩ := textual.description
  have record : issue.toValue = .map
      ([("property", .str issue.property), ("status", .str issue.feature.status.tag),
        ("featureId", issue.feature.id), ("baselineYear", optionalText issue.feature.year),
        ("description", issue.feature.description),
        ("browserCompat", .map issue.feature.versions),
        ("browserCompatSummary", .str issue.feature.summary),
        ("compatKey", .str issue.feature.compatKey)].map fun field => (.str field.1, field.2)) :=
    rfl
  rw [record, isId, isDescription]
  refine isTextual_record (by simp) ?_
  simp only [List.forall_mem_cons]
  exact ⟨rfl, rfl, isTextual_optionalText id, isTextual_optionalText _,
    isTextual_optionalText description, isTextual_versions textual, rfl, rfl,
    List.forall_mem_nil _⟩

theorem isTextual_entry {entry : ReportEntry} (textual : ∀ issue ∈ entry.issues, issue.IsTextual) :
    isTextual entry.toValue = true := by
  have record : entry.toValue = .map
      ([("selector", .str entry.selector),
        ("issues", .list (entry.issues.map Issue.toValue))].map fun field =>
          (.str field.1, field.2)) :=
    rfl
  have issues : isTextual (.list (entry.issues.map Issue.toValue)) = true :=
    areTextual_map fun issue member => isTextual_issue (textual issue member)
  rw [record]
  refine isTextual_record (by simp) ?_
  simp only [List.forall_mem_cons]
  exact ⟨rfl, issues, List.forall_mem_nil _⟩

/-- A report of texts and nulls has a text as data, and reading that text gives back all its entries
and issues, with their fields in the same order. -/
theorem report_data_reads_back (report : List ReportEntry)
    (textual : ∀ entry ∈ report, ∀ issue ∈ entry.issues, issue.IsTextual) :
    ∃ text, Report.json report = .ok text ∧
      Json.read text.toList = .ok (.list (report.map ReportEntry.toValue)) := by
  have whole : isTextual (.list (report.map ReportEntry.toValue)) = true :=
    areTextual_map fun entry member => isTextual_entry (textual entry member)
  exact write_reads_back rfl whole

/-- A report with marks, controls and letters of all kinds in its texts, with nulls, an empty table
and an entry without issues. -/
def markedReport : List ReportEntry :=
  [⟨"a[title=\"\\\"]",
     [⟨":has",
        { id := .str "tab\there"
          status := .low
          description := .null
          versions := [(.str "chrome", .str "1\x00\x1f\x7f"), (.str "", .null)]
          year := some "2020"
          summary := "é\u2028😀" }⟩,
      ⟨"gap", { id := .null, status := .high }⟩]⟩,
   ⟨"", []⟩]

theorem markedReport_reads_back :
    (∀ entry ∈ markedReport, ∀ issue ∈ entry.issues, issue.IsTextual) ∧
      ∃ text, Report.json markedReport = .ok text ∧
        Json.read text.toList = .ok (.list (markedReport.map ReportEntry.toValue)) := by
  have textual : ∀ entry ∈ markedReport, ∀ issue ∈ entry.issues, issue.IsTextual := by
    simp only [markedReport, List.forall_mem_cons]
    refine ⟨⟨?_, ?_, List.forall_mem_nil _⟩, List.forall_mem_nil _, List.forall_mem_nil _⟩
    · exact ⟨⟨some "tab\there", rfl⟩, ⟨none, rfl⟩,
        ⟨[("chrome", some "1\x00\x1f\x7f"), ("", none)], by decide, rfl⟩⟩
    · exact ⟨⟨none, rfl⟩, ⟨some "", rfl⟩, ⟨[], List.nodup_nil, rfl⟩⟩
  exact ⟨textual, report_data_reads_back markedReport textual⟩

end BrowserScript.Baseline
