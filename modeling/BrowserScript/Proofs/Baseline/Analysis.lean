import BrowserScript.Proofs.Baseline.Occurrence
import BrowserScript.Proofs.Groups

/-!
# The report of an analysis

The report can be read off the list of uses: selectors in the order of their first use, under each
selector the first use of every feature and syntax, and of these the issues that the configuration
asks for. The walk keeps its two tables in step with this reading of the uses it has seen.
-/

namespace BrowserScript.Baseline

variable {occurrences : List Occurrence} {selector : String}

/-- The selectors of uses, in the order of their first use. -/
def selectorsOf (occurrences : List Occurrence) : List String :=
  (occurrences.map (·.selector)).eraseDups

/-- The issues of a selector: the first use of each feature and syntax. -/
def issuesUnder (occurrences : List Occurrence) (selector : String) : List Issue :=
  ((occurrences.filter (·.selector = selector)).map Occurrence.issue).eraseDupsBy
    fun new old => Issue.sameIdentity new.identity old.identity

def reportOf (config : Config) (occurrences : List Occurrence) : List ReportEntry :=
  (selectorsOf occurrences).filterMap fun selector =>
    let kept := (issuesUnder occurrences selector).filter fun issue =>
      config.includes issue.feature.status
    if kept.isEmpty then none else some ⟨selector, kept⟩

def isRepeated (occurrences : List Occurrence) (occurrence : Occurrence) : Bool :=
  (issuesUnder occurrences occurrence.selector).any fun issue =>
    Issue.sameIdentity occurrence.issue.identity issue.identity

theorem mem_selectorsOf :
    selector ∈ selectorsOf occurrences ↔ ∃ use ∈ occurrences, use.selector = selector := by
  rw [selectorsOf, List.mem_eraseDups, List.mem_map]

theorem selectorsOf_concat (occurrences : List Occurrence) (occurrence : Occurrence) :
    selectorsOf (occurrences ++ [occurrence]) =
      if occurrence.selector ∈ selectorsOf occurrences then selectorsOf occurrences
      else selectorsOf occurrences ++ [occurrence.selector] := by
  simp only [selectorsOf, List.map_append, List.map_cons, List.map_nil, eraseDups_concat,
    List.mem_eraseDups]

theorem issuesUnder_concat (occurrences : List Occurrence) (occurrence : Occurrence)
    (selector : String) :
    issuesUnder (occurrences ++ [occurrence]) selector =
      if selector = occurrence.selector ∧ isRepeated occurrences occurrence = false then
        issuesUnder occurrences selector ++ [occurrence.issue]
      else issuesUnder occurrences selector := by
  by_cases equal : selector = occurrence.selector
  · subst equal
    have last : (occurrences ++ [occurrence]).filter (·.selector = occurrence.selector) =
        occurrences.filter (·.selector = occurrence.selector) ++ [occurrence] := by
      simp [List.filter_append]
    rw [issuesUnder, last, List.map_append, List.map_singleton, eraseDupsBy_concat]
    change (if isRepeated occurrences occurrence = true then _ else _) = _
    cases isRepeated occurrences occurrence <;> simp [issuesUnder]
  · have last : (occurrences ++ [occurrence]).filter (·.selector = selector) =
        occurrences.filter (·.selector = selector) := by
      simp [List.filter_append, Ne.symm equal]
    rw [if_neg (fun both => equal both.1), issuesUnder, last, issuesUnder]

theorem issuesUnder_eq_nil
    (absent : selector ∉ selectorsOf occurrences) : issuesUnder occurrences selector = [] := by
  have none : occurrences.filter (·.selector = selector) = [] := by
    rw [List.filter_eq_nil_iff]
    intro use member found
    exact absent (mem_selectorsOf.2 ⟨use, member, of_decide_eq_true found⟩)
  rw [issuesUnder, none]
  rfl

/-- A use is an issue of its selector, or has the identity of one. -/
theorem exists_issue_of_mem {use : Occurrence} (member : use ∈ occurrences) :
    ∃ issue ∈ issuesUnder occurrences use.selector,
      issue = use.issue ∨ Issue.sameIdentity use.issue.identity issue.identity = true :=
  kept_or_same_of_mem (fun new old : Issue => Issue.sameIdentity new.identity old.identity)
    (List.mem_map_of_mem (List.mem_filter.2 ⟨member, decide_eq_true rfl⟩))

/-- Every issue of a selector is one of its uses. -/
theorem exists_use_of_mem_issuesUnder
    {issue : Issue} (listed : issue ∈ issuesUnder occurrences selector) :
    ∃ use ∈ occurrences, use.selector = selector ∧ use.issue = issue := by
  obtain ⟨use, member, same⟩ := List.mem_map.1 (mem_of_mem_eraseDupsBy listed)
  obtain ⟨used, under⟩ := List.mem_filter.1 member
  exact ⟨use, used, of_decide_eq_true under, same⟩

def collected {β : Type} (part : Issue → β) (occurrences : List Occurrence) : Groups String β :=
  (selectorsOf occurrences).map fun selector =>
    (selector, (issuesUnder occurrences selector).map part)

namespace Analysis

variable {analysis : Analysis} {occurrences : List Occurrence}

theorem sameSelector_iff (left right : String) : sameSelector left right = true ↔ left = right :=
  beq_iff_eq

structure Collects (occurrences : List Occurrence) (analysis : Analysis) : Prop where
  issues : analysis.issues = collected id occurrences
  seen : analysis.seen = collected Issue.identity occurrences

theorem Collects.get_seen (collects : Collects occurrences analysis) (selector : String) :
    analysis.seen.get sameSelector selector =
      (issuesUnder occurrences selector).map Issue.identity := by
  rw [collects.seen, collected, Groups.get_map sameSelector_iff]
  split
  · rfl
  · rename_i absent
    rw [issuesUnder_eq_nil absent, List.map_nil]

/-- A use that is not repeated joins the end of its group. -/
theorem add_collected {β : Type} (part : Issue → β)
    {occurrence : Occurrence} (fresh : isRepeated occurrences occurrence = false) :
    (collected part occurrences).add sameSelector occurrence.selector (part occurrence.issue) =
      collected part (occurrences ++ [occurrence]) := by
  have distinct : (selectorsOf occurrences).Nodup := nodup_eraseDups _
  rw [collected, collected, Groups.add_map sameSelector_iff distinct, selectorsOf_concat]
  simp only [issuesUnder_concat, fresh, and_true]
  split
  · refine List.map_congr_left ?_
    intro selector _
    split <;> simp
  · rename_i absent
    have others : ∀ selector ∈ selectorsOf occurrences, selector ≠ occurrence.selector :=
      fun selector member equal => absent (equal ▸ member)
    rw [List.map_append, List.map_singleton, if_pos rfl, issuesUnder_eq_nil absent]
    congr 1
    refine List.map_congr_left ?_
    intro selector member
    rw [if_neg (others selector member)]

/-- A repeated use changes nothing. -/
theorem collected_of_isRepeated {β : Type} (part : Issue → β)
    {occurrence : Occurrence} (repeated : isRepeated occurrences occurrence = true) :
    collected part (occurrences ++ [occurrence]) = collected part occurrences := by
  have present : occurrence.selector ∈ selectorsOf occurrences := by
    refine Decidable.byContradiction fun absent => ?_
    rw [isRepeated, issuesUnder_eq_nil absent] at repeated
    cases repeated
  simp [collected, selectorsOf_concat, issuesUnder_concat, present, repeated]

theorem Collects.take (collects : Collects occurrences analysis) (occurrence : Occurrence) :
    Collects (occurrences ++ [occurrence]) (analysis.take occurrence) := by
  have known : (analysis.seen.get sameSelector occurrence.selector).any
      (Issue.sameIdentity occurrence.issue.identity) = isRepeated occurrences occurrence := by
    rw [collects.get_seen, List.any_map]
    rfl
  cases repeated : isRepeated occurrences occurrence with
  | true =>
      have unchanged : analysis.take occurrence = analysis := if_pos (known.trans repeated)
      rw [unchanged]
      constructor
      · rw [collected_of_isRepeated _ repeated, collects.issues]
      · rw [collected_of_isRepeated _ repeated, collects.seen]
  | false =>
      have added : analysis.take occurrence =
          { issues := analysis.issues.add sameSelector occurrence.selector occurrence.issue
            seen := analysis.seen.add sameSelector occurrence.selector
              occurrence.issue.identity } :=
        if_neg (ne_true_of_eq_false (known.trans repeated))
      rw [added]
      constructor
      · rw [← add_collected id repeated, collects.issues]
        rfl
      · rw [← add_collected Issue.identity repeated, collects.seen]

theorem Collects.foldl {before : List Occurrence}
    (collects : Collects before analysis) (occurrences : List Occurrence) :
    Collects (before ++ occurrences) (occurrences.foldl Analysis.take analysis) := by
  induction occurrences generalizing before analysis with
  | nil =>
      rw [List.append_nil]
      exact collects
  | cons first rest ih =>
      have further := ih (collects.take first)
      rw [List.append_assoc] at further
      exact further

theorem Collects.report (collects : Collects occurrences analysis) (config : Config) :
    analysis.report config = reportOf config occurrences := by
  rw [Analysis.report, collects.issues, collected, List.filterMap_map, reportOf]
  simp only [Function.comp_def, List.map_id]

end Analysis

/-- The report on rules is the report on their listed uses: no use is lost, added or moved by
collecting them on the way. -/
theorem analyze_eq_reportOf_uses (nodes : List Css.Node) (lookup : Lookup) (config : Config) :
    analyze nodes lookup config = reportOf config (uses lookup nodes) := by
  have start : Analysis.Collects [] {} := ⟨rfl, rfl⟩
  rw [analyze, Analysis.walk_eq]
  exact (start.foldl (uses lookup nodes)).report config

end BrowserScript.Baseline
