import BrowserScript.Proofs.Baseline.Analysis
import BrowserScript.Proofs.Baseline.Sheets
import BrowserScript.Proofs.Baseline.Site
import BrowserScript.Proofs.Value.Literal

/-!
# The tables of an analysis

An analysis keeps the issues under each selector and, beside them, the identities it has seen there.
Whatever it walks through, from components of a value up to sequences of style sheets, the two
tables agree, no selector is without issues, no selector has an issue twice, and every issue is of a
feature that the lookup holds. Reports inherit this.
-/

namespace BrowserScript.Baseline

open Css

/-! ## Uses are of features that the lookup holds -/

def Lookup.Has (lookup : Lookup) (feature : Feature) : Prop :=
  ∃ identifier, lookup.get? identifier = some feature

theorem has_of_mem_uses {lookup : Lookup} {places : List Site} :
    ∀ use ∈ places.flatMap (Site.uses lookup), lookup.Has use.feature := by
  intro use used
  obtain ⟨site, _, usedAt⟩ := List.mem_flatMap.1 used
  obtain ⟨feature, found, rfl⟩ := Site.mem_uses.1 usedAt
  obtain ⟨identifier, _, held⟩ := List.exists_of_findSome?_eq_some found
  exact ⟨identifier, held⟩

/-- Issues of which none has the identity of one before it. -/
def Issue.Apart (issues : List Issue) : Prop :=
  issues.Pairwise fun earlier later => sameIdentity later.identity earlier.identity = false

/-- Where features are named by texts, issues that are apart have different identities. -/
theorem Issue.Apart.nodup {issues : List Issue} (apart : Apart issues)
    (texts : ∀ issue ∈ issues, ∃ name, issue.feature.id = .str name) :
    (issues.map Issue.identity).Nodup := by
  rw [List.Nodup, List.pairwise_map]
  refine List.Pairwise.imp_of_mem ?_ apart
  intro earlier later inIssues _ differ same
  obtain ⟨name, isText⟩ := texts earlier inIssues
  have equal : sameIdentity later.identity earlier.identity = true := by
    have known : earlier.identity = (.str name, earlier.property) :=
      congrArg (·, earlier.property) isText
    rw [← same, known, sameIdentity, Bool.and_eq_true, beq_iff_eq]
    exact ⟨Value.isText_iff.2 rfl, rfl⟩
  exact Bool.noConfusion (differ.symm.trans equal)

namespace Analysis

variable {analysis : Analysis} {lookup : Lookup}

/-! ## States -/

/-- The states that walks with a lookup lead to, each walk starting where another one ended. -/
inductive Reachable (lookup : Lookup) : Analysis → Prop where
  | empty : Reachable lookup {}
  | component {analysis : Analysis} (before : Reachable lookup analysis)
      (selector property : String) (part : Component) :
      Reachable lookup (component lookup selector property analysis part)
  | value {analysis : Analysis} (before : Reachable lookup analysis)
      (selector property : String) (parts : List Component) :
      Reachable lookup (value lookup selector property analysis parts)
  | declaration {analysis : Analysis} (before : Reachable lookup analysis)
      (selector name : String) (content : List Component) :
      Reachable lookup (declaration lookup selector name content analysis)
  | selector {analysis : Analysis} (before : Reachable lookup analysis)
      (parts : List Component) : Reachable lookup (selector lookup parts analysis)
  | atRule {analysis : Analysis} (before : Reachable lookup analysis)
      (name : String) (condition : List Component) :
      Reachable lookup (atRule lookup name condition analysis)
  | block {analysis : Analysis} (before : Reachable lookup analysis)
      (selector : String) (content : List Component) :
      Reachable lookup (block lookup selector content analysis)
  | node {analysis : Analysis} (before : Reachable lookup analysis) (rule : Node) :
      Reachable lookup (node lookup rule analysis)
  | walk {analysis : Analysis} (before : Reachable lookup analysis) (nodes : List Node) :
      Reachable lookup (walk lookup analysis nodes)

theorem reachable_sheets (lookup : Lookup) (sheets : List (List Node)) :
    Reachable lookup (sheets.foldl (walk lookup) {}) := by
  have run : ∀ analysis, Reachable lookup analysis →
      Reachable lookup (sheets.foldl (walk lookup) analysis) := by
    induction sheets with
    | nil => exact fun _ reached => reached
    | cons sheet sheets ih => exact fun _ reached => ih _ (reached.walk sheet)
  exact run {} .empty

/-- A state that has taken up uses of features that the lookup holds. -/
def Gathers (lookup : Lookup) (analysis : Analysis) : Prop :=
  ∃ occurrences, (∀ use ∈ occurrences, lookup.Has use.feature) ∧ Collects occurrences analysis

theorem Gathers.foldl (gathers : Gathers lookup analysis) (places : List Site) :
    Gathers lookup ((places.flatMap (Site.uses lookup)).foldl take analysis) := by
  obtain ⟨occurrences, held, collects⟩ := gathers
  exact ⟨_, List.forall_mem_append.2 ⟨held, has_of_mem_uses⟩, collects.foldl _⟩

theorem Reachable.gathers (reached : Reachable lookup analysis) : Gathers lookup analysis := by
  induction reached with
  | empty => exact ⟨[], List.forall_mem_nil _, rfl, rfl⟩
  | component _ selector property part ih =>
      rw [component_eq, componentUses_eq]
      exact ih.foldl _
  | value _ selector property parts ih =>
      rw [value_eq, valueUses_eq]
      exact ih.foldl _
  | declaration _ selector name content ih =>
      rw [declaration_eq, declarationUses_eq]
      exact ih.foldl _
  | selector _ parts ih =>
      rw [selector_eq, selectorUses_eq]
      exact ih.foldl _
  | atRule _ name condition ih =>
      rw [atRule_eq, atRuleUses_eq, ← List.flatMap_singleton (Site.uses lookup)]
      exact ih.foldl _
  | block _ selector content ih =>
      rw [block_eq, blockUses_eq]
      exact ih.foldl _
  | node _ rule ih =>
      rw [node_eq, nodeUses_eq]
      exact ih.foldl _
  | walk _ nodes ih =>
      rw [walk_eq, uses_eq_flatMap_sites]
      exact ih.foldl _

/-! ## The invariant -/

/-- The tables of a state belong together and repeat nothing. -/
structure Consistent (lookup : Lookup) (analysis : Analysis) : Prop where
  /-- The identities seen under a selector are those of its issues. -/
  seen_eq : analysis.seen = analysis.issues.map fun group =>
    (group.1, group.2.map Issue.identity)
  selectors : (analysis.issues.map (·.1)).Nodup
  nonempty : ∀ group ∈ analysis.issues, group.2 ≠ []
  apart : ∀ group ∈ analysis.issues, Issue.Apart group.2
  held : ∀ group ∈ analysis.issues, ∀ issue ∈ group.2, lookup.Has issue.feature

theorem issuesUnder_ne_nil {occurrences : List Occurrence} {selector : String}
    (listed : selector ∈ selectorsOf occurrences) : issuesUnder occurrences selector ≠ [] := by
  obtain ⟨use, member, rfl⟩ := mem_selectorsOf.1 listed
  obtain ⟨issue, kept, _⟩ := exists_issue_of_mem member
  exact List.ne_nil_of_mem kept

theorem Gathers.consistent (gathers : Gathers lookup analysis) : Consistent lookup analysis := by
  obtain ⟨occurrences, held, collects⟩ := gathers
  have issues : analysis.issues = (selectorsOf occurrences).map fun selector =>
      (selector, issuesUnder occurrences selector) := by
    rw [collects.issues, collected]
    simp only [List.map_id]
  have each (group : String × List Issue) (member : group ∈ analysis.issues) :
      group.1 ∈ selectorsOf occurrences ∧ group.2 = issuesUnder occurrences group.1 := by
    rw [issues] at member
    obtain ⟨selector, listed, rfl⟩ := List.mem_map.1 member
    exact ⟨listed, rfl⟩
  refine ⟨?_, ?_, ?_, ?_, ?_⟩
  · rw [collects.seen, issues, List.map_map, collected]
    rfl
  · rw [issues, List.map_map]
    exact (List.map_id (selectorsOf occurrences)).symm ▸ nodup_eraseDups _
  · intro group member
    rw [(each group member).2]
    exact issuesUnder_ne_nil (each group member).1
  · intro group member
    rw [(each group member).2]
    exact pairwise_eraseDupsBy _ _
  · intro group member issue listed
    rw [(each group member).2] at listed
    obtain ⟨use, used, _, rfl⟩ := exists_use_of_mem_issuesUnder listed
    exact held use used

end Analysis

/-! ## Reports -/

/-- A report in which nothing is empty, repeated or left out by the configuration. -/
structure IsReport (lookup : Lookup) (config : Config) (report : List ReportEntry) : Prop where
  selectors : (report.map (·.selector)).Nodup
  nonempty : ∀ entry ∈ report, entry.issues ≠ []
  apart : ∀ entry ∈ report, Issue.Apart entry.issues
  included : ∀ entry ∈ report, ∀ issue ∈ entry.issues,
    config.includes issue.feature.status = true
  held : ∀ entry ∈ report, ∀ issue ∈ entry.issues, lookup.Has issue.feature

/-- An entry of a report holds the issues of a group that the configuration asks for. -/
theorem Analysis.mem_report {config : Config} {analysis : Analysis} {entry : ReportEntry}
    (member : entry ∈ analysis.report config) :
    ∃ group ∈ analysis.issues, entry.selector = group.1 ∧ entry.issues ≠ [] ∧
      entry.issues = group.2.filter fun issue => config.includes issue.feature.status := by
  obtain ⟨group, listed, made⟩ := List.mem_filterMap.1 member
  dsimp only at made
  split at made
  · cases made
  · rename_i some
    cases made
    exact ⟨group, listed, rfl, fun none => some (List.isEmpty_iff.2 none), rfl⟩

theorem Analysis.selectors_report (config : Config) (analysis : Analysis) :
    ((analysis.report config).map (·.selector)).Sublist (analysis.issues.map (·.1)) := by
  rw [report]
  induction analysis.issues with
  | nil => exact .slnil
  | cons group groups ih =>
      rw [List.filterMap_cons]
      dsimp only
      split
      · exact ih.cons _
      · rename_i made
        split at made
        · cases made
        · cases made
          exact ih.cons_cons _

theorem Analysis.Consistent.isReport {lookup : Lookup} {analysis : Analysis}
    (consistent : Consistent lookup analysis) (config : Config) :
    IsReport lookup config (analysis.report config) := by
  refine ⟨consistent.selectors.sublist (selectors_report config analysis), ?_, ?_, ?_, ?_⟩
  · intro entry member
    obtain ⟨_, _, _, nonempty, _⟩ := mem_report member
    exact nonempty
  · intro entry member
    obtain ⟨group, listed, _, _, same⟩ := mem_report member
    rw [same]
    exact (consistent.apart group listed).filter _
  · intro entry member issue inEntry
    obtain ⟨_, _, _, _, same⟩ := mem_report member
    rw [same] at inEntry
    exact (List.mem_filter.1 inEntry).2
  · intro entry member issue inEntry
    obtain ⟨group, listed, _, _, same⟩ := mem_report member
    rw [same] at inEntry
    exact consistent.held group listed issue (List.mem_filter.1 inEntry).1

/-- Every state that walks lead to is consistent, and so every report repeats nothing, is nowhere
empty and holds what the configuration asks for. Where the features of the lookup are named by
texts, no two issues under a selector have the same name and syntax. -/
theorem walks_stay_consistent (lookup : Lookup) :
    (∀ analysis, Analysis.Reachable lookup analysis → analysis.Consistent lookup) ∧
      (∀ nodes config, IsReport lookup config (analyze nodes lookup config)) ∧
      ((∀ feature, lookup.Has feature → ∃ name, feature.id = .str name) →
        (∀ analysis, Analysis.Reachable lookup analysis → ∀ group ∈ analysis.issues,
          (group.2.map Issue.identity).Nodup) ∧
        ∀ nodes config, ∀ entry ∈ analyze nodes lookup config,
          (entry.issues.map Issue.identity).Nodup) := by
  have consistent (analysis : Analysis) (reached : Analysis.Reachable lookup analysis) :
      analysis.Consistent lookup := reached.gathers.consistent
  have reports (nodes : List Node) (config : Config) :
      IsReport lookup config (analyze nodes lookup config) :=
    (consistent _ (.walk .empty nodes)).isReport config
  refine ⟨consistent, reports, fun texts => ⟨?_, ?_⟩⟩
  · intro analysis reached group listed
    have fact := consistent analysis reached
    exact (fact.apart group listed).nodup fun issue member =>
      texts _ (fact.held group listed issue member)
  · intro nodes config entry listed
    have fact := reports nodes config
    exact (fact.apart entry listed).nodup fun issue member =>
      texts _ (fact.held entry listed issue member)

def gapTwice : List (List Node) :=
  [[.qualified [.ident "a"] gapContent], [.qualified [.ident "a"] gapContent]]

theorem gapTwice_stays_consistent :
    Analysis.Reachable gapLookup (gapTwice.foldl (Analysis.walk gapLookup) {}) ∧
      (∀ feature, gapLookup.Has feature → ∃ name, feature.id = .str name) ∧
      Analysis.Consistent gapLookup (gapTwice.foldl (Analysis.walk gapLookup) {}) ∧
      ((gapTwice.foldl (Analysis.walk gapLookup) {}).issues.map fun group =>
        (group.1, group.2.map (·.property))) = [("a", ["gap"])] ∧
      IsReport gapLookup fullScan (analyze gapTwice.flatten gapLookup fullScan) := by
  have reached := Analysis.reachable_sheets gapLookup gapTwice
  have texts : ∀ feature, gapLookup.Has feature → ∃ name, feature.id = .str name := by
    rintro feature ⟨identifier, found⟩
    obtain ⟨entry, listed, rfl⟩ := Option.map_eq_some_iff.1 found
    obtain rfl := List.mem_singleton.1 (List.mem_of_find?_eq_some listed)
    exact ⟨_, rfl⟩
  obtain ⟨consistent, reports, _⟩ := walks_stay_consistent gapLookup
  refine ⟨reached, texts, consistent _ reached, ?_, reports _ fullScan⟩
  simp only [gapTwice, List.foldl_cons, List.foldl_nil, Analysis.walk]
  rw [Analysis.node, Analysis.node, Analysis.block_eq_foldl, Analysis.block_eq_foldl,
    readNodes_gapContent]
  decide +kernel

end BrowserScript.Baseline
