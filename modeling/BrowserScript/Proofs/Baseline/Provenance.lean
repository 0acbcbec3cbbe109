import BrowserScript.Proofs.Baseline.Analysis
import BrowserScript.Proofs.Baseline.Lookup
import BrowserScript.Proofs.Baseline.Site

/-!
# Where issues come from

An issue of a report stands at a place of the style sheet whose lookup found its feature. The
feature in turn was built from an entry of the registry that passes the filter of the
configuration, and no later entry has changed it since.
-/

namespace BrowserScript.Baseline

open Css Value

variable {config : Config} {data : Entries} {issue : Issue} {nodes : List Node} {lookup : Lookup}
  {selector : String}

/-! ## From reports to places -/

def Reports (report : List ReportEntry) (selector : String) (issue : Issue) : Prop :=
  ∃ entry ∈ report, entry.selector = selector ∧ issue ∈ entry.issues

theorem reports_reportOf {occurrences : List Occurrence} :
    Reports (reportOf config occurrences) selector issue ↔
      issue ∈ issuesUnder occurrences selector ∧ config.includes issue.feature.status = true := by
  rw [← List.mem_filter (p := fun issue : Issue => config.includes issue.feature.status)]
  constructor
  · rintro ⟨entry, member, rfl, listed⟩
    obtain ⟨selector, _, made⟩ := List.mem_filterMap.1 member
    dsimp only at made
    split at made
    · cases made
    · cases made
      exact listed
  · intro kept
    have present : selector ∈ selectorsOf occurrences := by
      refine Decidable.byContradiction fun absent => ?_
      rw [issuesUnder_eq_nil absent] at kept
      cases kept
    refine ⟨_, List.mem_filterMap.2 ⟨selector, present, if_neg ?_⟩, rfl, kept⟩
    intro empty
    rw [List.isEmpty_iff.1 empty] at kept
    cases kept

theorem reports_analyze :
    Reports (analyze nodes lookup config) selector issue ↔
      issue ∈ issuesUnder (uses lookup nodes) selector ∧
        config.includes issue.feature.status = true := by
  have start : Analysis.Collects [] {} := ⟨rfl, rfl⟩
  rw [analyze, Analysis.walk_eq, (start.foldl (uses lookup nodes)).report config]
  exact reports_reportOf

/-- An issue stands at a place where its feature was found. -/
theorem exists_site_of_mem_issuesUnder (listed : issue ∈ issuesUnder (uses lookup nodes) selector) :
    ∃ site ∈ sites nodes, site.selector = selector ∧ site.construct.text = issue.property ∧
      site.found? lookup = some issue.feature := by
  obtain ⟨use, used, under, rfl⟩ := exists_use_of_mem_issuesUnder listed
  rw [uses_eq_flatMap_sites] at used
  obtain ⟨site, inSites, usedAt⟩ := List.mem_flatMap.1 used
  obtain ⟨feature, found, rfl⟩ := Site.mem_uses.1 usedAt
  exact ⟨site, inSites, under, rfl, found⟩

/-- A use has an issue with its syntax. The feature of the issue may be another one with the same
identifier. -/
theorem exists_issue_of_used {use : Occurrence} (used : use ∈ uses lookup nodes) :
    ∃ issue ∈ issuesUnder (uses lookup nodes) use.selector,
      issue.property = use.property ∧
        (issue.feature = use.feature ∨ use.feature.id.equals issue.feature.id = true) := by
  obtain ⟨issue, kept, rfl | same⟩ := exists_issue_of_mem used
  · exact ⟨use.issue, kept, rfl, .inl rfl⟩
  · obtain ⟨sameId, sameProperty⟩ := Bool.and_eq_true_iff.1 same
    exact ⟨issue, kept, (eq_of_beq sameProperty).symm, .inr sameId⟩

/-- What is found at a place has an issue with the syntax of the place. Its feature may be another
one with the same identifier. -/
theorem exists_issue_of_found {site : Site}
    (member : site ∈ sites nodes) {feature : Feature} (found : site.found? lookup = some feature) :
    ∃ issue ∈ issuesUnder (uses lookup nodes) site.selector,
      issue.property = site.construct.text ∧
        (issue.feature = feature ∨ feature.id.equals issue.feature.id = true) := by
  let use : Occurrence := ⟨site.selector, feature, site.construct.text⟩
  have used : use ∈ uses lookup nodes := by
    rw [uses_eq_flatMap_sites]
    exact List.mem_flatMap.2 ⟨site, member, Site.mem_uses.2 ⟨feature, found, rfl⟩⟩
  exact exists_issue_of_used used

/-! ## From features to registry entries -/

/-- A feature that a configuration takes from a registry entry with the given parts. -/
structure Feature.TakenFrom (feature : Feature) (config : Config) (entry : Value × Value)
    (fields data : Entries) (keys : List Value) : Prop where
  usable : Lookup.usable? entry.2 = some (fields, data, keys)
  id : feature.id = entry.1
  labelled : (Entries.get? data "baseline").bind Status.ofValue? = some feature.status
  included : config.includes feature.status = true
  /-- The year since which the feature is widely available, where there is one, is not before the
  threshold. -/
  recent : ∃ since,
    FeatureDate.year? ((Entries.get? data "baseline_high_date").getD .null) = .ok since ∧
      ∀ year ∈ since, ∀ threshold ∈ config.yearThreshold, threshold ≤ year
  listed : ∃ key ∈ keys, key.display = .ok feature.compatKey
  described : ∃ year, FeatureDate.baselineYear data = .ok year ∧
    feature = Lookup.featureOf entry.1 feature.status fields data year feature.compatKey

theorem FeatureDate.firstYear?_nonneg {text : List Char} {year : Int}
    (found : firstYear? text = some year) : 0 ≤ year := by
  induction text with
  | nil => cases found
  | cons c rest ih =>
      rw [firstYear?] at found
      split at found
      · cases found
        exact Int.natCast_nonneg _
      · exact ih found

theorem FeatureDate.year?_nonneg {date : Value} {since : Option Int} (dated : year? date = .ok since)
    {year : Int} (member : year ∈ since) : 0 ≤ year := by
  unfold year? at dated
  split at dated
  · obtain ⟨text, _, dated⟩ := bind_eq_ok dated
    cases dated
    exact firstYear?_nonneg member
  · cases dated
    cases member

/-- The year of a feature rests on that of its wide availability. -/
theorem FeatureDate.year?_high_of_baselineYear {year : Option String}
    (dated : baselineYear data = .ok year) :
    ∃ since, year? ((Entries.get? data "baseline_high_date").getD .null) = .ok since := by
  obtain ⟨since, found, _⟩ := bind_eq_ok dated
  by_cases given : ((Entries.get? data "baseline_high_date").getD .null).truthy = true
  · rw [orElse, if_pos given] at found
    exact ⟨since, found⟩
  · exact ⟨none, if_neg given⟩

theorem Candidate.isRecent_iff :
    isRecent config data = true ↔
      ∀ threshold ∈ config.yearThreshold, ∀ year,
        FeatureDate.year? ((Entries.get? data "baseline_high_date").getD .null) = .ok (some year) →
          threshold = 0 ∨ threshold ≤ year := by
  unfold isRecent
  split
  · rename_i threshold year set dated
    simp [set, dated]
  · rename_i other
    refine iff_of_true rfl ?_
    intro threshold set year dated
    exact absurd dated (other threshold year set)

theorem Candidate.threshold_le_of_isRecent
    (recent : isRecent config data = true) {since : Option Int}
    (dated : FeatureDate.year? ((Entries.get? data "baseline_high_date").getD .null) = .ok since) :
    ∀ year ∈ since, ∀ threshold ∈ config.yearThreshold, threshold ≤ year := by
  intro year member threshold set
  have nonneg := FeatureDate.year?_nonneg dated member
  cases member
  rcases isRecent_iff.1 recent threshold set year dated with rfl | notBefore
  · exact nonneg
  · exact notBefore

/-- A candidate of a registry and the feature it describes are taken from one of its entries. -/
theorem Candidate.takenFrom_of_mem {registry : Registry} {candidate : Candidate}
    (member : candidate ∈ ofRegistry registry config) {feature : Feature}
    (described : candidate.Describes feature) :
    ∃ entry ∈ registry.features, ∃ fields data keys,
      feature.TakenFrom config entry fields data keys ∧
        CompatKey.identifier? feature.compatKey = some candidate.identifier := by
  obtain ⟨entry, inRegistry, ofEntry⟩ := List.mem_flatMap.1 member
  unfold Candidate.ofEntry at ofEntry
  split at ofEntry
  · cases ofEntry
  · rename_i fields data keys usable
    unfold ofParts at ofEntry
    split at ofEntry
    · cases ofEntry
    · rename_i status labelled
      split at ofEntry
      · rename_i passes
        obtain ⟨included, recent⟩ := Bool.and_eq_true_iff.1 passes
        obtain ⟨key, inKeys, isKey⟩ := List.mem_filterMap.1 ofEntry
        unfold ofKey? at isKey
        split at isKey
        · cases isKey
        · rename_i shown display
          obtain ⟨identifier, named, rfl⟩ := Option.map_eq_some_iff.1 isKey
          obtain ⟨year, dated, rfl⟩ := described
          obtain ⟨since, highDated⟩ := FeatureDate.year?_high_of_baselineYear dated
          refine ⟨entry, inRegistry, fields, data, keys, ?_, named⟩
          exact {
            usable, labelled, included
            id := rfl
            recent := ⟨since, highDated, threshold_le_of_isRecent recent highDated⟩
            listed := ⟨key, inKeys, display⟩
            described := ⟨year, dated, rfl⟩ }
      · cases ofEntry

theorem Candidate.Wins.mem {winner : Candidate} {candidates : List Candidate}
    (wins : winner.Wins candidates) : winner ∈ candidates := by
  obtain ⟨earlier, later, rfl, _⟩ := wins
  exact List.mem_append_right _ List.mem_cons_self

namespace Lookup

variable {config : Config} {lookup : Lookup} {registry : Registry}

theorem mem_candidatesFor {candidates : List Candidate} {identifier : String}
    {candidate : Candidate} :
    candidate ∈ candidatesFor candidates identifier ↔
      candidate ∈ candidates ∧ candidate.identifier = identifier := by
  rw [candidatesFor, List.mem_filter, decide_eq_true_eq]

theorem ofRegistry_holds
    {lines : List LogLine} (built : ofRegistry registry config = .ok (lookup, lines)) :
    Holds (Candidate.ofRegistry registry config) lookup := by
  obtain ⟨⟨skipped, held⟩, folded, built⟩ := bind_eq_ok built
  cases built
  have start : Holds [] [] := by
    refine ⟨rfl, ?_⟩
    intro identifier feature stored
    cases stored
  exact foldlM_induction (fun candidates (state : Nat × Lookup) => Holds candidates state.2)
    (fun before added => before.addEntry added) start folded

theorem ofRegistry_writtenIf (registry : Registry) (config : Config) :
    WrittenIf (entriesWritable registry.features) (ofRegistry registry config) := by
  rw [entriesWritable_eq_all]
  exact .bind (.foldlM (addEntry_writtenIf config) registry.features (0, [])) fun _ => .ok _

theorem ofRegistry_outcome (registry : Registry) (config : Config) :
    (∃ lookup lines, ofRegistry registry config = .ok (lookup, lines) ∧
      Holds (Candidate.ofRegistry registry config) lookup) ∨
    (ofRegistry registry config = .error Fault.tooLong ∧
      entriesWritable registry.features = false) := by
  cases built : ofRegistry registry config with
  | error fault =>
      obtain ⟨unwritable, long⟩ := ofRegistry_writtenIf registry config fault built
      exact .inr ⟨congrArg _ long, unwritable⟩
  | ok result => exact .inl ⟨result.1, result.2, rfl, ofRegistry_holds built⟩

/-- A feature of a lookup is taken from an entry of the registry, and its key stands for the
identifier it is found under. -/
theorem Holds.takenFrom
    (holds : Holds (Candidate.ofRegistry registry config) lookup) {identifier : String}
    {feature : Feature} (stored : lookup.get? identifier = some feature) :
    ∃ entry ∈ registry.features, ∃ fields data keys,
      feature.TakenFrom config entry fields data keys ∧
        CompatKey.identifier? feature.compatKey = some identifier := by
  obtain ⟨winner, wins, described⟩ := holds.stored stored
  obtain ⟨member, rfl⟩ := mem_candidatesFor.1 wins.mem
  exact Candidate.takenFrom_of_mem member described

/-- What is found at a place is taken from the registry as well. -/
theorem Holds.takenFrom_of_found
    (holds : Holds (Candidate.ofRegistry registry config) lookup) {site : Site} {feature : Feature}
    (found : site.found? lookup = some feature) :
    ∃ entry ∈ registry.features, ∃ fields data keys,
      feature.TakenFrom config entry fields data keys ∧
        ∃ identifier ∈ site.construct.keys,
          CompatKey.identifier? feature.compatKey = some identifier := by
  obtain ⟨identifier, isKey, stored⟩ := List.exists_of_findSome?_eq_some found
  obtain ⟨entry, inRegistry, fields, data, keys, taken, named⟩ := holds.takenFrom stored
  exact ⟨entry, inRegistry, fields, data, keys, taken, identifier, isKey, named⟩

/-- A place with a candidate for one of its identifiers has an issue. -/
theorem Holds.reports_of_candidate
    (holds : Holds (Candidate.ofRegistry registry config) lookup) {nodes : List Node} {site : Site}
    (inSites : site ∈ sites nodes) {candidate : Candidate}
    (member : candidate ∈ Candidate.ofRegistry registry config)
    (isKey : candidate.identifier ∈ site.construct.keys) :
    ∃ issue, Reports (analyze nodes lookup config) site.selector issue ∧
      issue.property = site.construct.text := by
  have known : (lookup.get? candidate.identifier).isSome = true :=
    isSome_get?.2 (holds.mem_keys.2 ⟨candidate, member, rfl⟩)
  obtain ⟨feature, found⟩ :=
    Option.isSome_iff_exists.1 (List.findSome?_isSome_iff.2 ⟨_, isKey, known⟩)
  obtain ⟨issue, listed, named, _⟩ := exists_issue_of_found inSites found
  obtain ⟨_, _, _, _, found⟩ := exists_site_of_mem_issuesUnder listed
  obtain ⟨_, _, _, _, _, taken, _⟩ := holds.takenFrom_of_found found
  exact ⟨issue, reports_analyze.2 ⟨listed, taken.included⟩, named⟩

end Lookup

/-- Every issue of a scan comes from a well-formed registry entry that the configuration includes,
and the key of that entry stands for an identifier under which the syntax of the issue was looked
up. Conversely, every place with a candidate for one of its identifiers has an issue. The lookup can
fail to be built only where the registry holds an integer that is too long to be written. -/
theorem issues_come_from_registry (registry : Registry) (config : Config) (nodes : List Node) :
    (∃ lookup lines, Lookup.ofRegistry registry config = .ok (lookup, lines) ∧
      (∀ selector issue, Reports (analyze nodes lookup config) selector issue →
        ∃ entry ∈ registry.features, ∃ fields data keys,
          issue.feature.TakenFrom config entry fields data keys ∧
          ∃ site ∈ sites nodes, site.selector = selector ∧
            site.construct.text = issue.property ∧
            ∃ identifier ∈ site.construct.keys,
              CompatKey.identifier? issue.feature.compatKey = some identifier) ∧
      ∀ site ∈ sites nodes, ∀ candidate ∈ Candidate.ofRegistry registry config,
        candidate.identifier ∈ site.construct.keys →
          ∃ issue, Reports (analyze nodes lookup config) site.selector issue ∧
            issue.property = site.construct.text) ∨
    (Lookup.ofRegistry registry config = .error Fault.tooLong ∧
      entriesWritable registry.features = false) := by
  rcases Lookup.ofRegistry_outcome registry config with ⟨lookup, lines, built, holds⟩ | failed
  · refine .inl ⟨lookup, lines, built, ?_, ?_⟩
    · intro selector issue reported
      have listed := (reports_analyze.1 reported).1
      obtain ⟨site, inSites, under, named, found⟩ := exists_site_of_mem_issuesUnder listed
      obtain ⟨entry, inRegistry, fields, data, keys, taken, key⟩ := holds.takenFrom_of_found found
      exact ⟨entry, inRegistry, fields, data, keys, taken, site, inSites, under, named, key⟩
    · intro site inSites candidate member isKey
      exact holds.reports_of_candidate inSites member isKey
  · exact .inr failed

end BrowserScript.Baseline
