import BrowserScript.Proofs.Baseline.Provenance
import Mathlib.Data.List.Nodup

/-!
# Two configurations

The candidates that a configuration lets through are a part, in the same order, of those that a
looser one lets through. So a looser scan reports at least the same places, if perhaps other
features there; and a lookup that was built too loosely finds, of what a strict report lists, only
what the strict lookup finds as well.
-/

namespace BrowserScript.Baseline

open Css Value

/-- A configuration that lets through all that another one does. A threshold of zero counts as none
at all. -/
structure Config.Loosens (wide narrow : Config) : Prop where
  includes : ∀ status, narrow.includes status = true → wide.includes status = true
  threshold : ∀ year ∈ wide.yearThreshold, year ≠ 0 →
    ∃ later ∈ narrow.yearThreshold, later ≠ 0 ∧ year ≤ later

theorem Config.loosens_of_same_threshold {wide narrow : Config}
    (includes : ∀ status, narrow.includes status = true → wide.includes status = true)
    (same : wide.yearThreshold = narrow.yearThreshold) : wide.Loosens narrow :=
  ⟨includes, fun year set nonzero => ⟨year, same ▸ set, nonzero, Int.le_refl year⟩⟩

/-! ## Candidates of the looser configuration -/

namespace Candidate

variable {candidate : Candidate}

def passes (config : Config) (candidate : Candidate) : Bool :=
  config.includes candidate.status && isRecent config candidate.data

theorem isRecent_of_loosens {wide narrow : Config} (loosens : wide.Loosens narrow) {data : Entries}
    (recent : isRecent narrow data = true) : isRecent wide data = true := by
  refine isRecent_iff.2 ?_
  intro threshold set year dated
  refine Decidable.or_iff_not_imp_left.2 ?_
  intro nonzero
  obtain ⟨later, alsoSet, laterNonzero, notLater⟩ := loosens.threshold threshold set nonzero
  have notBefore := (isRecent_iff.1 recent later alsoSet year dated).resolve_left laterNonzero
  exact Int.le_trans notLater notBefore

theorem ofKey?_status_data {id : Value} {status : Status} {fields data : Entries} {key : Value}
    (isKey : ofKey? id status fields data key = some candidate) :
    candidate.status = status ∧ candidate.data = data := by
  unfold ofKey? at isKey
  split at isKey
  · cases isKey
  · obtain ⟨identifier, _, rfl⟩ := Option.map_eq_some_iff.1 isKey
    exact ⟨rfl, rfl⟩

/-- The keys of one entry are let through together. -/
theorem filter_passes_filterMap_ofKey? (config : Config) (id : Value) (status : Status)
    (fields data : Entries) (keys : List Value) :
    (keys.filterMap (ofKey? id status fields data)).filter (passes config) =
      if config.includes status && isRecent config data then
        keys.filterMap (ofKey? id status fields data)
      else [] := by
  have together : ∀ candidate ∈ keys.filterMap (ofKey? id status fields data),
      passes config candidate = (config.includes status && isRecent config data) := by
    intro candidate member
    obtain ⟨key, _, isKey⟩ := List.mem_filterMap.1 member
    obtain ⟨sameStatus, sameData⟩ := ofKey?_status_data isKey
    rw [passes, sameStatus, sameData]
  rw [List.filter_congr together]
  cases config.includes status && isRecent config data <;> simp

/-- A configuration lets through those of a looser one's candidates that pass. -/
theorem ofRegistry_eq_filter {wide narrow : Config} (loosens : wide.Loosens narrow)
    (registry : Registry) :
    ofRegistry registry narrow = (ofRegistry registry wide).filter (passes narrow) := by
  rw [ofRegistry, ofRegistry, List.filter_flatMap]
  congr 1
  funext entry
  unfold ofEntry
  cases Lookup.usable? entry.2 with
  | none => rfl
  | some parts =>
      obtain ⟨fields, data, keys⟩ := parts
      dsimp only [ofParts]
      cases (Entries.get? data "baseline").bind Status.ofValue? with
      | none => rfl
      | some status =>
          dsimp only
          by_cases widely : (wide.includes status && isRecent wide data) = true
          · rw [if_pos widely, filter_passes_filterMap_ofKey?]
          · have narrowly : ¬ (narrow.includes status && isRecent narrow data) = true := by
              intro both
              obtain ⟨included, recent⟩ := Bool.and_eq_true_iff.1 both
              exact widely (Bool.and_eq_true_iff.2
                ⟨loosens.includes status included, isRecent_of_loosens loosens recent⟩)
            rw [if_neg widely, if_neg narrowly]
            rfl

theorem passes_of_mem {registry : Registry} {config : Config}
    (member : candidate ∈ ofRegistry registry config) : passes config candidate = true := by
  rw [ofRegistry_eq_filter (Config.loosens_of_same_threshold (fun _ given => given) rfl)] at member
  exact (List.mem_filter.1 member).2

/-- A winner that is let through wins among those that are. -/
theorem Wins.filter {winner : Candidate} {candidates : List Candidate}
    (wins : winner.Wins candidates) {keep : Candidate → Bool} (kept : keep winner = true) :
    winner.Wins (candidates.filter keep) := by
  obtain ⟨earlier, later, rfl, before, after⟩ := wins
  refine ⟨earlier.filter keep, later.filter keep, ?_, ?_, ?_⟩
  · rw [List.filter_append, List.filter_cons_of_pos kept]
  · exact fun other member => before other (List.mem_filter.1 member).1
  · exact fun other member => after other (List.mem_filter.1 member).1

/-- No two candidates win: the one that comes first would be less restrictive than the other. -/
theorem Wins.unique {first second : Candidate} {candidates : List Candidate}
    (firstWins : first.Wins candidates) (secondWins : second.Wins candidates) : first = second := by
  have rankLe := secondWins.rank_le firstWins.mem
  have rankGe := firstWins.rank_le secondWins.mem
  obtain ⟨earlier, later, split, _, after⟩ := firstWins
  obtain ⟨otherEarlier, otherLater, otherSplit, _, otherAfter⟩ := secondWins
  rcases List.append_eq_append_iff.1 (split.symm.trans otherSplit) with
    ⟨between, _, rest⟩ | ⟨between, _, rest⟩
  · cases between with
    | nil => exact (List.cons.inj rest).1
    | cons candidate between =>
        have less := after second ((List.cons.inj rest).2 ▸
          List.mem_append_right between List.mem_cons_self)
        exact absurd rankLe (Nat.not_le.2 less)
  · cases between with
    | nil => exact (List.cons.inj rest).1.symm
    | cons candidate between =>
        have less := otherAfter first ((List.cons.inj rest).2 ▸
          List.mem_append_right between List.mem_cons_self)
        exact absurd rankGe (Nat.not_le.2 less)

theorem Describes.unique {first second : Feature}
    (firstDescribed : candidate.Describes first) (secondDescribed : candidate.Describes second) :
    first = second := by
  obtain ⟨year, dated, rfl⟩ := firstDescribed
  obtain ⟨otherYear, otherDated, rfl⟩ := secondDescribed
  rw [dated] at otherDated
  cases otherDated
  rfl

end Candidate

namespace Lookup

theorem candidatesFor_filter (keep : Candidate → Bool) (candidates : List Candidate)
    (identifier : String) :
    candidatesFor (candidates.filter keep) identifier =
      (candidatesFor candidates identifier).filter keep :=
  List.filter_comm _ _ _

theorem Holds.get?_of_wins {candidates : List Candidate} {lookup : Lookup}
    (holds : Holds candidates lookup) {identifier : String} {winner : Candidate}
    (wins : winner.Wins (candidatesFor candidates identifier)) {feature : Feature}
    (described : winner.Describes feature) : lookup.get? identifier = some feature := by
  cases stored : lookup.get? identifier with
  | none =>
      have member := wins.mem
      rw [holds.get?_eq_none.1 stored] at member
      cases member
  | some other =>
      obtain ⟨otherWinner, otherWins, otherDescribed⟩ := holds.stored stored
      cases wins.unique otherWins
      rw [described.unique otherDescribed]

section

variable {registry : Registry} {wide narrow : Config} {wideLookup narrowLookup : Lookup}
variable {feature : Feature}

/-- An identifier of the narrower lookup has an equally or more restrictive feature in the wider
one. -/
theorem Holds.get?_of_loosens (loosens : wide.Loosens narrow)
    (wideHolds : Holds (Candidate.ofRegistry registry wide) wideLookup)
    (narrowHolds : Holds (Candidate.ofRegistry registry narrow) narrowLookup) {identifier : String}
    (stored : narrowLookup.get? identifier = some feature) :
    ∃ other, wideLookup.get? identifier = some other ∧
      feature.status.restrictiveness ≤ other.status.restrictiveness := by
  obtain ⟨winner, wins, described⟩ := narrowHolds.stored stored
  have member : winner ∈ candidatesFor (Candidate.ofRegistry registry wide) identifier := by
    have narrowly := wins.mem
    rw [Candidate.ofRegistry_eq_filter loosens, candidatesFor_filter] at narrowly
    exact (List.mem_filter.1 narrowly).1
  cases found : wideLookup.get? identifier with
  | none =>
      rw [wideHolds.get?_eq_none.1 found] at member
      cases member
  | some other =>
      obtain ⟨wideWinner, wideWins, wideDescribed⟩ := wideHolds.stored found
      refine ⟨other, rfl, ?_⟩
      rw [described.status, wideDescribed.status]
      exact wideWins.rank_le member

/-- With the same threshold, the narrower lookup has what it includes of the wider one. -/
theorem Holds.get?_narrow (loosens : wide.Loosens narrow)
    (same : wide.yearThreshold = narrow.yearThreshold)
    (wideHolds : Holds (Candidate.ofRegistry registry wide) wideLookup)
    (narrowHolds : Holds (Candidate.ofRegistry registry narrow) narrowLookup)
    {identifier : String} (stored : wideLookup.get? identifier = some feature)
    (included : narrow.includes feature.status = true) :
    narrowLookup.get? identifier = some feature := by
  obtain ⟨winner, wins, described⟩ := wideHolds.stored stored
  have passes : Candidate.passes narrow winner = true := by
    have widely := Candidate.passes_of_mem (mem_candidatesFor.1 wins.mem).1
    rw [Candidate.passes, Bool.and_eq_true_iff] at widely ⊢
    rw [← described.status, Candidate.isRecent, ← same]
    exact ⟨included, widely.2⟩
  refine narrowHolds.get?_of_wins ?_ described
  rw [Candidate.ofRegistry_eq_filter loosens, candidatesFor_filter]
  exact wins.filter passes

/-- The same holds of what is found at a place. An identifier that is tried first and that the wider
lookup does not have is missing in the narrower one too. -/
theorem Holds.found?_narrow (loosens : wide.Loosens narrow)
    (same : wide.yearThreshold = narrow.yearThreshold)
    (wideHolds : Holds (Candidate.ofRegistry registry wide) wideLookup)
    (narrowHolds : Holds (Candidate.ofRegistry registry narrow) narrowLookup) {site : Site}
    (found : site.found? wideLookup = some feature)
    (included : narrow.includes feature.status = true) :
    site.found? narrowLookup = some feature := by
  unfold Site.found? at found ⊢
  generalize site.construct.keys = keys at found ⊢
  induction keys with
  | nil => cases found
  | cons identifier keys ih =>
      rw [List.findSome?_cons] at found ⊢
      cases stored : wideLookup.get? identifier with
      | some other =>
          rw [stored] at found
          cases found
          rw [wideHolds.get?_narrow loosens same narrowHolds stored included]
      | none =>
          rw [stored] at found
          cases missing : narrowLookup.get? identifier with
          | some other =>
              obtain ⟨_, present, _⟩ := wideHolds.get?_of_loosens loosens narrowHolds missing
              rw [stored] at present
              cases present
          | none => exact ih found

end

/-- Lookups are built from two registries of which both or neither can be written, or one of them
fails on an integer that is too long. -/
theorem ofRegistries_outcome {registry other : Registry}
    (alike : entriesWritable other.features = entriesWritable registry.features)
    (first second : Config) :
    (∃ firstLookup firstLines secondLookup secondLines,
      ofRegistry registry first = .ok (firstLookup, firstLines) ∧
      ofRegistry other second = .ok (secondLookup, secondLines) ∧
      Holds (Candidate.ofRegistry registry first) firstLookup ∧
      Holds (Candidate.ofRegistry other second) secondLookup) ∨
    (entriesWritable registry.features = false ∧
      (ofRegistry registry first = .error Fault.tooLong ∨
        ofRegistry other second = .error Fault.tooLong)) := by
  rcases ofRegistry_outcome registry first with
    ⟨firstLookup, firstLines, firstBuilt, firstHolds⟩ | ⟨failed, unwritable⟩
  · rcases ofRegistry_outcome other second with
      ⟨secondLookup, secondLines, secondBuilt, secondHolds⟩ | ⟨failed, unwritable⟩
    · exact .inl ⟨firstLookup, firstLines, secondLookup, secondLines, firstBuilt, secondBuilt,
        firstHolds, secondHolds⟩
    · exact .inr ⟨alike.symm.trans unwritable, .inr failed⟩
  · exact .inr ⟨unwritable, .inl failed⟩

theorem ofRegistry_both (registry : Registry) (first second : Config) :
    (∃ firstLookup firstLines secondLookup secondLines,
      ofRegistry registry first = .ok (firstLookup, firstLines) ∧
      ofRegistry registry second = .ok (secondLookup, secondLines) ∧
      Holds (Candidate.ofRegistry registry first) firstLookup ∧
      Holds (Candidate.ofRegistry registry second) secondLookup) ∨
    (entriesWritable registry.features = false ∧
      (ofRegistry registry first = .error Fault.tooLong ∨
        ofRegistry registry second = .error Fault.tooLong)) :=
  ofRegistries_outcome rfl first second

end Lookup

/-- Loosening a configuration hides nothing: every identifier stays in the lookup, with a status at
least as restrictive, and every syntax that was reported under a selector is reported again. A lookup
can fail to be built only where the registry holds an integer that is too long to be written. -/
theorem loosening_hides_nothing {wide narrow : Config} (loosens : wide.Loosens narrow)
    (registry : Registry) (nodes : List Node) :
    (∃ narrowLookup narrowLines wideLookup wideLines,
      Lookup.ofRegistry registry narrow = .ok (narrowLookup, narrowLines) ∧
      Lookup.ofRegistry registry wide = .ok (wideLookup, wideLines) ∧
      (∀ identifier feature, narrowLookup.get? identifier = some feature →
        ∃ other, wideLookup.get? identifier = some other ∧
          feature.status.restrictiveness ≤ other.status.restrictiveness) ∧
      ∀ selector issue, Reports (analyze nodes narrowLookup narrow) selector issue →
        ∃ other, Reports (analyze nodes wideLookup wide) selector other ∧
          other.property = issue.property) ∨
    (entriesWritable registry.features = false ∧
      (Lookup.ofRegistry registry narrow = .error Fault.tooLong ∨
        Lookup.ofRegistry registry wide = .error Fault.tooLong)) := by
  rcases Lookup.ofRegistry_both registry narrow wide with
    ⟨narrowLookup, narrowLines, wideLookup, wideLines, narrowBuilt, wideBuilt, narrowHolds,
      wideHolds⟩ | failed
  · refine .inl ⟨narrowLookup, narrowLines, wideLookup, wideLines, narrowBuilt, wideBuilt, ?_, ?_⟩
    · exact fun _ _ stored => wideHolds.get?_of_loosens loosens narrowHolds stored
    · intro selector issue reported
      have listed := (reports_analyze.1 reported).1
      obtain ⟨site, inSites, rfl, named, found⟩ := exists_site_of_mem_issuesUnder listed
      obtain ⟨identifier, isKey, stored⟩ := List.exists_of_findSome?_eq_some found
      obtain ⟨winner, wins, _⟩ := narrowHolds.stored stored
      obtain ⟨member, rfl⟩ := Lookup.mem_candidatesFor.1 wins.mem
      rw [Candidate.ofRegistry_eq_filter loosens] at member
      rw [← named]
      exact wideHolds.reports_of_candidate inSites (List.mem_filter.1 member).1 isKey
  · exact .inr failed

def Registry.ofTexts (features : List (String × Value)) : Registry :=
  ⟨features.map fun feature => (.str feature.1, feature.2)⟩

def plainEntry (label : Value) (key : String) : Value :=
  .map [(.str "status", .map [(.str "baseline", label)]), (.str "compat_features", .list [.str key])]

/-- Features that compete for a property, and for the two identifiers of a style query. -/
def contestedRegistry : Registry :=
  .ofTexts
    [("gap", plainEntry (.str "low") "css.properties.gap"),
     ("masonry", plainEntry (.bool false) "css.properties.gap"),
     ("style-queries", plainEntry (.str "low") "css.at-rules.container-style-queries"),
     ("custom-queries", plainEntry (.bool false)
       "css.at-rules.container.style_queries_for_custom_properties")]

def contestedNodes : List Node :=
  [.atRule "container" [.function "style" [.ident "--wide"]]
    (some [.ident "p", .block .curly [.ident "gap", .literal ":", .dimension "1" "px"]])]

def narrowScan : Config := ⟨true, false, false, some 2020, .str "normal", .null⟩

def wideScan : Config := ⟨true, true, true, none, .str "normal", .null⟩

theorem contestedRegistry_writable : entriesWritable contestedRegistry.features = true := by
  decide

theorem wideScan_hides_nothing :
    wideScan.Loosens narrowScan ∧
      ∃ narrowLookup narrowLines wideLookup wideLines,
        Lookup.ofRegistry contestedRegistry narrowScan = .ok (narrowLookup, narrowLines) ∧
        Lookup.ofRegistry contestedRegistry wideScan = .ok (wideLookup, wideLines) ∧
        (∀ identifier feature, narrowLookup.get? identifier = some feature →
          ∃ other, wideLookup.get? identifier = some other ∧
            feature.status.restrictiveness ≤ other.status.restrictiveness) ∧
        ∀ selector issue,
          Reports (analyze contestedNodes narrowLookup narrowScan) selector issue →
            ∃ other, Reports (analyze contestedNodes wideLookup wideScan) selector other ∧
              other.property = issue.property := by
  have loosens : wideScan.Loosens narrowScan := by
    refine ⟨fun status _ => by cases status <;> rfl, ?_⟩
    intro year set
    cases set
  refine ⟨loosens, ?_⟩
  rcases loosening_hides_nothing loosens contestedRegistry contestedNodes with
    built | ⟨unwritable, _⟩
  · exact built
  · cases contestedRegistry_writable.symm.trans unwritable

/-- The identifiers of a registry are told apart: equal ones belong to one entry. -/
def Registry.Distinct (registry : Registry) : Prop :=
  ∀ first ∈ registry.features, ∀ second ∈ registry.features,
    first.1.equals second.1 = true → first = second

theorem Registry.distinct_ofTexts {features : List (String × Value)}
    (nodup : (features.map (·.1)).Nodup) : (ofTexts features).Distinct := by
  intro first inFirst second inSecond same
  obtain ⟨feature, member, rfl⟩ := List.mem_map.1 inFirst
  obtain ⟨other, otherMember, rfl⟩ := List.mem_map.1 inSecond
  have sameText : feature.1 = other.1 := Value.str.inj (Value.isText_iff.1 same)
  rw [List.inj_on_of_nodup_map nodup member otherMember sameText]

theorem Feature.TakenFrom.unique {first second : Feature} {firstConfig secondConfig : Config}
    {entry : Value × Value} {fields data otherFields otherData : Entries}
    {keys otherKeys : List Value} (taken : first.TakenFrom firstConfig entry fields data keys)
    (alsoTaken : second.TakenFrom secondConfig entry otherFields otherData otherKeys) :
    first.id = second.id ∧ first.status = second.status := by
  refine ⟨taken.id.trans alsoTaken.id.symm, ?_⟩
  have sameParts := taken.usable.symm.trans alsoTaken.usable
  cases sameParts
  exact Option.some.inj (taken.labelled.symm.trans alsoTaken.labelled)

/-- What a strict report lists of a looser lookup, it lists of the strict lookup as well, with the
same feature and status. A lookup can fail to be built only where the registry holds an integer
that is too long to be written. -/
theorem strict_report_of_loose_lookup {strict loose : Config}
    (includes : ∀ status, strict.includes status = true → loose.includes status = true)
    (same : loose.yearThreshold = strict.yearThreshold) {registry : Registry}
    (distinct : registry.Distinct) (nodes : List Node) :
    (∃ strictLookup strictLines looseLookup looseLines,
      Lookup.ofRegistry registry strict = .ok (strictLookup, strictLines) ∧
      Lookup.ofRegistry registry loose = .ok (looseLookup, looseLines) ∧
      ∀ selector issue, Reports (analyze nodes looseLookup strict) selector issue →
        ∃ other, Reports (analyze nodes strictLookup strict) selector other ∧
          other.property = issue.property ∧ other.feature.id = issue.feature.id ∧
          other.feature.status = issue.feature.status) ∨
    (entriesWritable registry.features = false ∧
      (Lookup.ofRegistry registry strict = .error Fault.tooLong ∨
        Lookup.ofRegistry registry loose = .error Fault.tooLong)) := by
  have loosens := Config.loosens_of_same_threshold includes same
  rcases Lookup.ofRegistry_both registry strict loose with
    ⟨strictLookup, strictLines, looseLookup, looseLines, strictBuilt, looseBuilt, strictHolds,
      looseHolds⟩ | failed
  · refine .inl ⟨strictLookup, strictLines, looseLookup, looseLines, strictBuilt, looseBuilt, ?_⟩
    intro selector issue reported
    obtain ⟨listed, included⟩ := reports_analyze.1 reported
    obtain ⟨site, inSites, rfl, named, found⟩ := exists_site_of_mem_issuesUnder listed
    have foundStrictly := looseHolds.found?_narrow loosens same strictHolds found included
    obtain ⟨other, kept, sameProperty, sameFeature⟩ := exists_issue_of_found inSites foundStrictly
    have sameEntry : other.feature.id = issue.feature.id ∧
        other.feature.status = issue.feature.status := by
      rcases sameFeature with equal | sameId
      · rw [equal]
        exact ⟨rfl, rfl⟩
      · -- Another use with an equal identifier was kept; both come from one registry entry.
        obtain ⟨_, _, _, _, foundOther⟩ := exists_site_of_mem_issuesUnder kept
        obtain ⟨entry, inRegistry, _, _, _, taken, _⟩ :=
          strictHolds.takenFrom_of_found foundStrictly
        obtain ⟨otherEntry, otherInRegistry, _, _, _, otherTaken, _⟩ :=
          strictHolds.takenFrom_of_found foundOther
        rw [taken.id, otherTaken.id] at sameId
        cases distinct entry inRegistry otherEntry otherInRegistry sameId
        exact otherTaken.unique taken
    refine ⟨other, reports_analyze.2 ⟨kept, ?_⟩, sameProperty.trans named, sameEntry⟩
    rw [sameEntry.2]
    exact included
  · exact .inr failed

/-- A scan of newly available features and of those that are not available everywhere, since a
year. -/
def looseScan : Config := ⟨true, false, true, some 2020, .str "normal", .null⟩

theorem narrowScan_of_looseScan :
    (∀ status, narrowScan.includes status = true → looseScan.includes status = true) ∧
      looseScan.yearThreshold = narrowScan.yearThreshold ∧ contestedRegistry.Distinct ∧
      ∃ strictLookup strictLines looseLookup looseLines,
        Lookup.ofRegistry contestedRegistry narrowScan = .ok (strictLookup, strictLines) ∧
        Lookup.ofRegistry contestedRegistry looseScan = .ok (looseLookup, looseLines) ∧
        ∀ selector issue,
          Reports (analyze contestedNodes looseLookup narrowScan) selector issue →
            ∃ other, Reports (analyze contestedNodes strictLookup narrowScan) selector other ∧
              other.property = issue.property ∧ other.feature.id = issue.feature.id ∧
              other.feature.status = issue.feature.status := by
  have includes : ∀ status, narrowScan.includes status = true →
      looseScan.includes status = true := by
    intro status included
    cases status with
    | notBaseline => rfl
    | low => rfl
    | high => cases included
  have distinct : contestedRegistry.Distinct := Registry.distinct_ofTexts (by decide)
  refine ⟨includes, rfl, distinct, ?_⟩
  rcases strict_report_of_loose_lookup includes rfl distinct contestedNodes with
    built | ⟨unwritable, _⟩
  · exact built
  · cases contestedRegistry_writable.symm.trans unwritable

end BrowserScript.Baseline
