import BrowserScript.Proofs.Baseline.Absorption
import BrowserScript.Proofs.Baseline.Loosening

/-!
# Rules and registries in another order

The order of rules decides which of several equal issues is kept, but not what is found: a report on
the same rules in another order has the same findings. The order of a registry decides which of
several equally restrictive features has an identifier, but neither which identifiers there are nor
their statuses.
-/

namespace BrowserScript.Baseline

open Css Value

variable {config : Config} {finding : Finding} {nodes : List Node}

/-! ## Rules -/

/-- What a report says of an issue: where it stands, the syntax, and the feature with its status. -/
structure Finding where
  selector : String
  property : String
  id : Value
  status : Status

def findings (report : List ReportEntry) : List Finding :=
  report.flatMap fun entry => entry.issues.map fun issue =>
    ⟨entry.selector, issue.property, issue.feature.id, issue.feature.status⟩

/-- Two findings that are the same but for the spelling of the feature's identifier: numbers of
different kinds may be equal. -/
structure Finding.Matches (left right : Finding) : Prop where
  selector : left.selector = right.selector
  property : left.property = right.property
  id : left.id = right.id ∨ left.id.equals right.id = true
  status : left.status = right.status

theorem mem_findings {report : List ReportEntry} :
    finding ∈ findings report ↔ ∃ issue, Reports report finding.selector issue ∧
      finding = ⟨finding.selector, issue.property, issue.feature.id, issue.feature.status⟩ := by
  simp only [findings, List.mem_flatMap, List.mem_map]
  constructor
  · rintro ⟨entry, listed, issue, member, rfl⟩
    exact ⟨issue, ⟨entry, listed, rfl, member⟩, rfl⟩
  · rintro ⟨issue, ⟨entry, listed, under, member⟩, same⟩
    exact ⟨entry, listed, issue, member, by rw [under]; exact same.symm⟩

theorem Finding.Matches.eq_of_texts {left right : Finding} (same : left.Matches right)
    {name other : String} (leftText : left.id = .str name) (rightText : right.id = .str other) :
    left = right := by
  have equal : left.id = right.id := by
    rcases same.id with equal | equal
    · exact equal
    · rw [rightText] at equal ⊢
      exact Value.isText_iff.1 equal
  cases left
  cases right
  cases same.selector
  cases same.property
  cases same.status
  cases equal
  rfl

/-- Features of a lookup with equal identifiers have the same status. -/
def Lookup.Uniform (lookup : Lookup) : Prop :=
  ∀ first second, lookup.Has first → lookup.Has second →
    first.id.equals second.id = true → first.status = second.status

/-- What is reported on some rules is reported on all others among which these occur. The issue that
is kept may be another one with an equal identifier, which then has the same status. -/
theorem exists_match_of_known {lookup : Lookup} (uniform : lookup.Uniform)
    {others : List Node} (known : ∀ node ∈ nodes, node ∈ others)
    (found : finding ∈ findings (analyze nodes lookup config)) :
    ∃ other ∈ findings (analyze others lookup config), finding.Matches other := by
  obtain ⟨issue, reported, same⟩ := mem_findings.1 found
  obtain ⟨listed, included⟩ := reports_analyze.1 reported
  obtain ⟨use, used, under, rfl⟩ := exists_use_of_mem_issuesUnder listed
  -- The other rules have this use too, though the issue they keep for it may be another one.
  have usedAgain := uses_subset known use used
  obtain ⟨kept, keptListed, sameProperty, sameFeature⟩ := exists_issue_of_used usedAgain
  have sameStatus : kept.feature.status = use.feature.status := by
    rcases sameFeature with equal | sameId
    · rw [equal]
    · obtain ⟨other, otherUsed, _, rfl⟩ := exists_use_of_mem_issuesUnder keptListed
      exact (uniform _ _ (has_of_mem_listedUses usedAgain) (has_of_mem_listedUses otherUsed)
        sameId).symm
  rw [under] at keptListed
  refine ⟨⟨finding.selector, kept.property, kept.feature.id, kept.feature.status⟩,
    mem_findings.2 ⟨kept, reports_analyze.2 ⟨keptListed, ?_⟩, rfl⟩, ?_⟩
  · rw [sameStatus]
    exact included
  · rw [same]
    refine ⟨rfl, sameProperty.symm, ?_, sameStatus.symm⟩
    exact sameFeature.imp (fun equal => congrArg Feature.id equal.symm) id

/-- In a lookup that was built from a registry, equal identifiers belong to one registry entry. -/
theorem Lookup.Holds.uniform {registry : Registry} (distinct : registry.Distinct)
    {lookup : Lookup} (holds : Holds (Candidate.ofRegistry registry config) lookup) :
    lookup.Uniform := by
  rintro first second ⟨identifier, found⟩ ⟨otherIdentifier, otherFound⟩ sameId
  obtain ⟨entry, inRegistry, _, _, _, taken, _⟩ := holds.takenFrom found
  obtain ⟨otherEntry, otherInRegistry, _, _, _, otherTaken, _⟩ := holds.takenFrom otherFound
  rw [taken.id, otherTaken.id] at sameId
  cases distinct entry inRegistry otherEntry otherInRegistry sameId
  exact (taken.unique otherTaken).2

/-- A finding names a feature of the lookup. -/
theorem has_of_mem_findings {lookup : Lookup}
    (found : finding ∈ findings (analyze nodes lookup config)) :
    ∃ feature, lookup.Has feature ∧ finding.id = feature.id := by
  obtain ⟨issue, reported, same⟩ := mem_findings.1 found
  obtain ⟨use, used, _, rfl⟩ := exists_use_of_mem_issuesUnder (reports_analyze.1 reported).1
  exact ⟨use.feature, has_of_mem_listedUses used, congrArg Finding.id same⟩

theorem mem_findings_of_known {lookup : Lookup} (uniform : lookup.Uniform)
    (texts : ∀ feature, lookup.Has feature → ∃ name, feature.id = .str name)
    {others : List Node} (known : ∀ node ∈ nodes, node ∈ others)
    (found : finding ∈ findings (analyze nodes lookup config)) :
    finding ∈ findings (analyze others lookup config) := by
  obtain ⟨other, otherFound, same⟩ := exists_match_of_known uniform known found
  obtain ⟨feature, held, isId⟩ := has_of_mem_findings found
  obtain ⟨otherFeature, otherHeld, isOtherId⟩ := has_of_mem_findings otherFound
  obtain ⟨name, isText⟩ := texts feature held
  obtain ⟨otherName, isOtherText⟩ := texts otherFeature otherHeld
  rw [same.eq_of_texts (isId.trans isText) (isOtherId.trans isOtherText)]
  exact otherFound

/-- Where features with equal identifiers have the same status, rules in another order have the same
findings, up to the spelling of identifiers; if features are named by texts, the very same. Every
lookup that is built from a registry is of this kind. -/
theorem rule_order_changes_no_finding (lookup : Lookup) :
    (lookup.Uniform → ∀ (config : Config) (nodes reordered : List Node), nodes.Perm reordered →
      (∀ finding ∈ findings (analyze nodes lookup config),
        ∃ other ∈ findings (analyze reordered lookup config), finding.Matches other) ∧
      (∀ finding ∈ findings (analyze reordered lookup config),
        ∃ other ∈ findings (analyze nodes lookup config), finding.Matches other) ∧
      ((∀ feature, lookup.Has feature → ∃ name, feature.id = .str name) →
        ∀ finding, finding ∈ findings (analyze reordered lookup config) ↔
          finding ∈ findings (analyze nodes lookup config))) ∧
      ∀ (registry : Registry) (config : Config) (lines : List LogLine), registry.Distinct →
        Lookup.ofRegistry registry config = .ok (lookup, lines) → lookup.Uniform := by
  refine ⟨fun uniform config nodes reordered order => ?_, ?_⟩
  · have forth : ∀ node ∈ nodes, node ∈ reordered := fun node => order.mem_iff.1
    have back : ∀ node ∈ reordered, node ∈ nodes := fun node => order.mem_iff.2
    refine ⟨fun _ => exists_match_of_known uniform forth,
      fun _ => exists_match_of_known uniform back, fun texts finding => ⟨?_, ?_⟩⟩
    · exact mem_findings_of_known uniform texts back
    · exact mem_findings_of_known uniform texts forth
  · intro registry config lines distinct built
    exact (Lookup.ofRegistry_holds built).uniform distinct

theorem contestedRegistry_distinct : contestedRegistry.Distinct :=
  Registry.distinct_ofTexts (by decide)

theorem gapRules_reordered :
    gapLookup.Uniform ∧ gapRules.Perm gapRules.reverse ∧
      (∀ feature, gapLookup.Has feature → ∃ name, feature.id = .str name) ∧
      (findings (analyze gapRules gapLookup fullScan)).map (fun finding =>
        (finding.selector, finding.property)) = [("a", "gap"), ("@page", "gap")] ∧
      (∀ finding, finding ∈ findings (analyze gapRules.reverse gapLookup fullScan) ↔
        finding ∈ findings (analyze gapRules gapLookup fullScan)) ∧
      contestedRegistry.Distinct ∧
      ∃ lookup lines, Lookup.ofRegistry contestedRegistry wideScan = .ok (lookup, lines) ∧
        lookup.Uniform := by
  have uniform : gapLookup.Uniform := by
    intro first second held otherHeld _
    rw [eq_of_gapLookup_has held, eq_of_gapLookup_has otherHeld]
  have order : gapRules.Perm gapRules.reverse := (List.reverse_perm gapRules).symm
  obtain ⟨_, _, same⟩ := (rule_order_changes_no_finding gapLookup).1 uniform fullScan _ _ order
  refine ⟨uniform, order, gapLookup_texts, ?_, same gapLookup_texts, contestedRegistry_distinct, ?_⟩
  · rw [analyze, walk_gapRules]
    decide +kernel
  · rcases Lookup.ofRegistry_outcome contestedRegistry wideScan with
      ⟨lookup, lines, built, _⟩ | ⟨_, unwritable⟩
    · exact ⟨lookup, lines, built,
        (rule_order_changes_no_finding lookup).2 _ _ _ contestedRegistry_distinct built⟩
    · cases contestedRegistry_writable.symm.trans unwritable

/-! ## Registries -/

namespace Candidate

/-- The order of a registry is the order of its candidates. -/
theorem ofRegistry_perm {registry reordered : Registry}
    (order : registry.features.Perm reordered.features) (config : Config) :
    (ofRegistry registry config).Perm (ofRegistry reordered config) :=
  order.flatMap_right (ofEntry config)

def Tied (candidates : List Candidate) : Prop :=
  ∃ first ∈ candidates, ∃ second ∈ candidates, first ≠ second ∧ first.rank = second.rank ∧
    ∀ other ∈ candidates, other.rank ≤ first.rank

/-- The winners of two orders are equally restrictive. -/
theorem Wins.rank_eq_of_perm {first second : Candidate} {candidates reordered : List Candidate}
    (order : candidates.Perm reordered) (firstWins : first.Wins candidates)
    (secondWins : second.Wins reordered) : first.rank = second.rank :=
  Nat.le_antisymm (secondWins.rank_le (order.mem_iff.1 firstWins.mem))
    (firstWins.rank_le (order.mem_iff.2 secondWins.mem))

theorem Wins.tied_of_perm {first second : Candidate} {candidates reordered : List Candidate}
    (order : candidates.Perm reordered) (firstWins : first.Wins candidates)
    (secondWins : second.Wins reordered) (differ : first ≠ second) : Tied candidates :=
  ⟨first, firstWins.mem, second, order.mem_iff.2 secondWins.mem, differ,
    firstWins.rank_eq_of_perm order secondWins, fun _ member => firstWins.rank_le member⟩

end Candidate

theorem Status.eq_of_restrictiveness_eq {first second : Status}
    (same : first.restrictiveness = second.restrictiveness) : first = second := by
  revert same
  cases first <;> cases second <;> decide

namespace Lookup

section

variable {candidates reordered : List Candidate} {lookup other : Lookup}

theorem Holds.keys_perm (order : candidates.Perm reordered) (holds : Holds candidates lookup)
    (otherHolds : Holds reordered other) : (lookup.map (·.1)).Perm (other.map (·.1)) := by
  have distinct : (lookup.map (·.1)).Nodup := holds.keys ▸ nodup_eraseDups _
  have otherDistinct : (other.map (·.1)).Nodup := otherHolds.keys ▸ nodup_eraseDups _
  refine (List.perm_ext_iff_of_nodup distinct otherDistinct).2 fun identifier => ?_
  rw [holds.mem_keys, otherHolds.mem_keys]
  simp only [order.mem_iff]

/-- An identifier has features of the same status in both orders; the features are the same unless
several candidates are most restrictive. -/
theorem Holds.get?_perm (order : candidates.Perm reordered) (holds : Holds candidates lookup)
    (otherHolds : Holds reordered other) (identifier : String) :
    (lookup.get? identifier).map (·.status) = (other.get? identifier).map (·.status) ∧
      (lookup.get? identifier ≠ other.get? identifier →
        Candidate.Tied (candidatesFor candidates identifier)) := by
  have claimants : (candidatesFor candidates identifier).Perm (candidatesFor reordered identifier) :=
    order.filter _
  -- Both orders have the same candidates for the identifier, so one finds a feature if the other does.
  cases stored : lookup.get? identifier with
  | none =>
      have none : other.get? identifier = none := by
        rw [holds.get?_eq_none] at stored
        rw [otherHolds.get?_eq_none]
        exact (stored ▸ claimants).nil_eq.symm
      rw [none]
      exact ⟨rfl, fun differ => absurd rfl differ⟩
  | some feature =>
      obtain ⟨winner, wins, described⟩ := holds.stored stored
      cases otherStored : other.get? identifier with
      | none =>
          have member := claimants.mem_iff.1 wins.mem
          rw [otherHolds.get?_eq_none.1 otherStored] at member
          cases member
      | some otherFeature =>
          obtain ⟨otherWinner, otherWins, otherDescribed⟩ := otherHolds.stored otherStored
          constructor
          · have sameRank := wins.rank_eq_of_perm claimants otherWins
            have sameStatus := Status.eq_of_restrictiveness_eq sameRank
            rw [Option.map_some, Option.map_some, described.status, otherDescribed.status, sameStatus]
          · intro differ
            refine wins.tied_of_perm claimants otherWins ?_
            rintro rfl
            exact differ (congrArg some (described.unique otherDescribed))

end

end Lookup

/-- A registry in another order gives the same identifiers with the same statuses. An identifier can
have another feature only if several of its candidates are most restrictive. A lookup can fail to be
built only where the registry holds an integer that is too long to be written. -/
theorem registry_order_decides_ties_only {registry reordered : Registry}
    (order : registry.features.Perm reordered.features) (config : Config) :
    (∃ lookup lines other otherLines,
      Lookup.ofRegistry registry config = .ok (lookup, lines) ∧
      Lookup.ofRegistry reordered config = .ok (other, otherLines) ∧
      (lookup.map (·.1)).Perm (other.map (·.1)) ∧
      ∀ identifier,
        (lookup.get? identifier).map (·.status) = (other.get? identifier).map (·.status) ∧
          (lookup.get? identifier ≠ other.get? identifier →
            Candidate.Tied
              (Lookup.candidatesFor (Candidate.ofRegistry registry config) identifier))) ∨
    (entriesWritable registry.features = false ∧
      (Lookup.ofRegistry registry config = .error Fault.tooLong ∨
        Lookup.ofRegistry reordered config = .error Fault.tooLong)) := by
  have candidates := Candidate.ofRegistry_perm order config
  have alike : entriesWritable reordered.features = entriesWritable registry.features := by
    rw [entriesWritable_eq_all, entriesWritable_eq_all, order.all_eq]
  rcases Lookup.ofRegistries_outcome alike config config with
    ⟨lookup, lines, other, otherLines, built, otherBuilt, holds, otherHolds⟩ | failed
  · exact .inl ⟨lookup, lines, other, otherLines, built, otherBuilt,
      holds.keys_perm candidates otherHolds, holds.get?_perm candidates otherHolds⟩
  · exact .inr failed

/-- The entries of the contested registry from the last to the first. -/
def reversedRegistry : Registry := ⟨contestedRegistry.features.reverse⟩

theorem reversedRegistry_decides_ties_only :
    contestedRegistry.features.Perm reversedRegistry.features ∧
      ∃ lookup lines other otherLines,
        Lookup.ofRegistry contestedRegistry wideScan = .ok (lookup, lines) ∧
        Lookup.ofRegistry reversedRegistry wideScan = .ok (other, otherLines) ∧
        (lookup.map (·.1)).Perm (other.map (·.1)) ∧
        ∀ identifier,
          (lookup.get? identifier).map (·.status) = (other.get? identifier).map (·.status) ∧
            (lookup.get? identifier ≠ other.get? identifier →
              Candidate.Tied (Lookup.candidatesFor
                (Candidate.ofRegistry contestedRegistry wideScan) identifier)) := by
  have order : contestedRegistry.features.Perm reversedRegistry.features :=
    (List.reverse_perm contestedRegistry.features).symm
  refine ⟨order, ?_⟩
  rcases registry_order_decides_ties_only order wideScan with built | ⟨unwritable, _⟩
  · exact built
  · cases contestedRegistry_writable.symm.trans unwritable

end BrowserScript.Baseline
