import BrowserScript.Proofs.Baseline.Accumulator

/-!
# Walking again

A walk only adds: selectors after those that are there, and issues after those of their selector.
What it takes up once it never takes up again, so that rules which were walked through before leave
the tables as they are, whatever state the first walk started from.
-/

namespace BrowserScript.Baseline

open Css

variable {lookup : Lookup}

/-- The features of a lookup have identifiers that equal themselves, as all texts do. -/
def Lookup.SelfEqual (lookup : Lookup) : Prop :=
  ∀ feature, lookup.Has feature → feature.id.equals feature.id = true

theorem Lookup.selfEqual_of_texts
    (texts : ∀ feature, lookup.Has feature → ∃ name, feature.id = .str name) :
    lookup.SelfEqual := by
  intro feature held
  obtain ⟨name, isText⟩ := texts feature held
  rw [isText]
  exact Value.isText_iff.2 rfl

theorem has_of_mem_listedUses {nodes : List Node} {use : Occurrence}
    (used : use ∈ uses lookup nodes) : lookup.Has use.feature := by
  rw [uses_eq_flatMap_sites] at used
  exact has_of_mem_uses use used

/-- Uses are listed rule by rule, so rules that all occur among others have no further uses. -/
theorem uses_subset {nodes walked : List Node}
    (known : ∀ node ∈ nodes, node ∈ walked) : ∀ use ∈ uses lookup nodes, use ∈ uses lookup walked := by
  intro use used
  obtain ⟨node, member, usedIn⟩ := List.mem_flatMap.1 used
  exact List.mem_flatMap.2 ⟨node, known node member, usedIn⟩

namespace Analysis

variable {use : Occurrence} (analysis : Analysis)

/-! ## Growth -/

structure Extends (before after : Analysis) : Prop where
  issues : before.issues.Extends sameSelector after.issues
  seen : before.seen.Extends sameSelector after.seen

theorem Extends.refl : Extends analysis analysis :=
  ⟨.refl _ _, .refl _ _⟩

theorem Extends.trans {first second third : Analysis} (left : Extends first second)
    (right : Extends second third) : Extends first third :=
  ⟨left.issues.trans right.issues, left.seen.trans right.seen⟩

theorem extends_take (use : Occurrence) : Extends analysis (analysis.take use) := by
  rw [take, add]
  split
  · exact .refl analysis
  · exact ⟨Groups.extends_add .., Groups.extends_add ..⟩

theorem extends_foldl (occurrences : List Occurrence) :
    Extends analysis (occurrences.foldl take analysis) := by
  induction occurrences generalizing analysis with
  | nil => exact .refl analysis
  | cons use rest ih => exact (extends_take analysis use).trans (ih _)

theorem extends_walk (lookup : Lookup) (analysis : Analysis) (nodes : List Node) :
    Extends analysis (walk lookup analysis nodes) := by
  rw [walk_eq]
  exact extends_foldl analysis _

/-! ## Absorption -/

def Absorbs (analysis : Analysis) (use : Occurrence) : Prop :=
  ∃ known ∈ analysis.seen.get sameSelector use.selector,
    Issue.sameIdentity use.issue.identity known = true

theorem Absorbs.take_eq {analysis : Analysis} (absorbs : analysis.Absorbs use) :
    analysis.take use = analysis := by
  obtain ⟨known, seen, same⟩ := absorbs
  exact if_pos (List.any_eq_true.2 ⟨known, seen, same⟩)

theorem Absorbs.extends {before after : Analysis}
    (absorbs : before.Absorbs use) (grown : Extends before after) : after.Absorbs use := by
  obtain ⟨known, seen, same⟩ := absorbs
  exact ⟨known, (grown.seen.items use.selector).subset seen, same⟩

/-- A use that was taken up is not taken up again: its identity was there before or is there now. -/
theorem absorbs_take (selfEqual : use.feature.id.equals use.feature.id = true)
    (analysis : Analysis) : (analysis.take use).Absorbs use := by
  have sameAsItself : Issue.sameIdentity use.issue.identity use.issue.identity = true :=
    Bool.and_eq_true_iff.2 ⟨selfEqual, beq_self_eq_true use.property⟩
  rw [take, add]
  split
  · rename_i repeated
    obtain ⟨known, seen, same⟩ := List.any_eq_true.1 repeated
    exact ⟨known, seen, same⟩
  · exact ⟨_, Groups.mem_get_add (beq_self_eq_true use.selector) _ _, sameAsItself⟩

theorem absorbs_foldl {occurrences : List Occurrence}
    (selfEqual : ∀ use ∈ occurrences, use.feature.id.equals use.feature.id = true)
    (analysis : Analysis) : ∀ use ∈ occurrences, (occurrences.foldl take analysis).Absorbs use := by
  induction occurrences generalizing analysis with
  | nil => exact List.forall_mem_nil _
  | cons first rest ih =>
      obtain ⟨ofFirst, ofRest⟩ := List.forall_mem_cons.1 selfEqual
      -- The first use is absorbed as soon as it is taken up, and what follows only adds.
      refine List.forall_mem_cons.2 ⟨?_, ih ofRest _⟩
      exact (absorbs_take ofFirst analysis).extends (extends_foldl _ rest)

theorem foldl_take_of_absorbs {analysis : Analysis} {occurrences : List Occurrence}
    (absorbs : ∀ use ∈ occurrences, analysis.Absorbs use) :
    occurrences.foldl take analysis = analysis := by
  induction occurrences with
  | nil => rfl
  | cons first rest ih =>
      obtain ⟨ofFirst, ofRest⟩ := List.forall_mem_cons.1 absorbs
      rw [List.foldl_cons, ofFirst.take_eq]
      exact ih ofRest

theorem walk_walked {lookup : Lookup} (selfEqual : lookup.SelfEqual) (analysis : Analysis)
    {nodes walked : List Node} (known : ∀ node ∈ nodes, node ∈ walked) :
    walk lookup (walk lookup analysis walked) nodes = walk lookup analysis walked := by
  have absorbed : ∀ use ∈ uses lookup walked, (walk lookup analysis walked).Absorbs use := by
    rw [walk_eq]
    exact absorbs_foldl (fun use used => selfEqual _ (has_of_mem_listedUses used)) analysis
  rw [walk_eq lookup (walk lookup analysis walked) nodes]
  exact foldl_take_of_absorbs fun use used => absorbed use (uses_subset known use used)

theorem walk_append (lookup : Lookup) (analysis : Analysis) (nodes further : List Node) :
    walk lookup analysis (nodes ++ further) = walk lookup (walk lookup analysis nodes) further :=
  List.foldl_append

end Analysis

/-- From every state, a walk keeps the selectors and the issues under each of them at the front of
the new ones. Rules that were all walked through before, in whatever order and however often they
come again, change nothing, and so they do not change a report either. -/
theorem walks_append_and_absorb (lookup : Lookup) :
    (∀ (analysis : Analysis) (nodes : List Node),
      analysis.issues.map (·.1) <+: (Analysis.walk lookup analysis nodes).issues.map (·.1) ∧
        ∀ selector, analysis.issues.get Analysis.sameSelector selector <+:
          (Analysis.walk lookup analysis nodes).issues.get Analysis.sameSelector selector) ∧
      (lookup.SelfEqual →
        (∀ (analysis : Analysis) (walked nodes : List Node), (∀ node ∈ nodes, node ∈ walked) →
          Analysis.walk lookup (Analysis.walk lookup analysis walked) nodes =
            Analysis.walk lookup analysis walked) ∧
        ∀ (rules further : List Node) (config : Config), (∀ rule ∈ further, rule ∈ rules) →
          analyze (rules ++ further) lookup config = analyze rules lookup config) := by
  refine ⟨fun analysis nodes => ?_, fun selfEqual => ⟨?_, ?_⟩⟩
  · have grown := (Analysis.extends_walk lookup analysis nodes).issues
    exact ⟨grown.keys, grown.items⟩
  · intro analysis walked nodes known
    exact Analysis.walk_walked selfEqual analysis known
  · intro rules further config known
    rw [analyze, Analysis.walk_append, Analysis.walk_walked selfEqual {} known, analyze]

def gapFeature : Feature := { id := .str "flexbox-gap", status := .low, description := .str "" }

theorem eq_of_gapLookup_has {feature : Feature} (held : gapLookup.Has feature) :
    feature = gapFeature := by
  obtain ⟨identifier, found⟩ := held
  obtain ⟨entry, listed, rfl⟩ := Option.map_eq_some_iff.1 found
  rw [List.mem_singleton.1 (List.mem_of_find?_eq_some listed), gapFeature]

theorem gapLookup_texts (feature : Feature) (held : gapLookup.Has feature) :
    ∃ name, feature.id = .str name :=
  ⟨_, congrArg Feature.id (eq_of_gapLookup_has held)⟩

def gapRules : List Node :=
  [.qualified [.ident "a"] gapContent, .atRule "page" [] (some gapContent)]

theorem walk_gapRules (analysis : Analysis) :
    Analysis.walk gapLookup analysis gapRules =
      (analysis.take ⟨"a", gapFeature, "gap"⟩).take ⟨"@page", gapFeature, "gap"⟩ := by
  have plain : ¬ groupingAtRules.contains (lowerName "page") = true := by decide +kernel
  simp only [gapRules, List.foldl_cons, List.foldl_nil, Analysis.walk]
  rw [Analysis.node, Analysis.node, if_neg plain, Analysis.block_eq_foldl, Analysis.block_eq_foldl,
    readNodes_gapContent]
  rfl

def gapRulesAgain : List Node :=
  [.atRule "page" [] (some gapContent), .qualified [.ident "a"] gapContent,
   .atRule "page" [] (some gapContent)]

def startedAnalysis : Analysis :=
  { issues := [("b", [⟨"gap", { id := .str "masonry", status := .notBaseline }⟩])]
    seen := [("b", [(.str "masonry", "gap")])] }

theorem gapRulesAgain_absorbed :
    gapLookup.SelfEqual ∧ (∀ node ∈ gapRulesAgain, node ∈ gapRules) ∧
      ((Analysis.walk gapLookup startedAnalysis gapRules).issues.map fun group =>
        (group.1, group.2.map (·.property))) = [("b", ["gap"]), ("a", ["gap"]), ("@page", ["gap"])] ∧
      Analysis.walk gapLookup (Analysis.walk gapLookup startedAnalysis gapRules) gapRulesAgain =
        Analysis.walk gapLookup startedAnalysis gapRules ∧
      analyze (gapRules ++ gapRulesAgain) gapLookup fullScan =
        analyze gapRules gapLookup fullScan := by
  have selfEqual := Lookup.selfEqual_of_texts gapLookup_texts
  have known : ∀ node ∈ gapRulesAgain, node ∈ gapRules := by
    simp [gapRulesAgain, gapRules]
  obtain ⟨again, reported⟩ := (walks_append_and_absorb gapLookup).2 selfEqual
  refine ⟨selfEqual, known, ?_, again _ _ _ known, reported _ _ _ known⟩
  rw [walk_gapRules]
  decide +kernel

end BrowserScript.Baseline
