import BrowserScript.Baseline.Report
import BrowserScript.Proofs.Fault
import BrowserScript.Proofs.Groups
import BrowserScript.Proofs.Baseline.CompatKey
import BrowserScript.Proofs.Baseline.Loosening
import BrowserScript.Proofs.Baseline.Sheets
import BrowserScript.Proofs.Text.Wrap

/-!
# When a report can be written

The text of a report is written from its configuration and, for every feature, from what the
registry says of it. Two things can keep it from being written: an integer that is too long, and a
description that is not empty but leaves no line when it is wrapped.
-/

namespace BrowserScript

namespace Baseline

/-! ## The lines of a feature -/

/-- Whether a description can be laid out: it is empty, or has a line when it is wrapped. -/
def isLaidOut (text : String) : Bool := text == "" || !(Text.Wrap.wrap 70 text.toList).isEmpty

def Feature.isDescribed (feature : Feature) : Bool :=
  match feature.description with
  | .str text => isLaidOut text
  | _ => false

def Config.isWritable (config : Config) : Bool :=
  (config.yearThreshold.all Value.isShort) && config.strictness.isWritable

theorem isLaidOut_of_visible {text : String} {c : Char} (member : c ∈ text.toList)
    (visible : Text.isBlank c = false) : isLaidOut text = true := by
  rw [isLaidOut, List.isEmpty_eq_false_iff.2 (Text.Wrap.wrap_ne_nil (by decide) member visible),
    Bool.not_false, Bool.or_true]

theorem not_isLaidOut_of_blank {text : String} (given : text ≠ "")
    (blank : text.toList.all Text.Wrap.isPlainBlank = true) : isLaidOut text = false := by
  rw [isLaidOut, Text.Wrap.wrap_eq_nil blank, beq_eq_false_iff_ne.2 given]
  rfl

namespace Report

variable {explains : Fault → Prop}

theorem configLines_outcome {config : Config}
    (long : config.isWritable = false → explains Fault.tooLong) :
    Outcome (config.isWritable = true) explains (configLines config) := by
  have rest : ∀ lines : String → String → List String, ∀ threshold,
      Value.WrittenWhen config.strictness.isWritable
        (config.strictness.display >>= fun shown => pure (lines threshold shown)) :=
    fun _ _ => (Value.display_writtenWhen config.strictness).map fun _ => .pure _
  refine .of_writtenWhen ?_ long
  rw [configLines, Config.isWritable]
  cases config.yearThreshold with
  | none => exact (Value.WrittenWhen.pure "None").bind (rest _)
  | some year =>
      dsimp only [Option.all_some]
      split
      · rename_i unset
        rw [eq_of_beq unset]
        exact (Value.WrittenWhen.pure "None").bind (rest _)
      · exact (Value.display_writtenWhen (.int year)).bind (rest _)

theorem descriptionLines_outcome {text : String}
    (blank : isLaidOut text = false → explains .outOfBounds) :
    Outcome (isLaidOut text = true) explains
      (if (Value.str text).truthy then descriptionLines (.str text) else pure []) := by
  have truthy : (Value.str text).truthy = (text != "") := rfl
  rw [truthy]
  by_cases empty : text = ""
  · rw [if_neg (by simp [empty])]
    exact (Outcome.pure []).congr (by simp [isLaidOut, empty])
  · rw [if_pos (bne_iff_ne.2 empty), descriptionLines]
    have laidOut : isLaidOut text = !(Text.Wrap.wrap 70 text.toList).isEmpty := by
      rw [isLaidOut, beq_eq_false_iff_ne.2 empty, Bool.false_or]
    cases lines : Text.Wrap.wrap 70 text.toList with
    | nil =>
        rw [lines] at laidOut
        exact ⟨Bool.eq_false_iff.1 laidOut, blank laidOut⟩
    | cons first others =>
        rw [lines] at laidOut
        exact laidOut

theorem versionTexts_ok (compat : List (Browser × Option String)) :
    ∃ texts, versionTexts (Version.toEntries compat) = .ok texts := by
  induction compat with
  | nil => exact ⟨[], rfl⟩
  | cons entry compat ih =>
      obtain ⟨texts, rest⟩ := ih
      obtain ⟨browser, version⟩ := entry
      rw [Version.toEntries] at rest ⊢
      rw [List.map_cons, versionTexts, rest]
      cases version with
      | none => exact ⟨texts, rfl⟩
      | some version =>
          by_cases given : (optionalText (some version)).truthy = true
          · rw [if_pos given]
            exact ⟨_, rfl⟩
          · rw [if_neg given]
            exact ⟨texts, rfl⟩

def isWritten (feature : Feature) : Prop := feature.id.isWritable = true ∧ feature.isDescribed = true

/-- A feature of a lookup: its description is a text, and its versions are those of browsers. -/
structure Described (feature : Feature) : Prop where
  text : ∃ text, feature.description = .str text
  versions : ∃ compat, feature.versions = Version.toEntries compat

/-- Faults that features explain: an identifier that is too long, or a description that is blank. -/
structure ExplainsAt (explains : Fault → Prop) (feature : Feature) : Prop where
  long : feature.id.isWritable = false → explains Fault.tooLong
  blank : feature.isDescribed = false → explains .outOfBounds

theorem featureLines_outcome (index : Nat) {first : Issue} (hits : List Hit)
    (described : Described first.feature) (explained : ExplainsAt explains first.feature) :
    Outcome (isWritten first.feature) explains
      (featureLines index first.feature.id first hits) := by
  obtain ⟨⟨text, said⟩, compat, supported⟩ := described
  obtain ⟨versions, shown⟩ := versionTexts_ok compat
  have laidOut : first.feature.isDescribed = isLaidOut text := by rw [Feature.isDescribed, said]
  have blank := explained.blank
  rw [laidOut] at blank
  rw [isWritten, laidOut, featureLines, said, supported, shown]
  refine (Outcome.of_writtenWhen (Value.display_writtenWhen _) explained.long).bind fun name => ?_
  exact ((descriptionLines_outcome blank).bind_ite fun _ => .pure _).congr (and_iff_left trivial)

theorem featuresLines_outcome (index : Nat) {groups : Groups Value Hit}
    (headed : ∀ group ∈ groups, ∃ first rest, group.2 = first :: rest ∧
      group.1 = first.2.feature.id ∧ Described first.2.feature ∧
        ExplainsAt explains first.2.feature) :
    Outcome (∀ group ∈ groups, ∀ first ∈ group.2.head?, isWritten first.2.feature) explains
      (featuresLines index groups) := by
  induction groups generalizing index with
  | nil => exact List.forall_mem_nil _
  | cons group groups ih =>
      obtain ⟨starts, others⟩ := List.forall_mem_cons.1 headed
      obtain ⟨first, rest, items, id, described, explained⟩ := starts
      obtain ⟨key, hits⟩ := group
      subst items id
      have start := featureLines_outcome index (first :: rest) described explained
      refine (start.bind fun _ => (ih (index + 1) others).map fun _ => .pure _).congr ?_
      rw [List.forall_mem_cons]
      exact and_congr_left' (by simp)

/-- Issues with equal identifiers come from features with one identifier and one description. -/
def Alike (hits : List Hit) : Prop :=
  ∀ first ∈ hits, ∀ second ∈ hits, first.2.feature.id.equals second.2.feature.id = true →
    first.2.feature.id = second.2.feature.id ∧
      first.2.feature.description = second.2.feature.description

theorem statusLines_outcome (status : Status) {hits : List Hit} (alike : Alike hits)
    (keys : ∀ hit ∈ hits, hit.2.feature.id.isKey = true)
    (described : ∀ hit ∈ hits, Described hit.2.feature)
    (explained : ∀ hit ∈ hits, ExplainsAt explains hit.2.feature) :
    Outcome (∀ hit ∈ hits, isWritten hit.2.feature) explains (statusLines status hits) := by
  rw [statusLines]
  split
  · rename_i empty
    rw [List.isEmpty_iff.1 empty]
    exact List.forall_mem_nil _
  · have none : hits.find? (fun hit => !hit.2.feature.id.isKey) = none :=
      List.find?_eq_none.2 fun hit member => by rw [keys hit member]; decide
    rw [none]
    have collected := Groups.collected_ofPairs Value.equals
      (hits.map fun hit => (hit.2.feature.id, hit))
    generalize Groups.ofPairs Value.equals (hits.map fun hit => (hit.2.feature.id, hit)) = groups
      at collected
    have headed : ∀ group ∈ groups, ∃ first rest, group.2 = first :: rest ∧ first ∈ hits ∧
        group.1 = first.2.feature.id := by
      intro group member
      obtain ⟨first, rest, items, paired⟩ := collected.headed group member
      obtain ⟨hit, inHits, same⟩ := List.mem_map.1 paired
      obtain ⟨id, rfl⟩ := Prod.mk.inj same
      exact ⟨hit, rest, items, inHits, id.symm⟩
    refine ((featuresLines_outcome 1 fun group member => ?_).map fun _ => .pure _).congr ?_
    · obtain ⟨first, rest, items, inHits, id⟩ := headed group member
      exact ⟨first, rest, items, id, described first inHits, explained first inHits⟩
    · constructor
      · intro written hit inHits
        obtain ⟨group, inGroups, ⟨own, _⟩ | equal⟩ :=
          collected.listed (hit.2.feature.id, hit) (List.mem_map_of_mem inHits)
        · exact written group inGroups hit own
        · -- The group was opened by another issue, with an equal identifier.
          obtain ⟨first, rest, items, firstInHits, id⟩ := headed group inGroups
          rw [id] at equal
          obtain ⟨sameId, sameText⟩ := alike first firstInHits hit inHits equal
          have opened := written group inGroups first (by rw [items]; rfl)
          rw [isWritten, Feature.isDescribed] at opened ⊢
          rwa [← sameId, ← sameText]
      · intro written group inGroups first isFirst
        obtain ⟨opener, rest, items, inHits, _⟩ := headed group inGroups
        rw [items] at isFirst
        cases isFirst
        exact written first inHits

theorem mem_hits {report : List ReportEntry} {hit : Hit} :
    hit ∈ hits report ↔ Reports report hit.1 hit.2 := by
  simp only [hits, List.mem_flatMap, List.mem_map, Reports]
  constructor
  · rintro ⟨entry, inReport, issue, inEntry, rfl⟩
    exact ⟨entry, inReport, rfl, inEntry⟩
  · rintro ⟨entry, inReport, selector, inEntry⟩
    exact ⟨entry, inReport, hit.2, inEntry, by rw [selector]⟩

theorem mem_hitsOf {report : List ReportEntry} {status : Status} {hit : Hit} :
    hit ∈ hitsOf report status ↔ hit ∈ hits report ∧ hit.2.feature.status = status := by
  rw [hitsOf, List.mem_filter, beq_iff_eq]

/-- What explains that a report cannot be written: a setting or an identifier that is too long, or a
description that cannot be laid out. -/
def Explains (report : List ReportEntry) (config : Config) (fault : Fault) : Prop :=
  fault = Fault.tooLong ∧
      (config.isWritable = false ∨
        ∃ selector issue, Reports report selector issue ∧ issue.feature.id.isWritable = false) ∨
    fault = .outOfBounds ∧
      ∃ selector issue, Reports report selector issue ∧ issue.feature.isDescribed = false

theorem text_outcome {report : List ReportEntry} (config : Config) (alike : Alike (hits report))
    (keys : ∀ hit ∈ hits report, hit.2.feature.id.isKey = true)
    (described : ∀ hit ∈ hits report, Described hit.2.feature) :
    Outcome (config.isWritable = true ∧ ∀ hit ∈ hits report, isWritten hit.2.feature)
      (Explains report config) (text report config) := by
  have explained : ∀ hit ∈ hits report, ExplainsAt (Explains report config) hit.2.feature := by
    intro hit member
    refine ⟨fun long => .inl ⟨rfl, .inr ⟨hit.1, hit.2, mem_hits.1 member, long⟩⟩, fun blank => ?_⟩
    exact .inr ⟨rfl, hit.1, hit.2, mem_hits.1 member, blank⟩
  have kept : ∀ status, ∀ hit ∈ hitsOf report status, hit ∈ hits report :=
    fun _ _ member => (mem_hitsOf.1 member).1
  refine (configLines_outcome fun long => .inl ⟨rfl, .inl long⟩).bind fun _ => ?_
  have sections : Outcome
      (∀ status ∈ Status.all, ∀ hit ∈ hitsOf report status, isWritten hit.2.feature)
      (Explains report config)
      (Status.all.mapM fun status => statusLines status (hitsOf report status)) := by
    refine .mapM fun status _ => statusLines_outcome status ?_ ?_ ?_ ?_
    · exact fun first inFirst second inSecond =>
        alike first (kept status first inFirst) second (kept status second inSecond)
    · exact fun hit member => keys hit (kept status hit member)
    · exact fun hit member => described hit (kept status hit member)
    · exact fun hit member => explained hit (kept status hit member)
  refine (sections.map fun _ => .pure _).congr ⟨fun written hit member => ?_, fun written => ?_⟩
  · have listed : hit.2.feature.status ∈ Status.all := by
      cases hit.2.feature.status with
      | _ => decide
    exact written _ listed hit (mem_hitsOf.2 ⟨member, rfl⟩)
  · exact fun status _ hit member => written hit (kept status hit member)

end Report

/-! ## From the registry to the text -/

/-- The descriptions of a registry are texts; an entry may have none. -/
def Registry.DescribedInText (registry : Registry) : Prop :=
  ∀ entry ∈ registry.features, ∀ fields, entry.2 = .map fields →
    ∀ description, Entries.get? fields "description" = some description →
      ∃ text, description = .str text

namespace Feature.TakenFrom

variable {feature : Feature} {config : Config} {entry : Value × Value} {fields data : Entries}
  {keys : List Value}

theorem entry_eq_map (taken : feature.TakenFrom config entry fields data keys) :
    entry.2 = .map fields := by
  have usable := taken.usable
  revert usable
  fun_cases Lookup.usable? entry.2 with
  | case1 fields => exact fun usable => by cases usable; rfl
  | case2 fields => exact fun usable => by cases usable; rfl
  | case3 => exact fun impossible => nomatch impossible
  | case4 => exact fun impossible => nomatch impossible
  | case5 => exact fun impossible => nomatch impossible

theorem description_eq (taken : feature.TakenFrom config entry fields data keys) :
    feature.description =
      ((Entries.get? fields "description").getD .null).orElse (.str "") := by
  obtain ⟨year, _, same⟩ := taken.described
  rw [same]
  rfl

theorem describedInText (taken : feature.TakenFrom config entry fields data keys) {registry : Registry}
    (inRegistry : entry ∈ registry.features) (texts : registry.DescribedInText) :
    Report.Described feature := by
  refine ⟨?_, ?_⟩
  · rw [taken.description_eq]
    cases said : Entries.get? fields "description" with
    | none => exact ⟨"", rfl⟩
    | some description =>
        obtain ⟨text, rfl⟩ := texts entry inRegistry fields taken.entry_eq_map _ said
        rw [Option.getD_some, Value.orElse]
        split
        · exact ⟨text, rfl⟩
        · exact ⟨"", rfl⟩
  · obtain ⟨year, _, same⟩ := taken.described
    rw [same]
    exact ⟨_, rfl⟩

end Feature.TakenFrom

theorem Lookup.Holds.takenFrom_of_reports {registry : Registry} {config : Config} {lookup : Lookup}
    (holds : Holds (Candidate.ofRegistry registry config) lookup) {nodes : List Css.Node}
    {selector : String} {issue : Issue}
    (reported : Reports (analyze nodes lookup config) selector issue) :
    ∃ entry ∈ registry.features, ∃ fields data keys,
      issue.feature.TakenFrom config entry fields data keys := by
  obtain ⟨_, _, _, _, found⟩ := exists_site_of_mem_issuesUnder (reports_analyze.1 reported).1
  obtain ⟨entry, inRegistry, fields, data, keys, taken, _⟩ := holds.takenFrom_of_found found
  exact ⟨entry, inRegistry, fields, data, keys, taken⟩

/-- Issues with equal identifiers are described by one registry entry. -/
theorem Report.alike_of_distinct {registry : Registry} (distinct : registry.Distinct)
    {config : Config} {lookup : Lookup}
    (holds : Lookup.Holds (Candidate.ofRegistry registry config) lookup) (nodes : List Css.Node) :
    Alike (hits (analyze nodes lookup config)) := by
  intro first inFirst second inSecond equal
  obtain ⟨entry, inRegistry, _, _, _, taken⟩ := holds.takenFrom_of_reports (mem_hits.1 inFirst)
  obtain ⟨other, otherInRegistry, _, _, _, otherTaken⟩ :=
    holds.takenFrom_of_reports (mem_hits.1 inSecond)
  rw [taken.id, otherTaken.id] at equal ⊢
  cases distinct entry inRegistry other otherInRegistry equal
  refine ⟨rfl, ?_⟩
  cases Value.map.inj (taken.entry_eq_map.symm.trans otherTaken.entry_eq_map)
  rw [taken.description_eq, otherTaken.description_eq]

structure Report.Decided (report : List ReportEntry) (config : Config) : Prop where
  written_iff : (∃ text, Report.text report config = .ok text) ↔
    config.isWritable = true ∧
      ∀ selector issue, Reports report selector issue → isWritten issue.feature
  explained : ∀ fault, Report.text report config = .error fault → Explains report config fault
  /-- Only descriptions of blanks, but not empty ones, may fail to be laid out; those of plain
  blanks do. -/
  described : ∀ selector issue, Reports report selector issue →
    ∃ text, issue.feature.description = .str text ∧
      (text = "" ∨ (∃ c ∈ text.toList, Text.isBlank c = false) →
        issue.feature.isDescribed = true) ∧
      (text ≠ "" → text.toList.all Text.Wrap.isPlainBlank = true →
        issue.feature.isDescribed = false)

/-- The text of a report on a registry whose descriptions are texts is written exactly where the
settings and the identifiers of the issues are short enough and no description is a line of blanks
alone; nothing else makes it fail. -/
theorem report_text_decided {registry : Registry}
    (keys : ∀ entry ∈ registry.features, entry.1.isKey = true) (distinct : registry.Distinct)
    (texts : registry.DescribedInText) (config : Config) (nodes : List Css.Node) :
    (∃ lookup lines, Lookup.ofRegistry registry config = .ok (lookup, lines) ∧
      Report.Decided (analyze nodes lookup config) config) ∨
    (Lookup.ofRegistry registry config = .error Fault.tooLong ∧
      Value.entriesWritable registry.features = false) := by
  refine (Lookup.ofRegistry_outcome registry config).imp_left ?_
  rintro ⟨lookup, lines, built, holds⟩
  refine ⟨lookup, lines, built, ?_⟩
  have taken : ∀ hit ∈ Report.hits (analyze nodes lookup config),
      hit.2.feature.id.isKey = true ∧ Report.Described hit.2.feature := by
    intro hit member
    obtain ⟨entry, inRegistry, _, _, _, taken⟩ := holds.takenFrom_of_reports
      (Report.mem_hits.1 member)
    rw [taken.id]
    exact ⟨keys entry inRegistry, taken.describedInText inRegistry texts⟩
  have outcome := Report.text_outcome config (Report.alike_of_distinct distinct holds nodes)
    (fun hit member => (taken hit member).1) (fun hit member => (taken hit member).2)
  refine ⟨outcome.ok_iff.trans (and_congr_right fun _ => ?_), fun _ => outcome.explained, ?_⟩
  · exact ⟨fun written selector issue reported => written (selector, issue)
        (Report.mem_hits.2 reported),
      fun written hit member => written hit.1 hit.2 (Report.mem_hits.1 member)⟩
  · intro selector issue reported
    obtain ⟨text, said⟩ := (taken (selector, issue) (Report.mem_hits.2 reported)).2.text
    have laidOut : issue.feature.isDescribed = isLaidOut text := by rw [Feature.isDescribed, said]
    rw [laidOut]
    refine ⟨text, said, ?_, fun given blank => not_isLaidOut_of_blank given blank⟩
    rintro (rfl | ⟨c, member, visible⟩)
    · rfl
    · exact isLaidOut_of_visible member visible

def describedFields (description : String) : Entries :=
  [(.str "description", .str description),
   (.str "status", .map [(.str "baseline", .str "low")]),
   (.str "compat_features", .list [.str "css.properties.gap"])]

def describedRegistry (description : String) : Registry :=
  .ofTexts [("f", .map (describedFields description))]

/-- A scan of newly available features and of those that are not available everywhere. -/
def lowScan : Config := ⟨true, false, true, none, .str "normal", .null⟩

theorem describedRegistry_describedInText (description : String) :
    (describedRegistry description).DescribedInText := by
  have own : Entries.get? (describedFields description) "description" =
      some (.str description) := by with_unfolding_all rfl
  intro entry member fields isMap found said
  cases List.mem_singleton.1 member
  cases isMap
  exact ⟨description, Option.some.inj (said.symm.trans own)⟩

theorem readStylesheet_gap :
    readStylesheet "a \x7b gap: 1px \x7d" =
      .ok ([.qualified [.ident "a", .whitespace " "] gapContent], []) := by
  with_unfolding_all rfl

theorem itemGap_report_written :
    (∀ entry ∈ (describedRegistry "Space between items").features, entry.1.isKey = true) ∧
      (describedRegistry "Space between items").Distinct ∧
      (describedRegistry "Space between items").DescribedInText ∧
      ∃ nodes lookup lines text, readStylesheet "a \x7b gap: 1px \x7d" = .ok (nodes, []) ∧
        Lookup.ofRegistry (describedRegistry "Space between items") lowScan =
          .ok (lookup, lines) ∧
        Report.text (analyze nodes lookup lowScan) lowScan = .ok text := by
  have keys : ∀ entry ∈ (describedRegistry "Space between items").features,
      entry.1.isKey = true := by
    intro entry member
    cases List.mem_singleton.1 member
    rfl
  have distinct : (describedRegistry "Space between items").Distinct :=
    Registry.distinct_ofTexts (by decide)
  have texts := describedRegistry_describedInText "Space between items"
  refine ⟨keys, distinct, texts, ?_⟩
  rcases report_text_decided keys distinct texts lowScan
      [.qualified [.ident "a", .whitespace " "] gapContent] with
    ⟨lookup, lines, built, decided⟩ | ⟨_, unwritable⟩
  · have all : ∀ selector issue,
        Reports (analyze [.qualified [.ident "a", .whitespace " "] gapContent] lookup lowScan)
          selector issue → Report.isWritten issue.feature := by
      -- The one entry of the registry describes every issue.
      intro selector issue reported
      obtain ⟨entry, inRegistry, _, _, _, taken⟩ :=
        (Lookup.ofRegistry_holds built).takenFrom_of_reports reported
      cases List.mem_singleton.1 inRegistry
      cases taken.entry_eq_map
      rw [Report.isWritten, Feature.isDescribed, taken.id, taken.description_eq]
      decide +kernel
    obtain ⟨text, written⟩ := decided.written_iff.2 ⟨by decide +kernel, all⟩
    exact ⟨_, lookup, lines, text, readStylesheet_gap, built, written⟩
  · exact absurd unwritable (by decide +kernel)

/-! ## A description of blanks -/

def blankFeature : Feature :=
  { id := .str "f"
    status := .low
    description := .str " "
    versions := Version.toEntries (Version.compat [])
    summary := "Limited browser support"
    compatKey := "css.properties.gap" }

theorem ofRegistry_blank :
    ∃ lines, Lookup.ofRegistry (describedRegistry " ") lowScan =
      .ok ([("gap", blankFeature)], lines) := by
  have named : CompatKey.identifier? "css.properties.gap" = some "gap" := by
    rw [CompatKey.identifier?, splitOn_point]
    decide +kernel
  have claimed : Lookup.claim (.str "f") .low (describedFields " ")
      [(.str "baseline", .str "low")] [] (.str "css.properties.gap") =
        .ok [("gap", blankFeature)] := by
    have shown : (Value.str "css.properties.gap").display = .ok "css.properties.gap" := rfl
    rw [Lookup.claim, shown]
    dsimp only [Bind.bind, Except.bind]
    rw [named]
    with_unfolding_all rfl
  have added : Lookup.addFeature lowScan (.str "f") (describedFields " ")
      [(.str "baseline", .str "low")] [.str "css.properties.gap"] [] =
        .ok [("gap", blankFeature)] := by
    have status : (Entries.get? [(.str "baseline", .str "low")] "baseline").bind
        Status.ofValue? = some .low := by with_unfolding_all rfl
    have admitted : Lookup.admits lowScan .low [(.str "baseline", .str "low")] = .ok true := by
      with_unfolding_all rfl
    unfold Lookup.addFeature
    rw [status]
    dsimp only [Bind.bind, Except.bind]
    rw [admitted]
    dsimp only [Bind.bind, Except.bind]
    rw [if_pos rfl, List.foldlM_cons, claimed]
    rfl
  have usable : Lookup.usable? (.map (describedFields " ")) =
      some (describedFields " ", [(.str "baseline", .str "low")],
        [.str "css.properties.gap"]) := by with_unfolding_all rfl
  have entry : Lookup.addEntry lowScan (0, []) (.str "f", .map (describedFields " ")) =
      .ok (0, [("gap", blankFeature)]) := by
    rw [Lookup.addEntry, usable]
    dsimp only
    rw [added]
    rfl
  rw [Lookup.ofRegistry, describedRegistry, Registry.ofTexts, List.map_singleton,
    List.foldlM_cons, entry]
  exact ⟨_, rfl⟩

/-- A description of one blank keeps the report from being written. -/
theorem blank_description_fails :
    (describedRegistry " ").DescribedInText ∧
      ∃ nodes lookup lines, readStylesheet "a \x7b gap: 1px \x7d" = .ok (nodes, []) ∧
        Lookup.ofRegistry (describedRegistry " ") lowScan = .ok (lookup, lines) ∧
        Report.text (analyze nodes lookup lowScan) lowScan = .error .outOfBounds := by
  have found : analyze [.qualified [.ident "a", .whitespace " "] gapContent]
      [("gap", blankFeature)] lowScan = [⟨"a", [⟨"gap", blankFeature⟩]⟩] := by
    rw [analyze, Analysis.walk, List.foldl_cons, Analysis.node, Analysis.block_eq_foldl,
      readNodes_gapContent]
    with_unfolding_all rfl
  obtain ⟨lines, built⟩ := ofRegistry_blank
  refine ⟨describedRegistry_describedInText " ", _, [("gap", blankFeature)], lines,
    readStylesheet_gap, built, ?_⟩
  rw [found]
  with_unfolding_all rfl

end Baseline

end BrowserScript
