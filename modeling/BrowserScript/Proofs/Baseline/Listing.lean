import BrowserScript.Baseline.Report
import BrowserScript.Proofs.Groups.Sorting
import BrowserScript.Proofs.Value.Literal
import Mathlib.Algebra.Group.Nat.Defs
import Mathlib.Algebra.GroupWithZero.Nat
import Mathlib.Data.List.Forall2

/-!
# What the text of a report lists

The text of a report is laid out from an outline: the total, the count of every status, and for each
status with issues a section that lists features by number, and under each feature the selectors
with their properties. The outline mentions every issue of the report once, under its own status,
feature and selector, and everything in it stands in the order of its first occurrence.
-/

namespace BrowserScript.Baseline.Report

/-! ## Outlines -/

/-- What is listed of a feature under one number. Selectors stand here in full. -/
structure Listing where
  number : Nat
  id : Value
  /-- The identifier as it is shown. -/
  name : String
  /-- What is known of the feature. -/
  details : List String
  /-- The selectors with the properties under them. -/
  places : Groups String String

structure StatusSection where
  status : Status
  count : Nat
  listings : List Listing

structure Outline where
  settings : List String
  selectors : Nat
  total : Nat
  counts : List (Status × Nat)
  sections : List StatusSection

def linesOfPlaces (places : Groups String String) : List String :=
  ("   📍 Found in " ++ number places.length ++ " selector(s):")
    :: places.flatMap fun place =>
      ["      • " ++ shortSelector place.1,
       "        Properties: " ++ String.intercalate ", " place.2]

def Listing.lines (listing : Listing) : List String :=
  ["", Report.number listing.number ++ ". Feature: " ++ listing.name]
    ++ listing.details ++ linesOfPlaces listing.places

def StatusSection.lines (part : StatusSection) : List String :=
  ["", sectionRule,
    part.status.icon ++ " " ++ String.ofList (Text.upper part.status.tag.toList) ++ " ("
      ++ number part.count ++ " issues)", sectionRule]
    ++ part.listings.flatMap Listing.lines

def StatusSection.advice (part : StatusSection) : List String :=
  ["", part.status.icon ++ " " ++ part.status.adviceHeading]
    ++ part.status.advice.map fun item => "   • " ++ item

def Outline.lines (outline : Outline) : List String :=
  ["", rule, "🎯 BASELINE ANALYSIS REPORT", rule, ""] ++ outline.settings
    ++ ["", "📊 Summary:",
        "   Total Selectors Analyzed: " ++ number outline.selectors,
        "   Total Issues Found: " ++ number outline.total]
    ++ (outline.counts.map fun count =>
        "   " ++ count.1.icon ++ " " ++ count.1.tag ++ ": " ++ number count.2)
    ++ outline.sections.flatMap StatusSection.lines
    ++ ["", rule, "💡 RECOMMENDATIONS", rule]
    ++ outline.sections.flatMap StatusSection.advice
    ++ (if outline.total = 0 then
          ["", "No compatibility issues matched the current configuration."]
        else [])
    ++ resourceLines

/-! ## Mentions -/

structure Mention where
  status : Status
  feature : Value
  selector : String
  property : String

def SameFeature (left right : Value) : Prop := left = right ∨ left.equals right = true

def mention (hit : Hit) : Mention :=
  ⟨hit.2.feature.status, hit.2.feature.id, hit.1, hit.2.property⟩

def mentions (report : List ReportEntry) : List Mention :=
  report.flatMap fun entry => entry.issues.map fun issue =>
    ⟨issue.feature.status, issue.feature.id, entry.selector, issue.property⟩

def Listing.mentions (status : Status) (listing : Listing) : List Mention :=
  listing.places.flatMap fun place =>
    place.2.map fun property => ⟨status, listing.id, place.1, property⟩

def StatusSection.mentions (part : StatusSection) : List Mention :=
  part.listings.flatMap (Listing.mentions part.status)

def Outline.mentions (outline : Outline) : List Mention :=
  outline.sections.flatMap StatusSection.mentions

structure Mention.Agrees (listed own : Mention) : Prop where
  status : listed.status = own.status
  feature : SameFeature listed.feature own.feature
  selector : listed.selector = own.selector
  property : listed.property = own.property

def ListsAll (listed own : List Mention) : Prop :=
  ∃ order, order.Perm own ∧ List.Forall₂ Mention.Agrees listed order

theorem ListsAll.append {first second own other : List Mention} (left : ListsAll first own)
    (right : ListsAll second other) : ListsAll (first ++ second) (own ++ other) := by
  obtain ⟨order, perm, agree⟩ := left
  obtain ⟨rest, restPerm, restAgree⟩ := right
  exact ⟨order ++ rest, perm.append restPerm, List.rel_append agree restAgree⟩

theorem ListsAll.of_perm {listed own other : List Mention} (lists : ListsAll listed own)
    (same : own.Perm other) : ListsAll listed other := by
  obtain ⟨order, perm, agree⟩ := lists
  exact ⟨order, perm.trans same, agree⟩

theorem SameFeature.eq_str {id : Value} {name : String} (same : SameFeature id (.str name)) :
    id = .str name := by
  rcases same with rfl | equal
  · rfl
  · cases id <;> simp_all [Value.equals, Value.equalsAtom, Value.wholeNumber?]

/-- Where all identifiers are texts, exactly the mentions that are there are listed. -/
theorem ListsAll.perm {listed own : List Mention} (lists : ListsAll listed own)
    (named : ∀ mention ∈ own, ∃ name, mention.feature = .str name) : listed.Perm own := by
  obtain ⟨order, perm, agree⟩ := lists
  have plain : ∀ mention ∈ order, ∃ name, mention.feature = .str name :=
    fun mention member => named mention (perm.subset member)
  have equal : List.Forall₂ Eq order listed := by
    refine List.Forall₂.imp ?_ ((List.forall₂_and_left _ _).2 ⟨plain, agree.flip⟩)
    rintro ⟨status, feature, selector, property⟩ mention ⟨⟨name, rfl⟩, agrees⟩
    obtain ⟨rfl, same, rfl, rfl⟩ := agrees
    rw [← same.eq_str]
  rw [List.forall₂_eq_eq_eq] at equal
  exact equal ▸ perm

/-- Parts that are each listed are listed together. -/
theorem ListsAll.flatMap {α β : Type} {listed : α → List Mention} {own : β → List Mention}
    {items : List α} {parts : List β}
    (each : List.Forall₂ (fun item part => ListsAll (listed item) (own part)) items parts) :
    ListsAll (items.flatMap listed) (parts.flatMap own) := by
  induction each with
  | nil => exact ⟨[], .refl _, .nil⟩
  | cons first _ ih => exact first.append ih

/-! ## One feature -/

/-- What is known of a feature under a name, told by its first use. -/
def detailLines (name : String) (first : Issue) : Except Fault (List String) := do
  let description ←
    if first.feature.description.truthy then descriptionLines first.feature.description
    else pure []
  let versions ← versionTexts first.feature.versions
  return description
    ++ lineOf "   📅 Baseline since: " (first.feature.year.getD "")
    ++ lineOf "   🌐 Browser support: " first.feature.summary
    ++ lineOf "   🔑 Compat key: " first.feature.compatKey
    ++ lineOf "   🌐 Browser versions: " (String.intercalate ", " versions)
    ++ referenceLines name first.property

/-- A listing shows uses of a feature: the first use tells what is known of it, selectors stand in
the order of their first use, and under each stand the properties of its uses in order. -/
structure Listing.Shows (listing : Listing) (uses : List Hit) : Prop where
  same : ∀ use ∈ uses, SameFeature listing.id use.2.feature.id
  name : listing.id.display = .ok listing.name
  first : ∃ first ∈ uses.head?, listing.id = first.2.feature.id ∧
    detailLines listing.name first.2 = .ok listing.details
  places : listing.places =
    (uses.map (·.1)).eraseDups.map fun selector =>
      (selector, (uses.filter (·.1 = selector)).map (·.2.property))

def bySelector (uses : List Hit) : List Hit :=
  (uses.map (·.1)).eraseDups.flatMap fun selector => uses.filter (·.1 = selector)

theorem bySelector_perm (uses : List Hit) : (bySelector uses).Perm uses := by
  have sorted := (Groups.sorted_ofPairs (· == ·) (uses.map fun use => (use.1, use))).items
  rw [Groups.ofPairs_eq_map, List.flatMap_map, List.map_map, List.map_map] at sorted
  have whole : uses.map ((fun pair : String × Hit => pair.2) ∘ fun use => (use.1, use)) = uses :=
    List.map_id uses
  rw [whole] at sorted
  refine List.Perm.trans (.of_eq ?_) sorted
  refine List.flatMap_congr fun selector _ => ?_
  rw [List.filter_map, List.map_map]
  exact (List.map_id _).symm

def placesOf (uses : List Hit) : Groups String String :=
  Groups.ofPairs (· == ·) (uses.map fun use => (use.1, use.2.property))

theorem placesOf_eq (uses : List Hit) :
    placesOf uses =
      (uses.map (·.1)).eraseDups.map fun selector =>
        (selector, (uses.filter (·.1 = selector)).map (·.2.property)) := by
  rw [placesOf, Groups.ofPairs_eq_map, List.map_map]
  refine List.map_congr_left fun selector _ => ?_
  rw [List.filter_map, List.map_map]
  rfl

/-- A listing mentions every use that it shows, as often as it is there. -/
theorem Listing.Shows.listsAll {listing : Listing} {uses : List Hit} {status : Status}
    (shows : listing.Shows uses) (own : ∀ use ∈ uses, use.2.feature.status = status) :
    ListsAll (listing.mentions status) (uses.map mention) := by
  refine ⟨(bySelector uses).map mention, (bySelector_perm uses).map mention, ?_⟩
  rw [Listing.mentions, shows.places, bySelector, List.flatMap_map, List.map_flatMap]
  refine List.rel_flatMap (List.forall₂_same.2 fun _ _ => rfl) ?_
  rintro selector _ rfl
  dsimp only
  rw [List.map_map, List.forall₂_map_left_iff, List.forall₂_map_right_iff, List.forall₂_same]
  intro use member
  obtain ⟨listed, here⟩ := List.mem_filter.1 member
  exact ⟨(own use listed).symm, shows.same use listed, (of_decide_eq_true here).symm, rfl⟩

theorem featureLines_eq (index : Nat) (id : Value) (first : Issue) (uses : List Hit) :
    featureLines index id first uses = (do
      let name ← id.display
      let details ← detailLines name first
      return ["", number index ++ ". Feature: " ++ name] ++ details ++ placeLines uses) := by
  rw [featureLines]
  cases id.display with
  | error fault => rfl
  | ok name =>
      simp only [detailLines, bind, Except.bind]
      cases first.feature.description.truthy with
      | true =>
          cases descriptionLines first.feature.description with
          | error fault => rfl
          | ok description =>
              cases versionTexts first.feature.versions with
              | error fault => rfl
              | ok versions => simp [pure, Except.pure]
      | false =>
          cases versionTexts first.feature.versions with
          | error fault => rfl
          | ok versions => simp [pure, Except.pure]

/-- The lines about a feature are those of a listing. -/
theorem featureLines_eq_ok {index : Nat} {id : Value} {first : Hit} {others : List Hit}
    {lines : List String} (written : featureLines index id first.2 (first :: others) = .ok lines)
    (own : id = first.2.feature.id)
    (same : ∀ use ∈ first :: others, SameFeature id use.2.feature.id) :
    ∃ listing : Listing, lines = listing.lines ∧ listing.number = index ∧ listing.id = id ∧
      listing.Shows (first :: others) := by
  rw [featureLines_eq] at written
  obtain ⟨name, named, written⟩ := bind_eq_ok written
  obtain ⟨details, told, written⟩ := bind_eq_ok written
  cases written
  refine ⟨⟨index, id, name, details, placesOf (first :: others)⟩, ?_, rfl, rfl, ?_⟩
  · rfl
  · exact ⟨same, named, ⟨first, rfl, own, told⟩, placesOf_eq (first :: others)⟩

/-! ## The features of a status -/

/-- A group holds uses of one feature under the identifier of the first. -/
structure OneFeature (group : Value × List Hit) : Prop where
  first : ∃ first ∈ group.2.head?, group.1 = first.2.feature.id
  same : ∀ use ∈ group.2, SameFeature group.1 use.2.feature.id

def byFeature (uses : List Hit) : Groups Value Hit :=
  Groups.ofPairs Value.equals (uses.map fun use => (use.2.feature.id, use))

theorem byFeature_made {uses : List Hit} {group : Value × List Hit}
    (member : group ∈ byFeature uses) : group.2.Sublist uses ∧ OneFeature group := by
  obtain ⟨own, made⟩ := (Groups.sorted_ofPairs Value.equals _).made group member
  -- The uses behind the group carry their own identifiers as keys.
  obtain ⟨part, kept, rfl⟩ := List.sublist_map_iff.1 made.kept
  have items : group.2 = part := by
    rw [← made.items, List.map_map]
    exact List.map_id part
  refine ⟨items ▸ kept, ?_, ?_⟩
  · have first := made.first
    rw [List.head?_map, Option.map_map] at first
    obtain ⟨use, head, id⟩ := Option.map_eq_some_iff.1 first
    exact ⟨use, items ▸ head, id.symm⟩
  · intro use listed
    exact made.equal _ (List.mem_map_of_mem (items ▸ listed))

/-- The lines about groups of uses are those of one listing each, numbered on. -/
theorem featuresLines_eq_ok {index : Nat} {groups : Groups Value Hit} {lines : List String}
    (written : featuresLines index groups = .ok lines) (each : ∀ group ∈ groups, OneFeature group) :
    ∃ listings : List Listing, lines = listings.flatMap Listing.lines ∧
      listings.map (·.number) = List.range' index groups.length ∧
      listings.map (·.id) = groups.map (·.1) ∧
      List.Forall₂ Listing.Shows listings (groups.map (·.2)) := by
  induction groups generalizing index lines with
  | nil =>
      cases written
      exact ⟨[], rfl, rfl, rfl, .nil⟩
  | cons group groups ih =>
      obtain ⟨one, rest⟩ := List.forall_mem_cons.1 each
      obtain ⟨id, uses⟩ := group
      obtain ⟨first, head, own⟩ := one.first
      cases uses with
      | nil => cases head
      | cons use others =>
          cases head
          obtain ⟨block, about, written⟩ := bind_eq_ok written
          obtain ⟨later, after, written⟩ := bind_eq_ok written
          cases written
          obtain ⟨listing, rfl, rfl, rfl, shows⟩ := featureLines_eq_ok about own one.same
          obtain ⟨listings, rfl, numbers, ids, all⟩ := ih after rest
          exact ⟨listing :: listings, rfl, congrArg (listing.number :: ·) numbers,
            congrArg (listing.id :: ·) ids, .cons shows all⟩

/-- A section lists uses: features are numbered from one on in the order of their first use, and
every use is shown under one of them. -/
structure StatusSection.Lists (part : StatusSection) (uses : List Hit) : Prop where
  numbers : part.listings.map (·.number) = List.range' 1 part.listings.length
  ids : part.listings.map (·.id) =
    (uses.map (·.2.feature.id)).eraseDupsBy fun later earlier => earlier.equals later
  shown : ∃ parts : List (List Hit), parts.flatten.Perm uses ∧
    (∀ own ∈ parts, own.Sublist uses) ∧ List.Forall₂ Listing.Shows part.listings parts

/-- A section mentions every use that it lists, as often as it is there. -/
theorem StatusSection.Lists.listsAll {part : StatusSection} {uses : List Hit}
    (lists : part.Lists uses) (own : ∀ use ∈ uses, use.2.feature.status = part.status) :
    ListsAll part.mentions (uses.map mention) := by
  obtain ⟨parts, perm, kept, all⟩ := lists.shown
  have each : List.Forall₂
      (fun listing uses => ListsAll (listing.mentions part.status) (uses.map mention))
      part.listings parts := by
    refine List.Forall₂.imp ?_ ((List.forall₂_and_left _ _).2 ⟨kept, all.flip⟩).flip
    rintro listing uses ⟨sublist, shows⟩
    exact Listing.Shows.listsAll shows fun use member => own use (sublist.subset member)
  refine (ListsAll.flatMap each).of_perm ?_
  rw [List.flatMap_def, ← List.map_flatten]
  exact perm.map mention

/-- The lines about a status with issues are those of its section. -/
theorem statusLines_eq_ok {status : Status} {use : Hit} {others : List Hit} {lines : List String}
    (written : statusLines status (use :: others) = .ok lines) :
    ∃ part : StatusSection, lines = part.lines ∧ part.status = status ∧
      part.count = (use :: others).length ∧ part.Lists (use :: others) := by
  rw [statusLines, if_neg (by simp)] at written
  split at written
  · cases written
  · obtain ⟨block, about, written⟩ := bind_eq_ok written
    cases written
    obtain ⟨listings, rfl, numbers, ids, all⟩ :=
      featuresLines_eq_ok about fun group member => (byFeature_made member).2
    have sorted := Groups.sorted_ofPairs Value.equals
      ((use :: others).map fun use => (use.2.feature.id, use))
    refine ⟨⟨status, _, listings⟩, rfl, rfl, rfl, ?_, ?_, (byFeature _).map (·.2), ?_, ?_, all⟩
    · have length := congrArg List.length ids
      rw [List.length_map, List.length_map] at length
      rw [numbers, length]
    · rw [ids, sorted.keys, List.map_map]
      rfl
    · have items := sorted.items
      rw [List.map_map] at items
      exact items.trans (.of_eq (List.map_id _))
    · intro own member
      obtain ⟨group, listed, rfl⟩ := List.mem_map.1 member
      exact (byFeature_made listed).1

/-! ## All statuses -/

/-- Sections cover statuses: there is one for each status with issues, it shows their number and
lists them, and the advice goes with the sections. -/
structure Covers (report : List ReportEntry) (statuses : List Status)
    (parts : List StatusSection) : Prop where
  counts : parts.map (fun part => (part.status, part.count)) =
    (statuses.map fun status => (status, (hitsOf report status).length)).filter (0 < ·.2)
  listed : ∀ part ∈ parts, part.Lists (hitsOf report part.status)
  advice : (statuses.flatMap fun status => adviceLines status (hitsOf report status)) =
    parts.flatMap StatusSection.advice
  mentions : ListsAll (parts.flatMap StatusSection.mentions)
    ((statuses.flatMap (hitsOf report)).map mention)

theorem Covers.cons_empty {report : List ReportEntry} {status : Status} {statuses : List Status}
    {parts : List StatusSection} (covers : Covers report statuses parts)
    (empty : hitsOf report status = []) : Covers report (status :: statuses) parts where
  counts := by
    rw [List.map_cons, empty, covers.counts]
    rfl
  listed := covers.listed
  advice := by
    rw [List.flatMap_cons, empty, covers.advice]
    rfl
  mentions := by
    rw [List.flatMap_cons, empty]
    exact covers.mentions

theorem Covers.cons {report : List ReportEntry} {statuses : List Status}
    {part : StatusSection} {parts : List StatusSection} (covers : Covers report statuses parts)
    (some : hitsOf report part.status ≠ []) (count : part.count = (hitsOf report part.status).length)
    (lists : part.Lists (hitsOf report part.status)) :
    Covers report (part.status :: statuses) (part :: parts) where
  counts := by
    have positive : 0 < (hitsOf report part.status).length := List.length_pos_of_ne_nil some
    rw [List.map_cons, List.map_cons, List.filter_cons_of_pos (by simpa using positive), count,
      covers.counts]
  listed := List.forall_mem_cons.2 ⟨lists, covers.listed⟩
  advice := by
    have filled : (hitsOf report part.status).isEmpty = false := List.isEmpty_eq_false_iff.2 some
    rw [List.flatMap_cons, List.flatMap_cons, covers.advice, adviceLines, filled]
    rfl
  mentions := by
    rw [List.flatMap_cons, List.flatMap_cons, List.map_append]
    exact (lists.listsAll fun _ member => beq_iff_eq.1 (List.mem_filter.1 member).2).append covers.mentions

/-- The lines about statuses are those of sections that cover them. -/
theorem mapM_statusLines_eq_ok {report : List ReportEntry} {statuses : List Status}
    {blocks : List (List String)}
    (written : (statuses.mapM fun status => statusLines status (hitsOf report status)) =
      .ok blocks) :
    ∃ parts, blocks.flatten = parts.flatMap StatusSection.lines ∧ Covers report statuses parts := by
  induction statuses generalizing blocks with
  | nil =>
      cases written
      exact ⟨[], rfl, rfl, List.forall_mem_nil _, rfl, [], .refl _, .nil⟩
  | cons status statuses ih =>
      rw [List.mapM_cons] at written
      obtain ⟨block, about, written⟩ := bind_eq_ok written
      obtain ⟨later, after, written⟩ := bind_eq_ok written
      cases written
      obtain ⟨parts, lines, covers⟩ := ih after
      cases own : hitsOf report status with
      | nil =>
          rw [own] at about
          cases about
          exact ⟨parts, lines, covers.cons_empty own⟩
      | cons use others =>
          rw [own] at about
          obtain ⟨part, rfl, rfl, count, lists⟩ := statusLines_eq_ok about
          refine ⟨part :: parts, ?_, covers.cons (own ▸ List.cons_ne_nil _ _) ?_ ?_⟩
          · rw [List.flatten_cons, List.flatMap_cons, lines]
          · rw [own, count]
          · rw [own]
            exact lists

/-- Every issue has one of the statuses. -/
theorem hitsOf_all_perm (report : List ReportEntry) :
    (Status.all.flatMap (hitsOf report)).Perm (hits report) := by
  simp only [Status.all, hitsOf, List.flatMap_cons, List.flatMap_nil, List.append_nil]
  induction hits report with
  | nil => exact .refl _
  | cons use uses ih =>
      simp only [List.filter_cons]
      cases use.2.feature.status with
      | notBaseline => exact ih.cons use
      | low => exact List.perm_middle.trans (ih.cons use)
      | high =>
          refine List.Perm.trans ?_ (ih.cons use)
          simp only [← List.append_assoc]
          exact List.perm_middle

theorem map_mention_hits (report : List ReportEntry) :
    (hits report).map mention = mentions report := by
  rw [hits, List.map_flatMap, mentions]
  refine List.flatMap_congr fun entry _ => ?_
  rw [List.map_map]
  rfl

/-! ## The whole text -/

/-- An outline accounts for every issue of a report once: the counts of the statuses add up to the
number of issues, a status has a section if it has issues, and the sections list these issues, each
under its own status, feature and selector. -/
structure Outline.Accounts (outline : Outline) (report : List ReportEntry) : Prop where
  selectors : outline.selectors = report.length
  total : outline.total = (report.map (·.issues.length)).sum
  counts : outline.counts =
    Status.all.map fun status => (status, (Report.mentions report).countP (·.status = status))
  sum : (outline.counts.map (·.2)).sum = outline.total
  sections : outline.sections.map (fun part => (part.status, part.count)) =
    outline.counts.filter (0 < ·.2)
  listed : ∀ part ∈ outline.sections, part.Lists (hitsOf report part.status)
  mentions : ListsAll outline.mentions (Report.mentions report)
  named : (∀ own ∈ Report.mentions report, ∃ name, own.feature = .str name) →
    outline.mentions.Perm (Report.mentions report)

theorem length_hits (report : List ReportEntry) :
    (hits report).length = (report.map (·.issues.length)).sum := by
  simp only [hits, List.length_flatMap, List.length_map]

theorem length_hitsOf (report : List ReportEntry) (status : Status) :
    (hitsOf report status).length = (mentions report).countP (·.status = status) := by
  rw [← map_mention_hits, List.countP_map, hitsOf, ← List.countP_eq_length_filter]
  exact List.countP_congr fun use _ => beq_iff_eq.trans decide_eq_true_iff.symm

/-- The text of a report is laid out from an outline that accounts for every issue once. -/
theorem text_accounts_for_every_issue {report : List ReportEntry} {config : Config} {text : String}
    (written : Report.text report config = .ok text) :
    ∃ outline : Outline, configLines config = .ok outline.settings ∧
      text = Text.joinLines outline.lines ∧ outline.Accounts report := by
  obtain ⟨settings, configured, written⟩ := bind_eq_ok written
  obtain ⟨blocks, about, written⟩ := bind_eq_ok written
  cases written
  obtain ⟨parts, lines, covers⟩ := mapM_statusLines_eq_ok about
  have all := (hitsOf_all_perm report).map mention
  rw [map_mention_hits] at all
  have mentioned := covers.mentions.of_perm all
  refine ⟨⟨settings, report.length, (hits report).length,
    Status.all.map fun status => (status, (hitsOf report status).length), parts⟩,
    configured, ?_, ?_⟩
  · rw [lines, covers.advice]
    simp only [Outline.lines, List.map_map, beq_iff_eq]
    rfl
  · refine ⟨rfl, length_hits report, ?_, ?_, covers.counts, covers.listed, mentioned,
      mentioned.perm⟩
    · simp only [length_hitsOf]
    · rw [List.map_map, ← (hitsOf_all_perm report).length_eq, List.length_flatMap]
      rfl

def recurringReport : List ReportEntry :=
  let grid : Feature := { id := .str "grid", status := .low, description := .str "Rows and columns" }
  let gap : Feature := { id := .str "gap", status := .low, year := some "2021" }
  let nesting : Feature := { id := .str "nesting", status := .notBaseline }
  [⟨".a", [⟨"display: grid", grid⟩, ⟨"gap", gap⟩, ⟨"display: grid", grid⟩]⟩,
   ⟨".b", [⟨"&", nesting⟩, ⟨"grid-area", grid⟩]⟩,
   ⟨".a", [⟨"row-gap", gap⟩, ⟨"grid-area", grid⟩]⟩]

def everyStatus : Config := ⟨true, true, true, none, .str "normal", .null⟩

theorem recurringReport_accounted :
    ∃ text, Report.text recurringReport everyStatus = .ok text ∧
      ∃ outline : Outline, configLines everyStatus = .ok outline.settings ∧
        text = Text.joinLines outline.lines ∧ outline.Accounts recurringReport := by
  have returns : (Report.text recurringReport everyStatus).toBool = true := by decide +kernel
  cases written : Report.text recurringReport everyStatus with
  | error fault =>
      rw [written] at returns
      cases returns
  | ok text => exact ⟨text, rfl, text_accounts_for_every_issue written⟩

end BrowserScript.Baseline.Report
