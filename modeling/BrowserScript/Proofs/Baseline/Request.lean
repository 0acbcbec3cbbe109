import BrowserScript.Baseline.Lookup
import BrowserScript.Proofs.Program.Number

/-!
# The scan that a step asks for

A step lists availabilities and names a year. Options are written from it and read back into a
configuration, with defaults of their own for what is absent. For an accepted step no default is
ever used: the configuration reports exactly the listed statuses, from the named year on, and what
becomes of each entry of a registry can be read off the step itself.
-/

namespace BrowserScript

open Schema

namespace Baseline

/-! ## What a step asks for -/

def Asks (items : List Value) : Status → Prop
  | .notBaseline => .bool false ∈ items ∨ .str "false" ∈ items
  | .low => .str "low" ∈ items
  | .high => .str "high" ∈ items

/-- The year since which a feature is widely available, if its entry says so. -/
def highYear (data : Entries) : Except Fault (Option Int) :=
  FeatureDate.year? ((Entries.get? data "baseline_high_date").getD .null)

def statusOf? (data : Entries) : Option Status :=
  (Entries.get? data "baseline").bind Status.ofValue?

/-- What becomes of a registry entry and the lookup so far, as the availabilities and the year of a
step describe it. -/
inductive Decides (items : List Value) (year : Int) (state : Nat × Lookup) (id : Value) :
    Value → Except Fault (Nat × Lookup) → Prop where
  /-- A malformed entry is counted. -/
  | malformed {entry : Value} (unusable : Lookup.usable? entry = none) :
      Decides items year state id entry (.ok (state.1 + 1, state.2))
  /-- An entry without keys, or whose status is unknown or not asked for, is left out. -/
  | leftOut {entry : Value} {fields data : Entries} {keys : List Value}
      (usable : Lookup.usable? entry = some (fields, data, keys))
      (unasked : keys = [] ∨ ∀ status, statusOf? data = some status → ¬ Asks items status) :
      Decides items year state id entry (.ok state)
  /-- So is one that has been widely available since before the year. -/
  | outdated {entry : Value} {fields data : Entries} {keys : List Value} {since : Int}
      (usable : Lookup.usable? entry = some (fields, data, keys))
      (named : year ≠ 0) (dated : highYear data = .ok (some since)) (before : since < year) :
      Decides items year state id entry (.ok state)
  /-- Any other entry claims the identifiers of all its keys. -/
  | listed {entry : Value} {fields data : Entries} {keys : List Value} {status : Status}
      (usable : Lookup.usable? entry = some (fields, data, keys)) (keyed : keys ≠ [])
      (known : statusOf? data = some status) (asked : Asks items status)
      (recent : year = 0 ∨ ∃ since, highYear data = .ok since ∧ ∀ first ∈ since, year ≤ first) :
      Decides items year state id entry
        ((state.1, ·) <$> keys.foldlM (Lookup.claim id status fields data) state.2)
  /-- A date that cannot be written as text stops the scan, if the year asks for it. -/
  | unreadable {entry : Value} {fields data : Entries} {keys : List Value} {status : Status}
      {fault : Fault} (usable : Lookup.usable? entry = some (fields, data, keys)) (keyed : keys ≠ [])
      (known : statusOf? data = some status) (asked : Asks items status)
      (named : year ≠ 0) (failed : highYear data = .error fault) :
      Decides items year state id entry (.error fault)

/-- The decisions on the entries of a registry, one after another. -/
inductive DecidesAll (items : List Value) (year : Int) :
    Nat × Lookup → Entries → Except Fault (Nat × Lookup) → Prop where
  | done (state : Nat × Lookup) : DecidesAll items year state [] (.ok state)
  | next {state after : Nat × Lookup} {id entry : Value} {entries : Entries}
      {outcome : Except Fault (Nat × Lookup)}
      (first : Decides items year state id entry (.ok after))
      (rest : DecidesAll items year after entries outcome) :
      DecidesAll items year state ((id, entry) :: entries) outcome
  | stop {state : Nat × Lookup} {id entry : Value} {entries : Entries} {fault : Fault}
      (first : Decides items year state id entry (.error fault)) :
      DecidesAll items year state ((id, entry) :: entries) (.error fault)

/-! ## Every entry is decided -/

section

variable {items : List Value} {year : Int}

/-- The availabilities and the year leave no entry undecided. -/
theorem exists_decides (items : List Value) (year : Int) (state : Nat × Lookup) (id entry : Value) :
    ∃ outcome, Decides items year state id entry outcome := by
  cases usable : Lookup.usable? entry with
  | none => exact ⟨_, .malformed usable⟩
  | some parts =>
      obtain ⟨fields, data, keys⟩ := parts
      by_cases wanted : keys ≠ [] ∧ ∃ status, statusOf? data = some status ∧ Asks items status
      · obtain ⟨keyed, status, known, asked⟩ := wanted
        by_cases named : year = 0
        · exact ⟨_, .listed usable keyed known asked (.inl named)⟩
        · cases dated : highYear data with
          | error fault => exact ⟨_, .unreadable usable keyed known asked named dated⟩
          | ok since =>
              by_cases early : ∃ first, since = some first ∧ first < year
              · obtain ⟨first, rfl, before⟩ := early
                exact ⟨_, .outdated usable named dated before⟩
              · refine ⟨_, .listed usable keyed known asked (.inr ⟨since, dated, ?_⟩)⟩
                intro first member
                exact Int.not_lt.1 fun before => early ⟨first, member, before⟩
      · refine ⟨_, .leftOut usable ?_⟩
        by_cases empty : keys = []
        · exact .inl empty
        · exact .inr fun status known asked => wanted ⟨empty, status, known, asked⟩

/-- Nor do they leave a registry undecided. -/
theorem exists_decidesAll (items : List Value) (year : Int) (state : Nat × Lookup)
    (entries : Entries) : ∃ outcome, DecidesAll items year state entries outcome := by
  induction entries generalizing state with
  | nil => exact ⟨_, .done state⟩
  | cons first entries ih =>
      obtain ⟨id, entry⟩ := first
      obtain ⟨outcome, decided⟩ := exists_decides items year state id entry
      cases outcome with
      | error fault => exact ⟨_, .stop decided⟩
      | ok after =>
          obtain ⟨last, rest⟩ := ih after
          exact ⟨last, .next decided rest⟩

/-! ## The decisions of a configuration -/

/-- A configuration is the one that availabilities and a year describe. -/
structure Config.Follows (items : List Value) (year : Int) (config : Config) : Prop where
  includes : ∀ status, config.includes status = true ↔ Asks items status
  threshold : config.yearThreshold = if year = 0 then none else some year

namespace Lookup

variable {config : Config} {state : Nat × Lookup} {id entry : Value} {fields data : Entries}
  {keys : List Value}

/-- An entry without keys adds nothing. -/
theorem addEntry_of_nil (usable : usable? entry = some (fields, data, [])) :
    addEntry config state (id, entry) = .ok state := by
  unfold addEntry
  rw [usable]
  dsimp only [addFeature]
  cases (Entries.get? data "baseline").bind Status.ofValue? with
  | none => rfl
  | some status => rfl

/-- Nor does one without a status. -/
theorem addEntry_of_unknown (usable : usable? entry = some (fields, data, keys))
    (unknown : statusOf? data = none) : addEntry config state (id, entry) = .ok state := by
  unfold addEntry
  rw [usable]
  dsimp only [addFeature]
  rw [show (Entries.get? data "baseline").bind Status.ofValue? = none from unknown]
  rfl

/-- An entry with a status and keys claims its identifiers if it is admitted. -/
theorem addEntry_of_known {status : Status} (usable : usable? entry = some (fields, data, keys))
    (keyed : keys ≠ []) (known : statusOf? data = some status) :
    addEntry config state (id, entry) = (do
      if ← admits config status data then
        (state.1, ·) <$> keys.foldlM (claim id status fields data) state.2
      else return state) := by
  obtain ⟨key, others, rfl⟩ := List.exists_cons_of_ne_nil keyed
  unfold addEntry
  rw [usable]
  dsimp only [addFeature]
  rw [show (Entries.get? data "baseline").bind Status.ofValue? = some status from known]
  dsimp only
  cases admits config status data with
  | error fault => rfl
  | ok admitted =>
      cases admitted with
      | false => rfl
      | true => exact bind_pure_comp _ _

/-- A registry is read entry by entry. -/
theorem fst_ofRegistry (registry : Registry) (config : Config) :
    Prod.fst <$> ofRegistry registry config =
      Prod.snd <$> registry.features.foldlM (addEntry config) (0, []) := by
  unfold ofRegistry
  cases registry.features.foldlM (addEntry config) (0, []) with
  | error fault => rfl
  | ok state => rfl

/-- An entry that is not admitted under the status it has adds nothing. -/
theorem addEntry_of_not_admits (usable : usable? entry = some (fields, data, keys))
    (refused : ∀ status, statusOf? data = some status → admits config status data = .ok false) :
    addEntry config state (id, entry) = .ok state := by
  cases known : statusOf? data with
  | none => exact addEntry_of_unknown usable known
  | some status =>
      by_cases empty : keys = []
      · subst empty
        exact addEntry_of_nil usable
      · rw [addEntry_of_known usable empty known, refused status known]
        rfl

end Lookup

namespace Config.Follows

variable {config : Config} {status : Status} {data : Entries}
variable {outcome : Except Fault (Nat × Lookup)}

/-- A feature whose status is asked for is admitted, where no year is named. -/
theorem admits_of_zero (follows : config.Follows items 0) (asked : Asks items status) :
    Lookup.admits config status data = .ok true := by
  unfold Lookup.admits
  rw [follows.threshold, (follows.includes status).2 asked]
  rfl

variable (follows : config.Follows items year)
include follows

/-- One whose status is not asked for is not. -/
theorem admits_of_not_asks (unasked : ¬ Asks items status) :
    Lookup.admits config status data = .ok false := by
  have excluded : config.includes status = false :=
    Bool.eq_false_iff.2 fun included => unasked ((follows.includes status).1 included)
  unfold Lookup.admits
  rw [excluded]
  rfl

/-- Where a year is named, the date since which the feature is widely available decides. -/
theorem admits_of_ne_zero (named : year ≠ 0) (asked : Asks items status) :
    Lookup.admits config status data =
      (fun since => !(since.any fun first => first < year)) <$> highYear data := by
  unfold Lookup.admits
  rw [follows.threshold, if_neg named, (follows.includes status).2 asked]
  rw [if_neg (by decide : ¬ (!true) = true)]
  split
  · rename_i impossible
    cases impossible
  · rename_i zero
    exact absurd (Option.some.inj zero) named
  · rename_i threshold _ same
    obtain rfl := Option.some.inj same
    change (highYear data >>= fun since => _) = _
    cases highYear data with
    | error fault => rfl
    | ok since => rfl

/-- A feature that has been widely available since before the year is never admitted. -/
theorem admits_of_outdated (named : year ≠ 0) {since : Int}
    (dated : highYear data = .ok (some since)) (before : since < year) :
    Lookup.admits config status data = .ok false := by
  by_cases asked : Asks items status
  · rw [follows.admits_of_ne_zero named asked, dated]
    simp [before]
  · exact follows.admits_of_not_asks asked

/-- One that is asked for and has not is. -/
theorem admits_of_recent (asked : Asks items status)
    (recent : year = 0 ∨ ∃ since, highYear data = .ok since ∧ ∀ first ∈ since, year ≤ first) :
    Lookup.admits config status data = .ok true := by
  by_cases named : year = 0
  · subst named
    exact follows.admits_of_zero asked
  · obtain ⟨since, dated, late⟩ := recent.resolve_left named
    rw [follows.admits_of_ne_zero named asked, dated]
    cases since with
    | none => rfl
    | some first => simp [late first rfl]

/-- The lookup takes the decision that the availabilities and the year describe. -/
theorem addEntry_of_decides {state : Nat × Lookup} {id entry : Value}
    (decided : Decides items year state id entry outcome) :
    Lookup.addEntry config state (id, entry) = outcome := by
  cases decided with
  | malformed unusable =>
      unfold Lookup.addEntry
      rw [unusable]
  | leftOut usable unasked =>
      rcases unasked with rfl | unasked
      · exact Lookup.addEntry_of_nil usable
      · exact Lookup.addEntry_of_not_admits usable fun status known =>
          follows.admits_of_not_asks (unasked status known)
  | outdated usable named dated before =>
      exact Lookup.addEntry_of_not_admits usable fun _ _ =>
        follows.admits_of_outdated named dated before
  | listed usable keyed known asked recent =>
      rw [Lookup.addEntry_of_known usable keyed known, follows.admits_of_recent asked recent]
      rfl
  | unreadable usable keyed known asked named failed =>
      rw [Lookup.addEntry_of_known usable keyed known, follows.admits_of_ne_zero named asked,
        failed]
      rfl

/-- And no other. -/
theorem decides_iff {state : Nat × Lookup} {id entry : Value} :
    Decides items year state id entry outcome ↔
      Lookup.addEntry config state (id, entry) = outcome := by
  refine ⟨follows.addEntry_of_decides, ?_⟩
  rintro rfl
  obtain ⟨outcome, decided⟩ := exists_decides items year state id entry
  rwa [follows.addEntry_of_decides decided]

/-- The lookup takes these decisions on a whole registry. -/
theorem foldlM_of_decidesAll {state : Nat × Lookup} {entries : Entries}
    (decided : DecidesAll items year state entries outcome) :
    entries.foldlM (Lookup.addEntry config) state = outcome := by
  induction decided with
  | done state => rfl
  | next first rest ih =>
      rw [List.foldlM_cons, follows.addEntry_of_decides first]
      exact ih
  | stop first =>
      rw [List.foldlM_cons, follows.addEntry_of_decides first]
      rfl

end Config.Follows

end

/-! ## The configuration of a step -/

/-- Words that pass a filter are found among what passes exactly if they were there before. -/
theorem any_isText_filter (texts : List String) {kept : String → Bool} {word : String}
    (passes : kept word = true) :
    ((texts.filter kept).map Value.str).any (·.isText word) = texts.contains word := by
  rw [Bool.eq_iff_iff, List.any_map, List.any_eq_true, List.contains_iff_mem]
  constructor
  · rintro ⟨text, member, same⟩
    obtain rfl : text = word := by simpa using same
    exact (List.mem_filter.1 member).1
  · intro member
    exact ⟨word, List.mem_filter.2 ⟨member, passes⟩, by simp⟩

def optionsOf (texts : List String) (year strictness delay : Value) : Entries :=
  [(.str "includeAvailability",
      .list ((texts.filter fun text => text == "low" || text == "high").map .str)),
   (.str "baselineYearThreshold", year),
   (.str "includeNotBaseline", .bool (texts.contains "false")),
   (.str "strictness", strictness.orElse (.str "relaxed")),
   (.str "delay", delay)]

theorem ofPayload_eq_optionsOf {entries : Entries} {items : List Value} {texts : List String}
    (listed : Entries.get? entries "availability" = some (.list items))
    (shown : items.mapM ScanOptions.availabilityText = .ok texts) :
    ScanOptions.ofPayload (.map entries) = .ok (.map (optionsOf texts (entry entries "year")
      (entry entries "strictness") (entry entries "delay"))) := by
  unfold ScanOptions.ofPayload
  rw [Value.optionOr_map, listed]
  change (items.mapM ScanOptions.availabilityText >>= fun texts => _) = _
  rw [shown]
  rfl

def Config.ofTexts (texts : List String) (strictness delay : Value) (threshold : Option Int) :
    Config where
  low := texts.contains "low"
  high := texts.contains "high"
  notBaseline := texts.contains "false"
  yearThreshold := threshold
  strictness := (strictness.orElse (.str "relaxed")).orElse (.str "normal")
  delay := delay

/-- Options are read back without a default: an empty list and a missing word stay what they are. -/
theorem Config.ofOptions_optionsOf (texts : List String) (year strictness delay : Value) :
    Config.ofOptions (.map (optionsOf texts year strictness delay)) =
      Config.ofTexts texts strictness delay <$> yearOf year := by
  have given : Entries.get? (optionsOf texts year strictness delay) "includeAvailability" =
      some (.list ((texts.filter fun text => text == "low" || text == "high").map .str)) := by
    simp [optionsOf, Entries.get?_cons]
  have dated : entry (optionsOf texts year strictness delay) "baselineYearThreshold" = year := by
    simp [optionsOf, entry, Entries.get?_cons]
  rw [ofOptions_list given, dated, any_isText_filter texts rfl, any_isText_filter texts rfl]
  congr 1
  funext threshold
  simp [optionsOf, ofTexts, entry, Entries.get?_cons, Value.truthy]

/-- Texts that hold the words of the availabilities make the configuration that these describe. -/
theorem Config.follows_ofTexts {texts : List String} {items : List Value}
    (same : ∀ word ∉ ScanOptions.zeroTexts,
      (word ∈ texts ↔ .str word ∈ items ∨ word = "false" ∧ .bool false ∈ items))
    (strictness delay : Value) (year : Int) :
    (Config.ofTexts texts strictness delay (if year = 0 then none else some year)).Follows
      items year where
  threshold := rfl
  includes := by
    intro status
    cases status with
    | notBaseline =>
        change texts.contains "false" = true ↔ _
        rw [List.contains_iff_mem, same "false" (by decide)]
        simp [Asks, or_comm]
    | low =>
        change texts.contains "low" = true ↔ _
        rw [List.contains_iff_mem, same "low" (by decide)]
        simp [Asks]
    | high =>
        change texts.contains "high" = true ↔ _
        rw [List.contains_iff_mem, same "high" (by decide)]
        simp [Asks]

theorem yearOf_of_wholeNumber? {year : Value} {number validated : Int}
    (valid : wholeOf? year = some validated) (whole : year.wholeNumber? = some number) :
    yearOf year = .ok (if number = 0 then none else some number) := by
  have plain : isTextual year = false := by
    cases year with
    | str text => cases whole
    | bytes data => cases whole
    | _ => rfl
  have same : validated = number := by
    cases year with
    | bool truth => exact Option.some.inj (valid.symm.trans whole)
    | int given => exact Option.some.inj (valid.symm.trans whole)
    | float given =>
        have kept := (Option.filter_eq_some_iff.1 valid).1
        exact Option.some.inj (kept.symm.trans whole)
    | _ => cases whole
  rw [← same]
  exact yearOf_of_not_textual plain valid

/-- The scan that an accepted step asks for is the one that runs. Its configuration reports exactly
the statuses that the availabilities list, none for an empty list, has the year as its threshold,
none for zero, and hands the delay on; and what becomes of every entry of a registry, and of the
registry as a whole, is what the availabilities and the year describe. -/
theorem scan_as_asked (index : Nat) (entries : Entries) (items : List Value) (year : Value)
    (number : Int) (accepted : checkStep index (stepOf .baselineScan (.map entries)) = .ok ())
    (listed : Entries.get? entries "availability" = some (.list items))
    (dated : Entries.get? entries "year" = some year) (whole : year.wholeNumber? = some number) :
    ∃ options config, ScanOptions.ofPayload (.map entries) = .ok options ∧
      Config.ofOptions options = .ok config ∧
      (∀ status, config.includes status = true ↔ Asks items status) ∧
      config.yearThreshold = (if number = 0 then none else some number) ∧
      config.delay = (Entries.get? entries "delay").getD .null ∧
      (∀ state id value outcome, Decides items number state id value outcome ↔
        Lookup.addEntry config state (id, value) = outcome) ∧
      ∀ registry, ∃ outcome, DecidesAll items number (0, []) registry.features outcome ∧
        Prod.fst <$> Lookup.ofRegistry registry config = Prod.snd <$> outcome := by
  obtain ⟨_, same, conforms, _⟩ := (admits_of_checkStep accepted).record
  cases same
  -- Words are compared as texts, in which numbers that equal false have spellings of their own.
  obtain ⟨texts, shown, words⟩ : ∃ texts, items.mapM ScanOptions.availabilityText = .ok texts ∧
      ∀ word ∉ ScanOptions.zeroTexts,
        (word ∈ texts ↔ .str word ∈ items ∨ word = "false" ∧ .bool false ∈ items) := by
    obtain ⟨found, given, shaped⟩ := conforms.required List.mem_cons_self
    obtain rfl := Option.some.inj (given.symm.trans listed)
    obtain ⟨_, members, each⟩ := shaped.list
    cases members
    exact ScanOptions.mem_texts_iff each
  have threshold : yearOf (entry entries "year") =
      .ok (if number = 0 then none else some number) := by
    obtain ⟨found, given, shaped⟩ := conforms.required (List.mem_cons_of_mem _ List.mem_cons_self)
    obtain rfl := Option.some.inj (given.symm.trans dated)
    obtain ⟨validated, valid⟩ := Shape.admits_whole.1 shaped
    rw [entry, dated]
    exact yearOf_of_wholeNumber? valid whole
  have follows := Config.follows_ofTexts words (entry entries "strictness") (entry entries "delay")
    number
  refine ⟨_, _, ofPayload_eq_optionsOf listed shown, ?_, follows.includes, rfl, rfl, ?_, ?_⟩
  · rw [Config.ofOptions_optionsOf, threshold]
    rfl
  · intro state id value outcome
    exact follows.decides_iff
  · intro registry
    obtain ⟨outcome, decided⟩ := exists_decidesAll items number (0, []) registry.features
    refine ⟨outcome, decided, ?_⟩
    rw [← follows.foldlM_of_decidesAll decided]
    exact Lookup.fst_ofRegistry registry _

def mixedScan : Entries :=
  [(.str "availability", .list [.bool false, .str "low"]), (.str "year", .int 2020),
   (.str "delay", .str "2s")]

theorem mixedScan_accepted : checkStep 0 (stepOf .baselineScan (.map mixedScan)) = .ok () := by
  with_unfolding_all rfl

/-- The status of a feature that is new but has been widely available since 2019. -/
def earlyStatus : Entries :=
  [(.str "baseline", .str "low"), (.str "baseline_high_date", .str "2019-05-01")]

def earlyEntry : Entries :=
  [(.str "status", .map earlyStatus), (.str "compat_features", .list [.str "css.properties.gap"])]

theorem earlyEntry_usable :
    Lookup.usable? (.map earlyEntry) =
      some (earlyEntry, earlyStatus, [.str "css.properties.gap"]) := by
  simp [Lookup.usable?, earlyEntry, Entries.get?_cons]

/-- The mixed step reports both statuses and not the third, keeps its year and its delay, and leaves
the early entry out. -/
theorem mixedScan_as_asked :
    checkStep 0 (stepOf .baselineScan (.map mixedScan)) = .ok () ∧
      ∃ options config, ScanOptions.ofPayload (.map mixedScan) = .ok options ∧
        Config.ofOptions options = .ok config ∧
        (config.includes .notBaseline = true ∧ config.includes .low = true ∧
          ¬ config.includes .high = true) ∧
        config.yearThreshold = some 2020 ∧ config.delay = .str "2s" ∧
        Lookup.addEntry config (0, []) (.str "gap", .map earlyEntry) = .ok (0, []) := by
  obtain ⟨options, config, made, read, includes, threshold, delay, decides, _⟩ :=
    scan_as_asked 0 mixedScan [.bool false, .str "low"] (.int 2020) 2020 mixedScan_accepted
      (by simp [mixedScan, Entries.get?_cons]) (by simp [mixedScan, Entries.get?_cons]) rfl
  refine ⟨mixedScan_accepted, options, config, made, read, ⟨?_, ?_, ?_⟩, threshold, ?_, ?_⟩
  · exact (includes .notBaseline).2 (.inl List.mem_cons_self)
  · exact (includes .low).2 (List.mem_cons_of_mem _ List.mem_cons_self)
  · rw [includes .high]
    simp [Asks]
  · rw [delay]
    simp [mixedScan, Entries.get?_cons]
  · have dated : highYear earlyStatus = .ok (some 2019) := by with_unfolding_all rfl
    exact (decides _ _ _ _).1 (.outdated earlyEntry_usable (by decide) dated (by decide))

end Baseline

end BrowserScript
