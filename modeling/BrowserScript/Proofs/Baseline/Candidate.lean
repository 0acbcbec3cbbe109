import BrowserScript.Baseline.Lookup
import BrowserScript.Proofs.Groups
import BrowserScript.Proofs.Value.Literal

/-!
# Candidates for an identifier

The keys of a registry that stand for an identifier are its candidates. They are listed in the
order of the registry. Of the candidates for an identifier, the last of the most restrictive ones
wins: the lookup built entry by entry holds exactly the winners.
-/

namespace BrowserScript.Baseline

structure Candidate where
  identifier : String
  id : Value
  status : Status
  fields : Entries
  data : Entries
  compatKey : String

namespace Candidate

variable {candidates : List Candidate}

/-- The candidate that a key of an entry is, if it stands for an identifier. -/
def ofKey? (id : Value) (status : Status) (fields data : Entries) (key : Value) :
    Option Candidate :=
  match key.display with
  | .error _ => none
  | .ok shown =>
      (CompatKey.identifier? shown).map fun identifier =>
        ⟨identifier, id, status, fields, data, shown⟩

/-- Whether a feature has not been widely available since before the threshold. -/
def isRecent (config : Config) (data : Entries) : Bool :=
  match config.yearThreshold,
    FeatureDate.year? ((Entries.get? data "baseline_high_date").getD .null) with
  | some threshold, .ok (some year) => threshold = 0 || threshold ≤ year
  | _, _ => true

/-- The candidates of the parts of an entry: its keys, if the configuration includes its status. -/
def ofParts (config : Config) (id : Value) (fields data : Entries) (keys : List Value) :
    List Candidate :=
  match (Entries.get? data "baseline").bind Status.ofValue? with
  | none => []
  | some status =>
      if config.includes status && isRecent config data then
        keys.filterMap (ofKey? id status fields data)
      else []

/-- The candidates of a registry entry, which has none if it is malformed. -/
def ofEntry (config : Config) (entry : Value × Value) : List Candidate :=
  match Lookup.usable? entry.2 with
  | none => []
  | some (fields, data, keys) => ofParts config entry.1 fields data keys

def ofRegistry (registry : Registry) (config : Config) : List Candidate :=
  registry.features.flatMap (ofEntry config)

def Describes (candidate : Candidate) (feature : Feature) : Prop :=
  ∃ year, FeatureDate.baselineYear candidate.data = .ok year ∧
    feature = Lookup.featureOf candidate.id candidate.status candidate.fields candidate.data year
      candidate.compatKey

def rank (candidate : Candidate) : Nat := candidate.status.restrictiveness

def Wins (winner : Candidate) (candidates : List Candidate) : Prop :=
  ∃ earlier later, candidates = earlier ++ winner :: later ∧
    (∀ other ∈ earlier, other.rank ≤ winner.rank) ∧ ∀ other ∈ later, other.rank < winner.rank

theorem Describes.status {candidate : Candidate} {feature : Feature}
    (described : candidate.Describes feature) : feature.status = candidate.status := by
  obtain ⟨year, _, same⟩ := described
  rw [same]
  rfl

theorem Wins.rank_le {winner : Candidate}
    (wins : winner.Wins candidates) {other : Candidate} (member : other ∈ candidates) :
    other.rank ≤ winner.rank := by
  obtain ⟨earlier, later, same, before, after⟩ := wins
  rw [same, List.mem_append, List.mem_cons] at member
  rcases member with member | equal | member
  · exact before other member
  · exact Nat.le_of_eq (congrArg rank equal)
  · exact Nat.le_of_lt (after other member)

/-- A less restrictive candidate at the end leaves the winner. -/
theorem Wins.keep {winner : Candidate}
    (wins : winner.Wins candidates) {last : Candidate} (less : last.rank < winner.rank) :
    winner.Wins (candidates ++ [last]) := by
  obtain ⟨earlier, later, same, before, after⟩ := wins
  refine ⟨earlier, later ++ [last], ?_, before, ?_⟩
  · rw [same, List.append_assoc, List.cons_append]
  · intro other member
    rcases List.mem_append.1 member with member | member
    · exact after other member
    · rw [List.mem_singleton.1 member]
      exact less

end Candidate

namespace Lookup

variable (lookup : Lookup)

theorem get?_eq_none {lookup : Lookup} {identifier : String} :
    lookup.get? identifier = none ↔ identifier ∉ lookup.map (·.1) := by
  simp only [get?, Option.map_eq_none_iff, List.find?_eq_none, List.mem_map, beq_iff_eq]
  constructor
  · rintro absent ⟨entry, member, same⟩
    exact absent entry member same
  · intro absent entry member same
    exact absent ⟨entry, member, same⟩

theorem isSome_get? {lookup : Lookup} {identifier : String} :
    (lookup.get? identifier).isSome = true ↔ identifier ∈ lookup.map (·.1) := by
  rw [← Decidable.not_iff_not, ← get?_eq_none, Bool.not_eq_true, Option.isSome_eq_false_iff,
    Option.isNone_iff_eq_none]

theorem keys_store (identifier : String) (feature : Feature) :
    (lookup.store identifier feature).map (·.1) =
      if identifier ∈ lookup.map (·.1) then lookup.map (·.1)
      else lookup.map (·.1) ++ [identifier] := by
  unfold store
  by_cases known : identifier ∈ lookup.map (·.1)
  · rw [if_pos (isSome_get?.2 known), if_pos known, List.map_map]
    refine List.map_congr_left ?_
    intro entry _
    by_cases same : entry.1 = identifier <;> simp [same]
  · rw [if_neg (mt isSome_get?.1 known), if_neg known, List.map_append, List.map_singleton]

theorem get?_cons (entry : String × Feature) (lookup : Lookup) (identifier : String) :
    get? (entry :: lookup) identifier =
      if entry.1 = identifier then some entry.2 else get? lookup identifier := by
  unfold get?
  by_cases same : entry.1 = identifier <;> simp [same]

theorem get?_append (lookup further : Lookup) (identifier : String) :
    get? (lookup ++ further) identifier = (get? lookup identifier).or (get? further identifier) := by
  simp only [get?, List.find?_append, Option.map_or]

theorem get?_replace (identifier other : String) (feature : Feature) :
    get? (lookup.map fun entry => if entry.1 == identifier then (identifier, feature) else entry)
        other =
      if other = identifier ∧ (lookup.get? identifier).isSome then some feature
      else lookup.get? other := by
  induction lookup with
  | nil => simp [get?]
  | cons entry lookup ih =>
      rw [List.map_cons, get?_cons, ih, get?_cons, get?_cons]
      grind

theorem get?_store (identifier other : String) (feature : Feature) :
    (lookup.store identifier feature).get? other =
      if other = identifier then some feature else lookup.get? other := by
  unfold store
  split
  · rename_i known
    rw [get?_replace]
    simp only [known, and_true]
  · rename_i new
    rw [Option.not_isSome_iff_eq_none] at new
    rw [get?_append, get?_cons]
    grind [get?]

end Lookup

end BrowserScript.Baseline
