import BrowserScript.Proofs.Baseline.Candidate
import Mathlib.Data.List.Basic

/-!
# The lookup holds the winners

Entries are added to the lookup one after another, and a feature may replace another one of the
same identifier. After any number of keys, the identifiers stand in the order of their first
candidates and each has the feature of the winner among its candidates so far.
-/

namespace BrowserScript.Baseline

namespace Lookup

variable {last : Candidate} {config : Config} {data : Entries} {candidates : List Candidate}
  {lookup : Lookup} {identifier : String}

def candidatesFor (candidates : List Candidate) (identifier : String) : List Candidate :=
  candidates.filter (·.identifier = identifier)

theorem candidatesFor_concat_self (candidates : List Candidate) (last : Candidate) :
    candidatesFor (candidates ++ [last]) last.identifier =
      candidatesFor candidates last.identifier ++ [last] := by
  simp [candidatesFor]

theorem candidatesFor_concat_other (candidates : List Candidate)
    (other : identifier ≠ last.identifier) :
    candidatesFor (candidates ++ [last]) identifier = candidatesFor candidates identifier := by
  simp [candidatesFor, Ne.symm other]

structure Holds (candidates : List Candidate) (lookup : Lookup) : Prop where
  keys : lookup.map (·.1) = (candidates.map (·.identifier)).eraseDups
  stored : ∀ {identifier feature}, lookup.get? identifier = some feature →
    ∃ winner : Candidate,
      winner.Wins (candidatesFor candidates identifier) ∧ winner.Describes feature

theorem Holds.mem_keys (holds : Holds candidates lookup) :
    identifier ∈ lookup.map (·.1) ↔ ∃ candidate ∈ candidates, candidate.identifier = identifier := by
  rw [holds.keys, List.mem_eraseDups, List.mem_map]

theorem Holds.get?_eq_none (holds : Holds candidates lookup) :
    lookup.get? identifier = none ↔ candidatesFor candidates identifier = [] := by
  rw [Lookup.get?_eq_none, holds.mem_keys, candidatesFor, List.filter_eq_nil_iff]
  simp

/-- The identifier of a further candidate is new, or has its place already. -/
theorem Holds.keys_concat (holds : Holds candidates lookup) (last : Candidate) :
    ((candidates ++ [last]).map (·.identifier)).eraseDups =
      if last.identifier ∈ lookup.map (·.1) then lookup.map (·.1)
      else lookup.map (·.1) ++ [last.identifier] := by
  rw [List.map_append, List.map_singleton, eraseDups_concat, ← holds.keys]
  simp only [holds.mem_keys, List.mem_map]

/-- A candidate whose identifier a more restrictive one has changes nothing. -/
theorem Holds.pass (holds : Holds candidates lookup)
    (taken : lookup.isTaken last.identifier last.status = true) :
    Holds (candidates ++ [last]) lookup := by
  obtain ⟨known, found, less⟩ := (Option.any_eq_true _ _).1 taken
  have present : last.identifier ∈ lookup.map (·.1) := isSome_get?.1 (by rw [found]; rfl)
  constructor
  · rw [holds.keys_concat, if_pos present]
  · intro identifier feature stored
    obtain ⟨winner, wins, described⟩ := holds.stored stored
    refine ⟨winner, ?_, described⟩
    by_cases same : identifier = last.identifier
    · subst same
      rw [found] at stored
      cases stored
      rw [candidatesFor_concat_self]
      refine wins.keep ?_
      rw [described.status] at less
      exact of_decide_eq_true less
    · rw [candidatesFor_concat_other candidates same]
      exact wins

/-- A candidate whose identifier no more restrictive one has is the winner from there on. -/
theorem Holds.store (holds : Holds candidates lookup)
    (free : lookup.isTaken last.identifier last.status = false) {feature : Feature}
    (described : last.Describes feature) :
    Holds (candidates ++ [last]) (lookup.store last.identifier feature) := by
  have most : ∀ other ∈ candidatesFor candidates last.identifier, other.rank ≤ last.rank := by
    intro other member
    cases found : lookup.get? last.identifier with
    | none =>
        rw [holds.get?_eq_none.1 found] at member
        cases member
    | some known =>
        obtain ⟨winner, wins, describes⟩ := holds.stored found
        rw [isTaken, found, Option.any_some, describes.status] at free
        exact Nat.le_trans (wins.rank_le member) (Nat.not_lt.1 (of_decide_eq_false free))
  constructor
  · rw [keys_store, holds.keys_concat]
  · intro identifier other stored
    rw [get?_store] at stored
    by_cases same : identifier = last.identifier
    · subst same
      rw [if_pos rfl] at stored
      cases stored
      rw [candidatesFor_concat_self]
      exact ⟨last, ⟨_, [], rfl, most, List.forall_mem_nil _⟩, described⟩
    · rw [if_neg same] at stored
      rw [candidatesFor_concat_other candidates same]
      exact holds.stored stored

theorem Holds.claim {next : Lookup}
    (holds : Holds candidates lookup) {id : Value} {status : Status} {fields : Entries}
    {key : Value} (claimed : claim id status fields data lookup key = .ok next) :
    Holds (candidates ++ (Candidate.ofKey? id status fields data key).toList) next := by
  unfold Lookup.claim at claimed
  obtain ⟨text, shown, claimed⟩ := bind_eq_ok claimed
  unfold Candidate.ofKey?
  rw [shown]
  dsimp only
  cases named : CompatKey.identifier? text with
  | none =>
      rw [named] at claimed
      cases claimed
      rw [Option.map_none, Option.toList_none, List.append_nil]
      exact holds
  | some identifier =>
      rw [named] at claimed
      rw [Option.map_some, Option.toList_some]
      dsimp only at claimed
      cases taken : lookup.isTaken identifier status with
      | true =>
          rw [taken, if_pos rfl] at claimed
          cases claimed
          exact holds.pass taken
      | false =>
          rw [taken, if_neg Bool.false_ne_true] at claimed
          obtain ⟨year, dated, claimed⟩ := bind_eq_ok claimed
          cases claimed
          exact holds.store taken ⟨year, dated, rfl⟩

/-- A fold that takes up the listed candidates of each item in turn takes up those of all items. -/
theorem foldlM_induction {σ α β : Type} (Inv : List β → σ → Prop) {listed : α → List β}
    {step : σ → α → Except Fault σ}
    (preserves : ∀ {before state item next}, Inv before state → step state item = .ok next →
      Inv (before ++ listed item) next)
    {items : List α} {before : List β} {state final : σ} (start : Inv before state)
    (done : items.foldlM step state = .ok final) : Inv (before ++ items.flatMap listed) final := by
  induction items generalizing before state with
  | nil =>
      cases done
      rw [List.flatMap_nil, List.append_nil]
      exact start
  | cons item rest ih =>
      rw [List.foldlM_cons] at done
      obtain ⟨next, stepped, done⟩ := bind_eq_ok done
      rw [List.flatMap_cons, ← List.append_assoc]
      exact ih (preserves start stepped) done

theorem admits_eq {status : Status} {admitted : Bool}
    (answered : admits config status data = .ok admitted) :
    admitted = (config.includes status && Candidate.isRecent config data) := by
  unfold admits at answered
  unfold Candidate.isRecent
  cases included : config.includes status with
  | false =>
      rw [included] at answered
      cases answered
      rfl
  | true =>
      rw [included, if_neg (by decide)] at answered
      rw [Bool.true_and]
      split at answered
      · rename_i unlimited
        cases answered
        rw [unlimited]
      · rename_i unlimited
        cases answered
        rw [unlimited]
        split <;> simp_all
      · rename_i threshold nonzero limited
        obtain ⟨year, dated, answered⟩ := bind_eq_ok answered
        cases answered
        rw [limited, dated]
        cases year with
        | none => rfl
        | some year =>
            have notBefore : (!decide (year < threshold)) = decide (threshold ≤ year) := by
              rw [← decide_not]
              exact decide_eq_decide.2 Int.not_lt
            change (!decide (year < threshold)) = (decide (threshold = 0) || _)
            rw [notBefore, decide_eq_false nonzero, Bool.false_or]

theorem Holds.addFeature {next : Lookup}
    (holds : Holds candidates lookup) {id : Value} {fields : Entries}
    {keys : List Value} (added : addFeature config id fields data keys lookup = .ok next) :
    Holds (candidates ++ Candidate.ofParts config id fields data keys) next := by
  unfold Lookup.addFeature at added
  unfold Candidate.ofParts
  cases labelled : (Entries.get? data "baseline").bind Status.ofValue? with
  | none =>
      rw [labelled] at added
      cases added
      rw [List.append_nil]
      exact holds
  | some status =>
      rw [labelled] at added
      cases keys with
      | nil =>
          cases added
          simp only [List.filterMap_nil, ite_self, List.append_nil]
          exact holds
      | cons key keys =>
          obtain ⟨admitted, answered, added⟩ := bind_eq_ok added
          dsimp only
          rw [← admits_eq answered]
          cases admitted with
          | false =>
              cases added
              rw [if_neg Bool.false_ne_true, List.append_nil]
              exact holds
          | true =>
              rw [if_pos rfl, List.filterMap_eq_flatMap_toList]
              exact foldlM_induction Holds (fun held claimed => held.claim claimed) holds added

theorem Holds.addEntry {state next : Nat × Lookup}
    {entry : Value × Value} (holds : Holds candidates state.2)
    (added : addEntry config state entry = .ok next) :
    Holds (candidates ++ Candidate.ofEntry config entry) next.2 := by
  unfold Lookup.addEntry at added
  unfold Candidate.ofEntry
  cases parts : usable? entry.2 with
  | none =>
      rw [parts] at added
      cases added
      rw [List.append_nil]
      exact holds
  | some found =>
      obtain ⟨fields, data, keys⟩ := found
      rw [parts] at added
      obtain ⟨lookup, featured, added⟩ := bind_eq_ok added
      cases added
      exact holds.addFeature featured

end Lookup

open Value

theorem FeatureDate.year?_writtenIf (date : Value) : WrittenIf date.isWritable (year? date) := by
  unfold year?
  split
  · exact (display_writtenWhen date).writtenIf.bind fun _ => .ok _
  · exact .ok _

theorem FeatureDate.baselineYear_writtenIf (data : Entries) :
    WrittenIf (entriesWritable data) (baselineYear data) := by
  refine .bind ((year?_writtenIf _).strengthen ?_) fun _ => .ok _
  intro writable
  unfold orElse
  split
  · exact isWritable_getD_get? _ writable
  · exact isWritable_getD_get? _ writable

namespace Lookup

variable (config : Config)

theorem admits_writtenIf (status : Status) (data : Entries) :
    WrittenIf (entriesWritable data) (admits config status data) := by
  unfold admits
  split
  · exact .ok _
  · split
    · exact .ok _
    · exact .ok _
    · refine .bind ((FeatureDate.year?_writtenIf _).strengthen ?_) fun _ => .ok _
      exact isWritable_getD_get? _

theorem claim_writtenIf {data : Entries} (id : Value) (status : Status) (fields : Entries)
    (lookup : Lookup) (key : Value) :
    WrittenIf (entriesWritable data && key.isWritable) (claim id status fields data lookup key) := by
  refine .bind ((display_writtenWhen key).writtenIf.strengthen ?_) fun shown => ?_
  · intro both
    exact (Bool.and_eq_true_iff.1 both).2
  · split
    · exact .ok _
    · split
      · exact .ok _
      · refine .bind ((FeatureDate.baselineYear_writtenIf data).strengthen ?_) fun _ => .ok _
        intro both
        exact (Bool.and_eq_true_iff.1 both).1

theorem addFeature_writtenIf (id : Value) (fields data : Entries)
    (keys : List Value) (lookup : Lookup) :
    WrittenIf (entriesWritable data && areWritable keys)
      (addFeature config id fields data keys lookup) := by
  unfold addFeature
  split
  · exact .ok _
  · exact .ok _
  · refine .bind ((admits_writtenIf _ _ data).strengthen ?_) fun admitted => ?_
    · intro both
      exact (Bool.and_eq_true_iff.1 both).1
    · split
      · refine (WrittenIf.foldlM (claim_writtenIf id _ fields) _ lookup).strengthen ?_
        intro both
        rw [areWritable_eq_all] at both
        obtain ⟨dataWritable, keysWritable⟩ := Bool.and_eq_true_iff.1 both
        rw [List.all_eq_true] at keysWritable ⊢
        intro key member
        exact Bool.and_eq_true_iff.2 ⟨dataWritable, keysWritable key member⟩
      · exact .ok _

/-- The parts of an entry are parts of a writable value. -/
theorem writable_of_usable? {entry : Value} {fields data : Entries} {keys : List Value}
    (parts : usable? entry = some (fields, data, keys)) (writable : entry.isWritable = true) :
    (entriesWritable data && areWritable keys) = true := by
  unfold usable? at parts
  split at parts
  · rename_i fields
    rw [isWritable] at writable
    have statusWritable :
        ((Entries.get? fields "status").getD (.map [])).isWritable = true := by
      cases found : Entries.get? fields "status" with
      | none => rfl
      | some status => exact isWritable_of_get? found writable
    have keysWritable := isWritable_getD_get? "compat_features" writable
    split at parts
    · rename_i status shape
      rw [shape, isWritable] at statusWritable
      split at parts
      · cases parts
        rw [statusWritable]
        rfl
      · rename_i listed
        cases parts
        rw [listed, isWritable] at keysWritable
        rw [statusWritable, keysWritable]
        rfl
      · cases parts
    · cases parts
  · cases parts

theorem addEntry_writtenIf (state : Nat × Lookup) (entry : Value × Value) :
    WrittenIf (entry.1.isWritable && entry.2.isWritable) (addEntry config state entry) := by
  unfold addEntry
  split
  · exact .ok _
  · rename_i fields data keys parts
    refine .bind ((addFeature_writtenIf config entry.1 fields data keys state.2).strengthen ?_)
      fun _ => .ok _
    intro both
    exact writable_of_usable? parts (Bool.and_eq_true_iff.1 both).2

end Lookup

/-- For every registry and configuration, an identifier is absent from the lookup exactly when it
has no candidate; otherwise it has the feature built from the last of its most restrictive
candidates. Identifiers stand in the order of their first candidates. The lookup can fail to be
built only where the registry holds an integer that is too long to be written. -/
theorem lookup_holds_last_most_restrictive (registry : Registry) (config : Config) :
    (∃ lookup lines, Lookup.ofRegistry registry config = .ok (lookup, lines) ∧
      lookup.map (·.1) =
        ((Candidate.ofRegistry registry config).map (·.identifier)).eraseDups ∧
      ∀ identifier,
        (lookup.get? identifier = none ↔
          Lookup.candidatesFor (Candidate.ofRegistry registry config) identifier = []) ∧
        ∀ feature, lookup.get? identifier = some feature →
          ∃ winner : Candidate,
            winner.Wins
              (Lookup.candidatesFor (Candidate.ofRegistry registry config) identifier) ∧
            winner.Describes feature) ∨
    (Lookup.ofRegistry registry config = .error Fault.tooLong ∧
      entriesWritable registry.features = false) := by
  unfold Lookup.ofRegistry
  cases built : registry.features.foldlM (Lookup.addEntry config) (0, []) with
  | error fault =>
      have written := WrittenIf.foldlM (Lookup.addEntry_writtenIf config) registry.features (0, [])
      obtain ⟨unwritable, long⟩ := written fault built
      right
      rw [entriesWritable_eq_all, unwritable, long]
      exact ⟨rfl, rfl⟩
  | ok state =>
      have start : Lookup.Holds [] [] := by
        constructor
        · rfl
        · intro identifier feature stored
          cases stored
      have holds : Lookup.Holds (Candidate.ofRegistry registry config) state.2 :=
        Lookup.foldlM_induction (fun candidates state => Lookup.Holds candidates state.2)
          (fun held added => held.addEntry added) start built
      left
      refine ⟨state.2, _, rfl, holds.keys, ?_⟩
      intro identifier
      exact ⟨holds.get?_eq_none, fun feature stored => holds.stored stored⟩

end BrowserScript.Baseline
