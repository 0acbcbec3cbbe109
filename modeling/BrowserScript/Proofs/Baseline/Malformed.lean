import BrowserScript.Proofs.Baseline.Loosening

/-!
# Malformed registry entries

An entry of a registry may be any value. Three shapes are refused: an entry that is no mapping, a
status that is there and is none, and keys that are neither null nor a list. Entries that pass
these checks may still hold anything in any place. No entry keeps the lookup from being built, and
the refused ones leave nothing behind but their number in the log.
-/

namespace BrowserScript

namespace Value

def isMapping : Value → Bool
  | .map _ => true
  | _ => false

def isListOrNull : Value → Bool
  | .list _ => true
  | .null => true
  | _ => false

end Value

namespace Baseline

/-- Whether an entry is malformed: it is no mapping, it has a status that is none, or it has keys
that are neither null nor a list. -/
def isMalformed : Value → Bool
  | .map fields =>
      (Entries.get? fields "status").any (!·.isMapping) ||
        (Entries.get? fields "compat_features").any (!·.isListOrNull)
  | _ => true

namespace Registry

def malformed (registry : Registry) : Entries :=
  registry.features.filter fun entry => isMalformed entry.2

def wellFormed (registry : Registry) : Registry :=
  ⟨registry.features.filter fun entry => !isMalformed entry.2⟩

end Registry

namespace Lookup

/-- The entries that cannot be used are the malformed ones. -/
theorem usable?_eq_none_iff (entry : Value) : usable? entry = none ↔ isMalformed entry = true := by
  cases entry with
  | map fields =>
      rw [usable?, isMalformed]
      cases Entries.get? fields "status" with
      | none =>
          cases Entries.get? fields "compat_features" with
          | none => simp
          | some keys => cases keys <;> simp [Value.isListOrNull]
      | some status =>
          cases status with
          | map data =>
              cases Entries.get? fields "compat_features" with
              | none => simp [Value.isMapping]
              | some keys => cases keys <;> simp [Value.isMapping, Value.isListOrNull]
          | _ => simp [Value.isMapping]
  | _ => exact iff_of_true rfl rfl

/-- What an entry adds does not depend on how many were skipped before it. -/
theorem addEntry_of_sound {config : Config} {entry : Value × Value}
    (sound : isMalformed entry.2 = false) (skipped other : Nat) (lookup : Lookup) :
    addEntry config (skipped, lookup) entry =
      (fun state => (skipped, state.2)) <$> addEntry config (other, lookup) entry := by
  unfold addEntry
  cases parts : usable? entry.2 with
  | none =>
      rw [(usable?_eq_none_iff entry.2).1 parts] at sound
      cases sound
  | some found =>
      dsimp only
      cases addFeature config entry.1 found.1 found.2.1 found.2.2 lookup with
      | error fault => rfl
      | ok next => rfl

/-- Malformed entries are counted and change nothing else. -/
theorem foldlM_addEntry (config : Config) (entries : Entries) (skipped other : Nat)
    (lookup : Lookup) :
    entries.foldlM (addEntry config) (skipped, lookup) =
      (fun state => (skipped + (entries.filter (isMalformed ·.2)).length, state.2)) <$>
        (entries.filter (!isMalformed ·.2)).foldlM (addEntry config) (other, lookup) := by
  induction entries generalizing skipped other lookup with
  | nil => rfl
  | cons entry entries ih =>
      rw [List.foldlM_cons, List.filter_cons, List.filter_cons]
      cases shape : isMalformed entry.2 with
      | true =>
          rw [addEntry, (usable?_eq_none_iff entry.2).2 shape, if_pos rfl, if_neg (by decide),
            List.length_cons, ← Nat.add_assoc, Nat.add_right_comm]
          exact ih (skipped + 1) other lookup
      | false =>
          rw [addEntry_of_sound shape skipped other, if_neg (by decide), if_pos (by decide),
            List.foldlM_cons]
          cases addEntry config (other, lookup) entry with
          | error fault => rfl
          | ok next => exact ih skipped next.1 next.2

def skipLines (count : Nat) : List LogLine :=
  if count = 0 then [] else [⟨.debug, countText "Skipped " count " malformed registry entries"⟩]

def heldLine (lookup : Lookup) : LogLine :=
  ⟨.debug, countText "Lookup map holds " lookup.length " identifiers"⟩

theorem ofRegistry_eq (registry : Registry) (config : Config) :
    ofRegistry registry config =
      (fun state => (state.2, skipLines state.1 ++ [heldLine state.2])) <$>
        registry.features.foldlM (addEntry config) (0, []) := by
  unfold ofRegistry
  cases registry.features.foldlM (addEntry config) (0, []) with
  | error fault => rfl
  | ok state =>
      change Except.ok (state.2, (if (state.1 == 0) = true then [] else _) ++ _) = _
      simp only [beq_iff_eq]
      rfl

/-- Without malformed entries none is counted. -/
theorem skipped_wellFormed {registry : Registry} {config : Config} {state : Nat × Lookup}
    (built : registry.wellFormed.features.foldlM (addEntry config) (0, []) = .ok state) :
    state.1 = 0 := by
  have none : registry.wellFormed.features.filter (isMalformed ·.2) = [] := by
    refine List.filter_eq_nil_iff.2 fun entry member malformed => ?_
    have sound := (List.mem_filter.1 member).2
    rw [malformed] at sound
    cases sound
  have all : registry.wellFormed.features.filter (!isMalformed ·.2) = registry.wellFormed.features :=
    List.filter_eq_self.2 fun entry member => (List.mem_filter.1 member).2
  have run := foldlM_addEntry config registry.wellFormed.features 0 0 []
  rw [none, all, built] at run
  exact congrArg Prod.fst (Except.ok.inj run)

end Lookup

/-- For every registry whose integers are short enough to be written, whatever its entries are, the
lookup is built. It is the lookup of the registry without the malformed entries, which logs no
skipped ones; their number is logged where there are some, and nothing else changes. -/
theorem malformed_entries_are_inert (registry : Registry) (config : Config)
    (writable : Value.entriesWritable registry.features = true) :
    ∃ lookup,
      Lookup.ofRegistry registry.wellFormed config = .ok (lookup, [Lookup.heldLine lookup]) ∧
      Lookup.ofRegistry registry config =
        .ok (lookup,
          (if registry.malformed.length = 0 then []
            else [⟨.debug,
              countText "Skipped " registry.malformed.length " malformed registry entries"⟩]) ++
            [Lookup.heldLine lookup]) := by
  have run := Lookup.foldlM_addEntry config registry.features 0 0 []
  have written := Value.WrittenIf.foldlM (Lookup.addEntry_writtenIf config) registry.features (0, [])
  rw [← Value.entriesWritable_eq_all, writable] at written
  rw [Lookup.ofRegistry_eq, Lookup.ofRegistry_eq, run]
  cases sound : registry.wellFormed.features.foldlM (Lookup.addEntry config) (0, []) with
  | error fault =>
      have failed := run.trans (congrArg _ sound)
      exact absurd (written fault failed).1 (by decide)
  | ok state =>
      have none := Lookup.skipped_wellFormed sound
      have kept : (registry.features.filter (!isMalformed ·.2)).foldlM (Lookup.addEntry config)
          (0, []) = .ok state := sound
      refine ⟨state.2, ?_, ?_⟩
      · change Except.ok (state.2, Lookup.skipLines state.1 ++ _) = _
        rw [none]
        rfl
      · rw [kept]
        change Except.ok (state.2, Lookup.skipLines (0 + registry.malformed.length) ++ _) = _
        rw [Nat.zero_add]
        rfl

/-- Entries of all three malformed shapes around one that is sound but holds a table of versions
that is no mapping, a list as its date and a key that is no text. -/
def brokenRegistry : Registry :=
  .ofTexts
    [("bare", .int 7),
     ("unsure", .map [(.str "status", .null)]),
     ("odd", .map
       [(.str "status", .map
          [(.str "baseline", .str "low"), (.str "support", .list [.null]),
           (.str "baseline_low_date", .list [.int 2021])]),
        (.str "compat_features", .list [.map [(.str "css", .float .nan)], .str "css.types.x"])]),
     ("unlisted", .map [(.str "status", .map []), (.str "compat_features", .str "css.types.y")])]

theorem brokenRegistry_inert :
    Value.entriesWritable brokenRegistry.features = true ∧
      ∃ lookup,
        Lookup.ofRegistry brokenRegistry.wellFormed narrowScan =
          .ok (lookup, [Lookup.heldLine lookup]) ∧
        Lookup.ofRegistry brokenRegistry narrowScan =
          .ok (lookup,
            [⟨.debug, "Skipped 3 malformed registry entries"⟩, Lookup.heldLine lookup]) := by
  have writable : Value.entriesWritable brokenRegistry.features = true := by with_unfolding_all rfl
  have three : brokenRegistry.malformed.length = 3 := by with_unfolding_all rfl
  obtain ⟨lookup, sound, whole⟩ := malformed_entries_are_inert brokenRegistry narrowScan writable
  rw [three] at whole
  exact ⟨writable, lookup, sound, whole⟩

end Baseline

end BrowserScript
