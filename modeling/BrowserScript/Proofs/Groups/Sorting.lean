import BrowserScript.Proofs.Groups
import Mathlib.Data.List.Induction

/-!
# Pairs sorted into groups

Sorting pairs by their keys neither loses nor repeats an item: every item stands in one group, and
the items of a group keep their order. The keys stand in the order of their first appearance. This
holds for any notion of equal keys; where equal keys are the same, a group holds exactly the items
of its key.
-/

namespace BrowserScript.Groups

variable {κ α : Type} {same : κ → κ → Bool}

/-! ## One more item -/

/-- A further key is new, or has its place already. -/
theorem keys_add (same : κ → κ → Bool) (key : κ) (item : α) (groups : Groups κ α) :
    (add same key item groups).map (·.1) =
      if (groups.map (·.1)).any (same · key) then groups.map (·.1)
      else groups.map (·.1) ++ [key] := by
  induction groups with
  | nil => rfl
  | cons group groups ih =>
      rw [add, List.map_cons, List.any_cons]
      cases found : same group.1 key with
      | true => rfl
      | false =>
          rw [if_neg Bool.false_ne_true, List.map_cons, ih, Bool.false_or]
          split <;> rfl

/-- A further item stands in one group, and the others stay where they are. -/
theorem items_add (same : κ → κ → Bool) (key : κ) (item : α) (groups : Groups κ α) :
    ((add same key item groups).flatMap (·.2)).Perm (groups.flatMap (·.2) ++ [item]) := by
  induction groups with
  | nil => exact .refl _
  | cons group groups ih =>
      rw [add]
      split
      · rw [List.flatMap_cons, List.flatMap_cons, List.append_assoc, List.append_assoc]
        exact List.perm_append_comm.append_left group.2
      · rw [List.flatMap_cons, List.flatMap_cons, List.append_assoc]
        exact ih.append_left group.2

/-! ## All items -/

/-- The pairs that a group was made from: some of all pairs, in their order, the first of which gave
the group its key; the others have equal ones. -/
structure MadeFrom (same : κ → κ → Bool) (pairs : List (κ × α)) (group : κ × List α)
    (own : List (κ × α)) : Prop where
  kept : own.Sublist pairs
  items : own.map (·.2) = group.2
  first : own.head?.map (·.1) = some group.1
  equal : ∀ pair ∈ own, group.1 = pair.1 ∨ same group.1 pair.1 = true

structure Sorted (same : κ → κ → Bool) (pairs : List (κ × α)) (groups : Groups κ α) : Prop where
  keys : groups.map (·.1) = (pairs.map (·.1)).eraseDupsBy fun later earlier => same earlier later
  items : (groups.flatMap (·.2)).Perm (pairs.map (·.2))
  made : ∀ group ∈ groups, ∃ own, MadeFrom same pairs group own

theorem MadeFrom.concat {pairs own : List (κ × α)} {group : κ × List α}
    (made : MadeFrom same pairs group own) {pair : κ × α} (equal : same group.1 pair.1 = true) :
    MadeFrom same (pairs ++ [pair]) (group.1, group.2 ++ [pair.2]) (own ++ [pair]) where
  kept := made.kept.append (List.Sublist.refl _)
  items := by rw [List.map_append, made.items]; rfl
  first := by
    have starts := made.first
    cases own with
    | nil => cases starts
    | cons first rest => exact starts
  equal := by
    intro other member
    rcases List.mem_append.1 member with earlier | last
    · exact made.equal other earlier
    · rw [List.mem_singleton.1 last]
      exact .inr equal

theorem Sorted.add {pairs : List (κ × α)} {groups : Groups κ α} (sorted : Sorted same pairs groups)
    (pair : κ × α) : Sorted same (pairs ++ [pair]) (groups.add same pair.1 pair.2) where
  keys := by
    rw [keys_add, sorted.keys, List.map_append, List.map_singleton, eraseDupsBy_concat]
  items := by
    rw [List.map_append]
    exact (items_add same pair.1 pair.2 groups).trans (sorted.items.append_right _)
  made := by
    intro group member
    rcases mem_add member with rfl | old | ⟨old, listed, equal, rfl⟩
    · exact ⟨[pair], List.sublist_append_right _ _, rfl, rfl,
        List.forall_mem_singleton.2 (.inl rfl)⟩
    · obtain ⟨own, made⟩ := sorted.made group old
      exact ⟨own, made.kept.trans (List.sublist_append_left _ _), made.items, made.first,
        made.equal⟩
    · obtain ⟨own, made⟩ := sorted.made old listed
      exact ⟨own ++ [pair], made.concat equal⟩

theorem ofPairs_concat (same : κ → κ → Bool) (pairs : List (κ × α)) (pair : κ × α) :
    ofPairs same (pairs ++ [pair]) = (ofPairs same pairs).add same pair.1 pair.2 := by
  rw [ofPairs, List.foldl_append]
  rfl

theorem sorted_ofPairs (same : κ → κ → Bool) (pairs : List (κ × α)) :
    Sorted same pairs (ofPairs same pairs) := by
  induction pairs using List.reverseRecOn with
  | nil => exact ⟨rfl, .refl _, List.forall_mem_nil _⟩
  | append_singleton pairs pair ih =>
      rw [ofPairs_concat]
      exact ih.add pair

/-- Where equal keys are the same, a group holds the items of its key. -/
theorem ofPairs_eq_map [DecidableEq κ] (pairs : List (κ × α)) :
    ofPairs (· == ·) pairs =
      (pairs.map (·.1)).eraseDups.map fun key =>
        (key, (pairs.filter (·.1 = key)).map (·.2)) := by
  induction pairs using List.reverseRecOn with
  | nil => rfl
  | append_singleton pairs pair ih =>
      rw [ofPairs_concat, ih, add_map (fun _ _ => beq_iff_eq) (nodup_eraseDups _),
        List.map_append, List.map_singleton, eraseDups_concat]
      simp only [List.mem_eraseDups]
      split
      · refine List.map_congr_left fun key _ => ?_
        by_cases own : key = pair.1
        · simp [own]
        · simp [own, Ne.symm own]
      · rename_i new
        rw [List.map_append, List.map_singleton]
        congr 1
        · refine List.map_congr_left fun key member => ?_
          have other : pair.1 ≠ key := by
            rintro rfl
            exact new (List.mem_eraseDups.1 member)
          simp [other]
        · have none : pairs.filter (·.1 = pair.1) = [] := by
            refine List.filter_eq_nil_iff.2 fun earlier member equal => ?_
            exact new (List.mem_map.2 ⟨earlier, member, of_decide_eq_true equal⟩)
          simp [none]

end BrowserScript.Groups
