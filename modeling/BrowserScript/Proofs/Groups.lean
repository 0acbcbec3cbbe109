import BrowserScript.Groups

/-!
# Keys and items in order of appearance

A key keeps the place of its first appearance, and so does the first of equal items. Groups are
described by the list of their keys and the items of each key; adding an item changes one of the
two at its end.
-/

namespace BrowserScript

/-- A further item is kept if none of those already kept is the same. -/
theorem eraseDupsBy_concat {α : Type} (same : α → α → Bool) (items : List α) (item : α) :
    (items ++ [item]).eraseDupsBy same =
      if (items.eraseDupsBy same).any (same item) then items.eraseDupsBy same
      else items.eraseDupsBy same ++ [item] := by
  -- The loop carries what it has kept so far, so the induction is over every such start.
  have run : ∀ (items kept : List α),
      List.eraseDupsBy.loop same (items ++ [item]) kept =
        if (List.eraseDupsBy.loop same items kept).any (same item) then
          List.eraseDupsBy.loop same items kept
        else List.eraseDupsBy.loop same items kept ++ [item] := by
    intro items
    induction items with
    | nil =>
        intro kept
        simp only [List.nil_append, List.eraseDupsBy.loop, List.any_reverse]
        cases kept.any (same item) <;> simp
    | cons first rest ih =>
        intro kept
        cases known : kept.any (same first) with
        | true =>
            simp only [List.cons_append, List.eraseDupsBy.loop, known]
            exact ih kept
        | false =>
            simp only [List.cons_append, List.eraseDupsBy.loop, known]
            exact ih (first :: kept)
  exact run items []

theorem mem_of_mem_eraseDupsBy {α : Type} {same : α → α → Bool} {items : List α} {item : α}
    (kept : item ∈ items.eraseDupsBy same) : item ∈ items := by
  match items with
  | [] => cases kept
  | first :: rest =>
      rw [List.eraseDupsBy_cons] at kept
      rcases List.mem_cons.1 kept with equal | kept
      · exact List.mem_cons.2 (.inl equal)
      · exact List.mem_cons_of_mem first (List.mem_filter.1 (mem_of_mem_eraseDupsBy kept)).1
termination_by items.length
decreasing_by exact Nat.lt_succ_of_le (List.length_filter_le _ _)

/-- No item that is kept is the same as one that is kept before it. -/
theorem pairwise_eraseDupsBy {α : Type} (same : α → α → Bool) (items : List α) :
    (items.eraseDupsBy same).Pairwise fun earlier later => same later earlier = false := by
  match items with
  | [] => exact .nil
  | first :: rest =>
      rw [List.eraseDupsBy_cons]
      refine .cons ?_ (pairwise_eraseDupsBy same _)
      intro later kept
      exact of_decide_eq_true (List.mem_filter.1 (mem_of_mem_eraseDupsBy kept)).2
termination_by items.length
decreasing_by exact Nat.lt_succ_of_le (List.length_filter_le _ _)

/-- An item is kept, or one that it is the same as. -/
theorem kept_or_same_of_mem {α : Type} (same : α → α → Bool) {items : List α} {item : α}
    (member : item ∈ items) :
    ∃ kept ∈ items.eraseDupsBy same, kept = item ∨ same item kept = true := by
  match items with
  | [] => cases member
  | first :: rest =>
      rw [List.eraseDupsBy_cons]
      rcases List.mem_cons.1 member with rfl | member
      · exact ⟨item, List.mem_cons_self, .inl rfl⟩
      · cases repeated : same item first with
        | true => exact ⟨first, List.mem_cons_self, .inr repeated⟩
        | false =>
            have remains : item ∈ rest.filter fun other => decide (same other first = false) :=
              List.mem_filter.2 ⟨member, decide_eq_true repeated⟩
            obtain ⟨kept, listed, holds⟩ := kept_or_same_of_mem same remains
            exact ⟨kept, List.mem_cons_of_mem first listed, holds⟩
termination_by items.length
decreasing_by exact Nat.lt_succ_of_le (List.length_filter_le _ _)

section

variable {κ : Type} [DecidableEq κ]

theorem eraseDups_concat (keys : List κ) (key : κ) :
    (keys ++ [key]).eraseDups =
      if key ∈ keys then keys.eraseDups else keys.eraseDups ++ [key] := by
  rw [List.eraseDups_append]
  split <;> simp_all [List.removeAll, List.eraseDups_cons]

theorem nodup_eraseDups (keys : List κ) : keys.eraseDups.Nodup :=
  (pairwise_eraseDupsBy (· == ·) keys).imp fun differs => (ne_of_beq_false differs).symm

end

namespace Groups

variable {κ α : Type} [DecidableEq κ] {same : κ → κ → Bool}

theorem get_map (lawful : ∀ left right, same left right = true ↔ left = right) (keys : List κ)
    (items : κ → List α) (key : κ) :
    Groups.get same key (keys.map fun other => (other, items other)) =
      if key ∈ keys then items key else [] := by
  induction keys with
  | nil => rfl
  | cons first rest ih =>
      rw [List.map_cons, Groups.get]
      by_cases equal : first = key
      · rw [if_pos ((lawful _ _).2 equal), if_pos (equal ▸ List.mem_cons_self), equal]
      · rw [if_neg (mt (lawful _ _).1 equal), ih]
        simp [Ne.symm equal]

theorem add_map (lawful : ∀ left right, same left right = true ↔ left = right) {keys : List κ}
    (distinct : keys.Nodup) (items : κ → List α) (key : κ) (item : α) :
    Groups.add same key item (keys.map fun other => (other, items other)) =
      if key ∈ keys then
        keys.map fun other =>
          (other, if other = key then items other ++ [item] else items other)
      else (keys.map fun other => (other, items other)) ++ [(key, [item])] := by
  induction keys with
  | nil => rfl
  | cons first rest ih =>
      obtain ⟨new, distinct⟩ := List.nodup_cons.1 distinct
      rw [List.map_cons, Groups.add]
      by_cases equal : first = key
      · subst equal
        have others : ∀ other ∈ rest, other ≠ first := fun other member same => new (same ▸ member)
        rw [if_pos ((lawful _ _).2 rfl), if_pos List.mem_cons_self, List.map_cons, if_pos rfl]
        congr 1
        refine List.map_congr_left ?_
        intro other member
        rw [if_neg (others other member)]
      · rw [if_neg (mt (lawful _ _).1 equal), ih distinct]
        have elsewhere : key ∈ first :: rest ↔ key ∈ rest := by simp [Ne.symm equal]
        simp only [elsewhere]
        split
        · rw [List.map_cons, if_neg equal]
        · rfl

/-! ## Groups of pairs -/

variable {κ α : Type} {same : κ → κ → Bool}

/-- Groups of pairs: every group starts with the item that gave it its key, and every pair stands in
a group with its key or an equal one. -/
structure Collected (same : κ → κ → Bool) (pairs : List (κ × α)) (groups : Groups κ α) : Prop where
  headed : ∀ group ∈ groups, ∃ item rest, group.2 = item :: rest ∧ (group.1, item) ∈ pairs
  listed : ∀ pair ∈ pairs, ∃ group ∈ groups,
    group.2.head? = some pair.2 ∧ group.1 = pair.1 ∨ same group.1 pair.1 = true

/-- A group is new, or old, or an old one with an equal key and one more item. -/
theorem mem_add {key : κ} {item : α} {groups : Groups κ α} {group : κ × List α}
    (member : group ∈ add same key item groups) :
    group = (key, [item]) ∨ group ∈ groups ∨
      ∃ old ∈ groups, same old.1 key = true ∧ group = (old.1, old.2 ++ [item]) := by
  induction groups with
  | nil => exact .inl (List.mem_singleton.1 member)
  | cons first groups ih =>
      rw [add] at member
      split at member
      · rename_i equal
        rcases List.mem_cons.1 member with rfl | later
        · exact .inr (.inr ⟨first, List.mem_cons_self, equal, rfl⟩)
        · exact .inr (.inl (List.mem_cons_of_mem _ later))
      · rcases List.mem_cons.1 member with rfl | later
        · exact .inr (.inl List.mem_cons_self)
        · rcases ih later with new | old | ⟨old, listed, grown⟩
          · exact .inl new
          · exact .inr (.inl (List.mem_cons_of_mem _ old))
          · exact .inr (.inr ⟨old, List.mem_cons_of_mem _ listed, grown⟩)

/-- A group that is there keeps its key and its items. -/
theorem exists_mem_add {key : κ} {item : α} {groups : Groups κ α} {old : κ × List α}
    (member : old ∈ groups) :
    ∃ group ∈ add same key item groups, group.1 = old.1 ∧ old.2 <+: group.2 := by
  induction groups with
  | nil => cases member
  | cons first groups ih =>
      rw [add]
      split
      · rcases List.mem_cons.1 member with rfl | later
        · exact ⟨_, List.mem_cons_self, rfl, List.prefix_append _ _⟩
        · exact ⟨old, List.mem_cons_of_mem _ later, rfl, List.prefix_rfl⟩
      · rcases List.mem_cons.1 member with rfl | later
        · exact ⟨old, List.mem_cons_self, rfl, List.prefix_rfl⟩
        · obtain ⟨group, listed, kept⟩ := ih later
          exact ⟨group, List.mem_cons_of_mem _ listed, kept⟩

/-- The item that is added stands in a group with its key or an equal one. -/
theorem mem_add_self (same : κ → κ → Bool) (key : κ) (item : α) (groups : Groups κ α) :
    ∃ group ∈ add same key item groups, group = (key, [item]) ∨ same group.1 key = true := by
  induction groups with
  | nil => exact ⟨_, List.mem_cons_self, .inl rfl⟩
  | cons first groups ih =>
      rw [add]
      split
      · rename_i equal
        exact ⟨_, List.mem_cons_self, .inr equal⟩
      · obtain ⟨group, listed, kept⟩ := ih
        exact ⟨group, List.mem_cons_of_mem _ listed, kept⟩

theorem Collected.add {pairs : List (κ × α)} {groups : Groups κ α}
    (collected : Collected same pairs groups) (pair : κ × α) :
    Collected same (pairs ++ [pair]) (groups.add same pair.1 pair.2) := by
  refine ⟨fun group member => ?_, fun other member => ?_⟩
  · rcases mem_add member with rfl | old | ⟨old, listed, _, rfl⟩
    · exact ⟨pair.2, [], rfl, List.mem_append_right _ List.mem_cons_self⟩
    · obtain ⟨item, rest, first, inPairs⟩ := collected.headed group old
      exact ⟨item, rest, first, List.mem_append_left _ inPairs⟩
    · obtain ⟨item, rest, first, inPairs⟩ := collected.headed old listed
      exact ⟨item, rest ++ [pair.2], by rw [first]; rfl, List.mem_append_left _ inPairs⟩
  · rcases List.mem_append.1 member with earlier | last
    · obtain ⟨old, listed, kept⟩ := collected.listed other earlier
      obtain ⟨group, inGroups, key, items⟩ := exists_mem_add listed
      refine ⟨group, inGroups, ?_⟩
      rcases kept with ⟨first, own⟩ | equal
      · refine .inl ⟨?_, key.trans own⟩
        obtain ⟨more, whole⟩ := items
        rw [← whole, List.head?_append, first]
        rfl
      · exact .inr (key ▸ equal)
    · rw [List.mem_singleton.1 last]
      obtain ⟨group, inGroups, own | equal⟩ := mem_add_self same pair.1 pair.2 groups
      · exact ⟨group, inGroups, .inl (by rw [own]; exact ⟨rfl, rfl⟩)⟩
      · exact ⟨group, inGroups, .inr equal⟩

theorem collected_ofPairs (same : κ → κ → Bool) (pairs : List (κ × α)) :
    Collected same pairs (ofPairs same pairs) := by
  have run : ∀ (more before : List (κ × α)) (groups : Groups κ α), Collected same before groups →
      Collected same (before ++ more)
        (more.foldl (fun groups pair => add same pair.1 pair.2 groups) groups) := by
    intro more
    induction more with
    | nil =>
        intro before groups collected
        rw [List.append_nil]
        exact collected
    | cons pair more ih =>
        intro before groups collected
        have further := ih (before ++ [pair]) _ (collected.add pair)
        rw [List.append_assoc] at further
        exact further
  exact run pairs [] [] ⟨List.forall_mem_nil _, List.forall_mem_nil _⟩

/-! ## Growth -/

/-- Groups that have grown at their ends: the keys are further keys after the old ones, and under
every key the old items come first. -/
structure Extends (same : κ → κ → Bool) (before after : Groups κ α) : Prop where
  keys : before.map (·.1) <+: after.map (·.1)
  items : ∀ key, before.get same key <+: after.get same key

theorem Extends.refl (same : κ → κ → Bool) (groups : Groups κ α) : Extends same groups groups :=
  ⟨List.prefix_rfl, fun _ => List.prefix_rfl⟩

theorem Extends.trans {first second third : Groups κ α} (left : Extends same first second)
    (right : Extends same second third) : Extends same first third :=
  ⟨left.keys.trans right.keys, fun key => (left.items key).trans (right.items key)⟩

theorem extends_add (same : κ → κ → Bool) (key : κ) (item : α) (groups : Groups κ α) :
    Extends same groups (add same key item groups) := by
  induction groups with
  | nil => exact ⟨List.nil_prefix, fun _ => List.nil_prefix⟩
  | cons group groups ih =>
      rw [add]
      split
      · refine ⟨List.prefix_rfl, fun other => ?_⟩
        rw [get, get]
        split
        · exact List.prefix_append _ _
        · exact List.prefix_rfl
      · refine ⟨(List.prefix_cons_inj group.1).2 ih.keys, fun other => ?_⟩
        rw [get, get]
        split
        · exact List.prefix_rfl
        · exact ih.items other

/-- The item that is added stands under its key. -/
theorem mem_get_add {key : κ} (self : same key key = true) (item : α) (groups : Groups κ α) :
    item ∈ get same key (add same key item groups) := by
  induction groups with
  | nil =>
      rw [add, get, if_pos self]
      exact List.mem_singleton_self item
  | cons group groups ih =>
      rw [add]
      split
      · rename_i found
        rw [get, if_pos found]
        exact List.mem_append_right _ (List.mem_singleton_self item)
      · rename_i other
        rw [get, if_neg other]
        exact ih

end Groups

end BrowserScript
